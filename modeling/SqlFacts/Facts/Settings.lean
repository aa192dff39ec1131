import SqlFacts.Lexeme.Reading
import SqlFacts.Lexeme.Script
import SqlFacts.OrderedMap
import SqlFacts.Statement.Keyword
import SqlFacts.Statement.Kind
import SqlFacts.Text.Basic

/-!
# Settings

Assignments `name = value, ...` behind the word `SETTINGS`, or behind the verb of a `SET`. A value
reaches up to a comma or a closing keyword at the depth of the list; it is the text between, or
the content of a literal that stands alone.
-/

namespace SqlFacts

open Lexeme

/-- The words that end a list of assignments. -/
def settingsEndWords : List String :=
  ["FORMAT", "FROM", "INTO", "SELECT", "UNION", "VALUES", "WITH"]

/-- Tests whether a lexeme ends a value of a list of assignments at the given depth. -/
def endsValue (depth : Int) (lx : Lexeme) : Bool :=
  lx.depth == depth && (lx.isSymbol "," || lx.isWord settingsEndWords)

/-- The text of a value: the content of a lone literal, else the text from its first to its last
lexeme. -/
def valueText (source : List Char) (first : Lexeme) (others : List Lexeme) : String :=
  if others.isEmpty && first.isString then first.text
  else Text.sliceText source first.start ((others.getLast?.getD first).stop)

/-- The assignments in front of a list, at the given depth. `taken` counts the lexemes in front
that the last assignment has taken. -/
def assignmentsAt (source : List Char) (depth : Int) : (taken : Nat) → List Lexeme →
    List (String × String)
  | taken + 1, _ :: lexemes => assignmentsAt source depth taken lexemes
  | 0, name :: equals :: first :: rest =>
    if name.isIdentifier && equals.isSymbol "=" && !endsValue depth first then
      let others := rest.takeWhile (!endsValue depth ·)
      let assignment := (name.text, valueText source first others)
      if startsWith (isSymbol ",") (rest.dropWhile (!endsValue depth ·)) then
        assignment :: assignmentsAt source depth (others.length + 3) (equals :: first :: rest)
      else [assignment]
    else []
  | _, _ => []

/-- The assignments in front of a list, at the depth of its first lexeme. -/
def assignments (source : List Char) (lexemes : List Lexeme) : List (String × String) :=
  match lexemes with
  | [] => []
  | first :: _ => assignmentsAt source first.depth 0 lexemes

/-- The settings of a statement with the given leading word. -/
def readSettings (sql : String) (lexemes : List Lexeme) (kind : Kind) (head : Option Nat) :
    OrderedMap String :=
  let list :=
    match kind, head with
    | .set, some head => lexemes.drop (head + 1)
    | _, _ =>
      (afterWord? [Keyword.settings.name] (bodyDepth lexemes head) lexemes).getD []
  OrderedMap.ofList (assignments sql.toList list)

end SqlFacts
