import SqlFacts.Facts.Clause
import SqlFacts.Facts.Position
import SqlFacts.Facts.Settings
import SqlFacts.Facts.Target

/-!
# Facts about a statement

Everything that is read from the lexemes of one statement. Each fact follows from the leading
word, the kind that it announces, and the depth of the body.
-/

namespace SqlFacts

/-- What is known about a statement. `head` and `objectWord` are indices of lexemes. -/
structure Facts where
  head : Option Nat
  kind : Kind
  depth : Int
  objectWord : Option Nat
  target : Target
  input : Option String
  format : Option String
  outfile : Option String
  parameters : List Nat
  positions : List (Keyword × Nat)
  settings : OrderedMap String

/-- The facts about a statement with the given lexemes, whose spans refer to the given text. -/
def Facts.ofLexemes (sql : String) (lexemes : List Lexeme) : Facts :=
  let head := Lexeme.leadingWord? lexemes
  let kind := Kind.ofStatement lexemes head
  let depth := Lexeme.bodyDepth lexemes head
  { head
    kind
    depth
    objectWord := objectWordIndex? lexemes head
    target := Target.ofStatement lexemes kind head
    input := input? depth lexemes
    format := format? depth lexemes
    outfile := outfile? depth lexemes
    parameters := placeholders lexemes
    positions := keywordPositions lexemes kind head
    settings := readSettings sql lexemes kind head }

end SqlFacts
