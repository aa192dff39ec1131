import SqlFacts.Lexeme.Reading
import SqlFacts.Statement.Keyword

/-!
# Formats, files and placeholders

The clauses that say where rows come from, where they go and in which format they are written,
and the offsets of the placeholders for values.
-/

namespace SqlFacts

open Lexeme

/-- The words that may follow a column called `format` but name no format. -/
def formatStopWords : List String :=
  ["AS", "FORMAT", "FROM", "GROUP", "HAVING", "INTO", "JOIN", "LIMIT", "ON", "ORDER", "PREWHERE",
    "SELECT", "SETTINGS", "UNION", "VALUES", "WHERE", "WITH"]

/-- Tests whether the first lexeme of a list, right behind `FORMAT`, names a format. The rows of
`VALUES` may follow in parentheses; any other name in front of a parenthesis is that of a call. -/
def namesFormat : List Lexeme → Bool
  | [] => false
  | candidate :: rest =>
    candidate.isWord [Keyword.values.name] ||
      (candidate.isIdentifier && !startsWith (isSymbol "(") rest &&
        !candidate.isWord formatStopWords)

/-- The format of a `FORMAT name` clause in front of a list. -/
def formatHere? (limit : Int) : List Lexeme → Option String
  | word :: name :: rest =>
    if word.isWordWithin [Keyword.format.name] limit && namesFormat (name :: rest) then
      some name.text
    else none
  | _ => none

/-- The format of the last `FORMAT name` clause whose `FORMAT` is nested no deeper than the
limit. -/
def format? (limit : Int) (lexemes : List Lexeme) : Option String :=
  lastSome (formatHere? limit) lexemes

/-- The literal behind two words in front of a list. -/
def literalHere? (first second : Keyword) (limit : Int) : List Lexeme → Option String
  | a :: b :: literal :: _ =>
    if a.isWordWithin [first.name] limit && b.isWord [second.name] && literal.isString then
      some literal.text
    else none
  | _ => none

/-- The file of the first `INTO OUTFILE 'file'` clause. -/
def outfile? (limit : Int) (lexemes : List Lexeme) : Option String :=
  firstSome (literalHere? .into .outfile limit) lexemes

/-- The file of the first `FROM INFILE 'file'` clause. -/
def infile? (limit : Int) (lexemes : List Lexeme) : Option String :=
  firstSome (literalHere? .from .infile limit) lexemes

/-- The structure of a call `input('structure')` in front of a list. -/
def inputCallHere? : List Lexeme → Option String
  | word :: paren :: literal :: _ =>
    if word.isWord ["INPUT"] && paren.isSymbol "(" && literal.isString then some literal.text
    else none
  | _ => none

/-- Where the rows of a statement come from: the file of `FROM INFILE`, else the structure of a
call of `input`, at whatever depth. -/
def input? (limit : Int) (lexemes : List Lexeme) : Option String :=
  match infile? limit lexemes with
  | some file => some file
  | none => firstSome inputCallHere? lexemes

/-- The offsets of the placeholders. -/
def placeholders (lexemes : List Lexeme) : List Nat :=
  (lexemes.filter (·.kind == .parameter)).map start

end SqlFacts
