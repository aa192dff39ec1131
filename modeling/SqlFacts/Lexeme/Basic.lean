import SqlFacts.Text.UpperCase

/-!
# Lexemes

The units that statements are read in: words, quoted names, literals, numbers, placeholders and
symbols, each with its span in the text and the number of parentheses open around it. Words are
compared without regard to case, symbols exactly.
-/

namespace SqlFacts

/-- What a lexeme is. -/
inductive LexemeKind where
  | word
  | name
  | string
  | number
  | parameter
  | symbol
  deriving DecidableEq, Repr

/-- A unit of a statement. The text of a quoted name or a literal is unquoted; `stop` is
exclusive; `depth` counts the open parentheses around the lexeme. -/
structure Lexeme where
  kind : LexemeKind
  text : String
  start : Nat
  stop : Nat
  depth : Int
  deriving DecidableEq, Repr

namespace Lexeme

/-- Tests for a bare word or a quoted name. -/
def isIdentifier (lx : Lexeme) : Bool := lx.kind == .word || lx.kind == .name

/-- Tests for a literal. -/
def isString (lx : Lexeme) : Bool := lx.kind == .string

/-- The text in capitals. -/
def capitals (lx : Lexeme) : String := Text.upper lx.text

/-- Tests for a bare word that reads, in capitals, as one of the given words. -/
def isWord (words : List String) (lx : Lexeme) : Bool :=
  lx.kind == .word && words.contains lx.capitals

/-- Tests for the given symbol. -/
def isSymbol (symbol : String) (lx : Lexeme) : Bool := lx.kind == .symbol && lx.text == symbol

/-- Tests for one of the given words, nested no deeper than the limit. -/
def isWordWithin (words : List String) (limit : Int) (lx : Lexeme) : Bool :=
  lx.depth ≤ limit && lx.isWord words

end Lexeme

namespace LexemeKind

/-- The value that stands for a kind of lexemes in data. -/
def value : LexemeKind → String
  | .word => "word"
  | .name => "name"
  | .string => "string"
  | .number => "number"
  | .parameter => "parameter"
  | .symbol => "symbol"

/-- The kind that a value stands for. -/
def ofValue? (value : String) : Option LexemeKind :=
  [word, name, string, number, parameter, symbol].find? (·.value == value)

end LexemeKind

end SqlFacts
