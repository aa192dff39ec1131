import SqlFacts.Text.Basic

/-!
# Tokens

A token is a piece of SQL text that belongs together: a literal, a quoted identifier, a number, a
parenthesis, or a run of word or operator characters. Tokens know their span in the text; blanks
and comments lie between them.
-/

namespace SqlFacts

/-- What a token is, as far as cutting it into lexemes goes. -/
inductive TokenKind where
  | string
  | identifier
  | number
  | leftParen
  | rightParen
  | parameterMark
  | other
  deriving DecidableEq, Repr

/-- A piece of SQL text with its span. The text of a literal or a quoted identifier is unquoted. -/
structure Token where
  kind : TokenKind
  text : String
  start : Nat
  stop : Nat
  deriving DecidableEq, Repr

/-- Why a text cannot be cut into tokens. -/
inductive TokenError where
  | unclosedQuote
  | unclosedComment
  | loneDollar
  deriving DecidableEq, Repr

/-- A way to cut a text into tokens. -/
abbrev Tokenizer := String → Except TokenError (List Token)

namespace TokenKind

/-- The kind of a token type by its full name. Every type whose name ends in `STRING` is a string
literal. -/
def ofTypeName (name : String) : TokenKind :=
  if "STRING".toList.isSuffixOf name.toList then .string
  else if name = "IDENTIFIER" then .identifier
  else if name = "NUMBER" then .number
  else if name = "L_PAREN" then .leftParen
  else if name = "R_PAREN" then .rightParen
  else if name = "PARAMETER" then .parameterMark
  else .other

end TokenKind

namespace Token

/-- The characters that are tokens of their own and end a word. -/
def symbolChars : List Char := "()[]\x7b\x7d&^:,.-=><%!|+;/\\*~?@#'`\"$".toList

/-- Tests whether a character goes on with a word. -/
def isWordChar (c : Char) : Bool := !Text.isBlank c && !symbolChars.contains c

end Token

end SqlFacts
