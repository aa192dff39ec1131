import SqlFacts.Lexeme.Basic
import SqlFacts.Text.Basic
import SqlFacts.Token.Scan

/-!
# Lexemes from tokens

Literals, quoted identifiers, numbers and placeholders are lexemes as they are. Every other token
is cut into its ASCII words, so that each keyword of a compound token has a span of its own, and
is a symbol if it has none. A closing parenthesis lies outside the group that it closes; without
an open group it stays at depth zero.
-/

namespace SqlFacts

/-- A word inside a text, with its span. -/
structure WordSpan where
  text : String
  start : Nat
  stop : Nat
  deriving DecidableEq, Repr

/-- Tests whether a character may begin an ASCII word. -/
def isWordStart (c : Char) : Bool := c.isAlpha || c == '_'

/-- Tests whether a character may go on with an ASCII word. -/
def isWordPart (c : Char) : Bool := c.isAlphanum || c == '_'

/-- The ASCII words of a text that begins at the given offset. `taken` counts the characters in
front that the last word has taken. -/
def asciiWords : (offset taken : Nat) → List Char → List WordSpan
  | _, _, [] => []
  | offset, taken + 1, _ :: cs => asciiWords (offset + 1) taken cs
  | offset, 0, c :: cs =>
    if isWordStart c then
      let tail := cs.takeWhile isWordPart
      ⟨String.ofList (c :: tail), offset, offset + 1 + tail.length⟩ ::
        asciiWords (offset + 1) tail.length cs
    else asciiWords (offset + 1) 0 cs

namespace Lexeme

/-- The lexemes of one token at the given depth of a text. -/
def ofToken (source : List Char) (depth : Int) (token : Token) : List Lexeme :=
  let whole (kind : LexemeKind) (text : String) : List Lexeme :=
    [⟨kind, text, token.start, token.stop, depth⟩]
  let raw := Text.slice source token.start token.stop
  match token.kind with
  | .string => whole .string token.text
  | .identifier => whole .name token.text
  | .number => whole .number (String.ofList raw)
  | _ =>
    if token.text = "?" then whole .parameter "?"
    else
      match asciiWords token.start 0 raw with
      | [] => whole .symbol (String.ofList raw)
      | words => words.map fun word => ⟨.word, word.text, word.start, word.stop, depth⟩

/-- The depth of a token, given the depth behind the token before it. -/
def depthAt (depth : Int) (token : Token) : Int :=
  if token.kind = .rightParen then max (depth - 1) 0 else depth

/-- The depth behind a token, given the depth behind the token before it. -/
def depthBehind (depth : Int) (token : Token) : Int :=
  if token.kind = .leftParen then depthAt depth token + 1 else depthAt depth token

/-- The lexemes of a list of tokens of a text, from the given depth on. -/
def ofTokensAt (source : List Char) : (depth : Int) → List Token → List Lexeme
  | _, [] => []
  | depth, token :: tokens =>
    ofToken source (depthAt depth token) token ++
      ofTokensAt source (depthBehind depth token) tokens

/-- The lexemes of a list of tokens of a text. -/
def ofTokens (sql : String) (tokens : List Token) : List Lexeme := ofTokensAt sql.toList 0 tokens

/-- The lexemes of a text that is cut in the given way. -/
def lexBy (tokenize : Tokenizer) (sql : String) : Except TokenError (List Lexeme) :=
  (tokenize sql).map (ofTokens sql)

/-- The lexemes of a text. -/
def lex (sql : String) : Except TokenError (List Lexeme) := lexBy Token.scan sql

end Lexeme

end SqlFacts
