import SqlFacts.Text.UpperCase
import SqlFacts.Token.Comment
import SqlFacts.Token.Number
import SqlFacts.Token.Quote

/-!
# Cutting text into tokens

The text is cut from left to right: at each place stands a blank, a comment or a token, told by
what the text begins with there, the longest mark or operator first. Parentheses, literals,
quoted identifiers and numbers keep their own kinds; everything else is of the kind `other`.
-/

namespace SqlFacts.Token

/-- What the marks that begin a piece of text announce. -/
inductive Opener where
  | literal
  | dollar
  | comment (style : CommentStyle)
  | operator
  deriving DecidableEq, Repr

/-- The operators of more than one character. -/
def operators : List String :=
  ["!=", "#>", "#>>", "%\x7d", "&&", "&<", "&>", "+%\x7d", "+\x7d\x7d", "-%\x7d", "->", "->>",
    "-|-", "-\x7d\x7d", ".:", ".^", "::", ":=", "<->", "<<->>", "<=", "<=>", "<>", "==", "=>",
    ">=", "?::", "??", "\x7b%", "\x7b%+", "\x7b%-", "\x7b\x7b+", "\x7b\x7b-", "|>", "||", "~*",
    "~~", "~~*", "~~~"]

/-- The marks that begin a piece of text, with what they announce. -/
def openers : List (List Char × Opener) :=
  operators.map (fun s => (s.toList, .operator)) ++
    [(['-', '-'], .comment .line), (['#'], .comment .line), (['#', '!'], .comment .line),
      (['/', '*'], .comment (.block ('/', '*') ('*', '/'))),
      (['\x7b', '#'], .comment (.block ('\x7b', '#') ('#', '\x7d'))),
      (['\''], .literal), (['N', '\''], .literal), (['n', '\''], .literal), (['$'], .dollar)]

/-- The longest mark that a text begins with. -/
def opener? (cs : List Char) : Option (List Char × Opener) :=
  openers.foldl
    (fun best candidate =>
      if candidate.1.isPrefixOf cs &&
          (best.map (·.1.length)).all (· < candidate.1.length) then some candidate
      else best)
    none

/-- What stands at a place of the text: the token, unless it is a gap, and the number of
characters behind the first one that belong to it. -/
structure Piece where
  token : Option (TokenKind × List Char)
  extra : Nat
  deriving DecidableEq, Repr

/-- The kind of a symbol of one character. -/
def symbolKind (c : Char) : TokenKind :=
  if c == '(' then .leftParen
  else if c == ')' then .rightParen
  else if c == '@' then .parameterMark
  else .other

/-- The names of types that count as string literals wherever they are not names. -/
def literalTypeNames : List String := ["FIXEDSTRING", "LINESTRING", "MULTILINESTRING"]

/-- The piece that begins with a word character: a bare word. -/
def wordPiece (afterMark : Bool) (c : Char) (cs : List Char) : Piece :=
  let tail := cs.takeWhile isWordChar
  let word := c :: tail
  let kind :=
    if !afterMark && literalTypeNames.contains (Text.upper (String.ofList word)) then
      TokenKind.string
    else .other
  ⟨some (kind, word), tail.length⟩

/-- The piece that begins with a digit. -/
def numberPiece (afterMark : Bool) (c : Char) (cs : List Char) : Piece :=
  match if c == '0' then cs.head?.bind radixBase? else none with
  | some base =>
    let digits := (cs.drop 1).takeWhile isWordChar
    if isRadixNumber base digits then ⟨some (.string, digits), digits.length + 1⟩
    else ⟨some (.identifier, c :: cs.take (digits.length + 1)), digits.length + 1⟩
  | none =>
    match decimalTail afterMark c false .absent cs with
    | .number length => ⟨some (.number, c :: cs.take length), length⟩
    | .name length => ⟨some (.other, c :: cs.take length), length⟩

/-- The piece that a quotation mark of the given length begins; `cs` is the text from the first
character of the mark on. -/
def quotedPiece (kind : TokenKind) (quote : Quote) (markLength : Nat) (cs : List Char) :
    Except TokenError Piece :=
  match quote.body? (cs.drop markLength) with
  | some body => .ok ⟨some (kind, body.text), markLength + body.length - 1⟩
  | none => .error .unclosedQuote

/-- The piece that a dollar sign begins, given the text behind it: a text between two copies of a
tag, where the tag may be empty. -/
def dollarPiece (cs : List Char) : Except TokenError Piece :=
  if cs.isEmpty then .error .loneDollar
  else
    match if cs.head? == some '$' then some ⟨[], 1⟩ else Quote.tag.body? cs with
    | none => .error .unclosedQuote
    | some tag =>
      match (Quote.tagged tag.text).body? (cs.drop tag.length) with
      | some body => .ok ⟨some (.string, body.text), tag.length + body.length⟩
      | none => .error .unclosedQuote

/-- The keyword that holds a symbol and is still one token, in whatever case its letters are.
Letters outside ASCII stand for none of its own. -/
def symbolKeyword : String := "USER-DEFINED"

/-- The piece that begins with the given mark. -/
def openerPiece (mark : List Char) (opener : Opener) (cs : List Char) : Except TokenError Piece :=
  match opener with
  | .literal => quotedPiece .string .literal mark.length cs
  | .dollar => dollarPiece (cs.drop 1)
  | .comment style =>
    match style.length? (cs.drop mark.length) with
    | some length => .ok ⟨none, mark.length + length - 1⟩
    | none => .error .unclosedComment
  | .operator => .ok ⟨some (.other, mark), mark.length - 1⟩

/-- The piece that a text begins with, told by its first character. `afterMark` tells whether the
last token was a parameter mark. -/
def piece (afterMark : Bool) (c : Char) (cs : List Char) : Except TokenError Piece :=
  let front := ((c :: cs).take symbolKeyword.length).map Char.toUpper
  if Text.isBlank c then .ok ⟨none, 0⟩
  else if c.isDigit then .ok (numberPiece afterMark c cs)
  else if c == '"' || c == '`' then quotedPiece .identifier (.identifier c) 1 (c :: cs)
  else if front = symbolKeyword.toList then
    .ok ⟨some (.other, front), symbolKeyword.length - 1⟩
  else
    match opener? (c :: cs) with
    | some (mark, opener) => openerPiece mark opener (c :: cs)
    | none =>
      if symbolChars.contains c then .ok ⟨some (symbolKind c, [c]), 0⟩
      else .ok (wordPiece afterMark c cs)

/-- Cuts a text into tokens from the given offset on. `taken` counts the characters in front that
the last piece has taken. -/
def scanFrom (afterMark : Bool) : (offset taken : Nat) → List Char →
    Except TokenError (List Token)
  | _, _, [] => .ok []
  | offset, taken + 1, _ :: cs => scanFrom afterMark (offset + 1) taken cs
  | offset, 0, c :: cs =>
    match piece afterMark c cs with
    | .error e => .error e
    | .ok ⟨none, extra⟩ => scanFrom afterMark (offset + 1) extra cs
    | .ok ⟨some (kind, text), extra⟩ =>
      match scanFrom (kind == .parameterMark) (offset + 1) extra cs with
      | .error e => .error e
      | .ok tokens => .ok (⟨kind, String.ofList text, offset, offset + 1 + extra⟩ :: tokens)

/-- Cuts a text into tokens. -/
def scan (sql : String) : Except TokenError (List Token) := scanFrom false 0 0 sql.toList

end SqlFacts.Token
