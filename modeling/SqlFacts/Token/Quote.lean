import SqlFacts.Token.Escape

/-!
# Quoted bodies

The text between an opening mark, already read, and its closing mark. Inside it a backslash may
begin an escape, and a closing mark written twice stands for itself. A raw body keeps its escapes
as they are written.
-/

namespace SqlFacts.Token

/-- How a quoted body ends and which characters take part in its escapes. -/
structure Quote where
  closing : List Char
  escapes : List Char
  raw : Bool

/-- A quoted body: its text, and the number of characters up to and with the closing mark. -/
structure Body where
  text : List Char
  length : Nat
  deriving DecidableEq, Repr

namespace Quote

/-- An identifier between the given marks. -/
def identifier (mark : Char) : Quote := ⟨[mark], ['\\', mark], false⟩

/-- A string literal between single marks. -/
def literal : Quote := ⟨['\''], ['\'', '\\'], false⟩

/-- The tag of a dollar-quoted text. -/
def tag : Quote := ⟨['$'], ['\'', '\\'], true⟩

/-- A text between two copies of a dollar-quoted tag. -/
def tagged (tag : List Char) : Quote := ⟨'$' :: tag ++ ['$'], ['\'', '\\'], true⟩

/-- Tests whether a character is an escape character of the quote. -/
def isEscape (quote : Quote) (c : Char) : Bool := quote.escapes.contains c

/-- Tests whether a character alone is the closing mark. -/
def isMark (quote : Quote) (c : Char) : Bool := quote.closing == [c]

/-- A body without escapes: it holds no backslash, and its closing mark is not written twice. -/
def plainBody? (quote : Quote) (cs : List Char) : Option Body :=
  match quote.closing with
  | [mark] =>
    let text := cs.takeWhile (· != mark)
    match cs.dropWhile (· != mark) with
    | [] => none
    | _ :: after =>
      if (after.head? == some mark && quote.isEscape mark) || text.contains '\\' then none
      else some ⟨text, text.length + 1⟩
  | _ => none

/-- What stands in front of a body: the closing mark, or characters of the text with the number
of characters that write them. -/
inductive Part where
  | closing
  | chars (text : List Char) (length : Nat)
  | unclosed

/-- An escape that stands for other characters, in front of a body that is not raw. -/
def decodedEscape? (quote : Quote) (c next : Char) (rest : List Char) : Option Part :=
  if quote.raw || c != '\\' then none
  else
    let bytes := if next == 'x' then byteEscape? (c :: next :: rest) else none
    match bytes with
    | some (decoded, length) => some (.chars [decoded] length)
    | none =>
      if rest.isEmpty then none else (letterEscape? next).map (.chars · 2)

/-- Tests whether two characters form an escaped pair. Two different characters of which the
first is the single mark do not. -/
def isPair (quote : Quote) (c next : Char) : Bool :=
  quote.isEscape c && (quote.isMark next || quote.isEscape next) && (c != '\'' || c == next)

/-- The part in front of a body of at least two characters. -/
def part (quote : Quote) (c next : Char) (rest : List Char) : Part :=
  match quote.decodedEscape? c next rest with
  | some decoded => decoded
  | none =>
    if quote.isPair c next then
      if rest.isEmpty then .unclosed
      else .chars (if quote.isMark next && !quote.raw then [next] else [c, next]) 2
    else if quote.closing.isPrefixOf (c :: next :: rest) then .closing
    else .chars [c] 1

/-- A body with escapes. The first argument counts characters that the last part has taken. -/
def escapedBody? (quote : Quote) : Nat → List Char → Option Body
  | _, [] => none
  | taken + 1, _ :: cs => (quote.escapedBody? taken cs).map fun body => ⟨body.text, body.length + 1⟩
  | 0, [c] => if quote.isMark c then some ⟨[], 1⟩ else none
  | 0, c :: next :: rest =>
    match quote.part c next rest with
    | .closing => some ⟨[], quote.closing.length⟩
    | .unclosed => none
    | .chars text length =>
      (quote.escapedBody? (length - 1) (next :: rest)).map fun body =>
        ⟨text ++ body.text, body.length + 1⟩

/-- The body in front of a text, up to its closing mark. -/
def body? (quote : Quote) (cs : List Char) : Option Body :=
  match quote.plainBody? cs with
  | some body => some body
  | none => quote.escapedBody? 0 cs

end Quote

end SqlFacts.Token
