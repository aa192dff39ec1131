import SqlFacts.Calendar.IsoDate
import SqlFacts.Text.Basic
import SqlFacts.Toml.Value

/-!
# TOML keys and scalars

Readers for the parts of a TOML document that hold no other values: keys, texts, numbers and
points in time. A reader takes the text in front of it and hands back what is left.
-/

namespace SqlFacts.Toml

universe u

/-- Why a document cannot be read. Decimal integers of too many digits and values that are nested
too deep are refused apart from all else. -/
inductive Error where
  | malformed
  | integerTooLong (digits : Nat)
  | tooDeep
  deriving DecidableEq, Repr

/-- The result of a reader: what it read and the text behind it. -/
abbrev Read (α : Type u) := Except Error (α × List Char)

/-- Tests for a blank inside a line. -/
def isSpace (c : Char) : Bool := c == ' ' || c == '\t'

/-- Tests for a blank or the end of a line. -/
def isSpaceOrLineEnd (c : Char) : Bool := isSpace c || c == '\n'

/-- Tests for a control character that no text and no comment may hold on a line. -/
def isControl (c : Char) : Bool := (c.toNat < 32 && c != '\t') || c.toNat == 127

/-- Drops the blanks in front of a text. -/
def skipSpace (cs : List Char) : List Char := cs.dropWhile isSpace

/-- Tests for a character of a bare key. -/
def isBareKeyChar (c : Char) : Bool := c.isAlphanum || c == '-' || c == '_'

/-- A text between single marks on one line, behind its opening mark. -/
def literalText : List Char → Read (List Char)
  | [] => .error .malformed
  | c :: rest =>
    if c == '\'' then .ok ([], rest)
    else if isControl c then .error .malformed
    else (literalText rest).map fun (text, rest) => (c :: text, rest)

/-- A text between three single marks, behind its opening marks. -/
def literalBlock : List Char → Read (List Char)
  | [] => .error .malformed
  | '\'' :: '\'' :: '\'' :: rest => .ok ([], rest)
  | c :: rest =>
    if isControl c && c != '\n' then .error .malformed
    else (literalBlock rest).map fun (text, rest) => (c :: text, rest)

/-- The character that a backslash and a letter stand for. -/
def letterEscape? (c : Char) : Option Char :=
  match c with
  | 'b' => some '\x08'
  | 't' => some '\t'
  | 'n' => some '\n'
  | 'f' => some '\x0c'
  | 'r' => some '\r'
  | '"' => some '"'
  | '\\' => some '\\'
  | _ => none

/-- The character with the code that hexadecimal digits write. -/
def codeEscape? (digits : List Char) : Option Char :=
  (Text.hexNumber? digits).bind fun code =>
    if code.isValidChar then some (Char.ofNat code) else none

/-- Where the reader of a basic text stands: inside the text, or behind a backslash that joins
lines, before or after the end of the first of them. -/
inductive BasicState where
  | inText
  | beforeLineEnd
  | betweenLines
  deriving DecidableEq, Repr

/-- A text between double marks, or between three of them if `block` holds, behind its opening
marks. -/
def basicText (block : Bool) : BasicState → List Char → Read (List Char)
  | _, [] => .error .malformed
  | .beforeLineEnd, c :: rest =>
    if isSpace c then basicText block .beforeLineEnd rest
    else if c == '\n' then basicText block .betweenLines rest
    else .error .malformed
  | state, c :: rest =>
    if state == .betweenLines && isSpaceOrLineEnd c then basicText block .betweenLines rest
    else if c == '"' then
      if !block then .ok ([], rest)
      else
        match rest with
        | '"' :: '"' :: rest => .ok ([], rest)
        | rest => (basicText block .inText rest).map fun (text, rest) => (c :: text, rest)
    else if c == '\\' then
      match rest with
      | 'u' :: d1 :: d2 :: d3 :: d4 :: rest =>
        match codeEscape? [d1, d2, d3, d4] with
        | none => .error .malformed
        | some c => (basicText block .inText rest).map fun (text, rest) => (c :: text, rest)
      | 'U' :: d1 :: d2 :: d3 :: d4 :: d5 :: d6 :: d7 :: d8 :: rest =>
        match codeEscape? [d1, d2, d3, d4, d5, d6, d7, d8] with
        | none => .error .malformed
        | some c => (basicText block .inText rest).map fun (text, rest) => (c :: text, rest)
      | escape :: rest =>
        if block && escape == '\n' then basicText block .betweenLines rest
        else if block && isSpace escape then basicText block .beforeLineEnd rest
        else
          match letterEscape? escape with
          | none => .error .malformed
          | some c => (basicText block .inText rest).map fun (text, rest) => (c :: text, rest)
      | [] => .error .malformed
    else if isControl c && !(block && c == '\n') then .error .malformed
    else (basicText block .inText rest).map fun (text, rest) => (c :: text, rest)

/-- Up to two more marks that directly follow the three closing ones belong to the text. -/
def withExtraMarks (mark : Char) (text : List Char) (rest : List Char) : List Char × List Char :=
  match rest with
  | a :: b :: rest' =>
    if a == mark && b == mark then (text ++ [mark, mark], rest')
    else if a == mark then (text ++ [mark], b :: rest')
    else (text, rest)
  | [a] => if a == mark then (text ++ [mark], []) else (text, rest)
  | [] => (text, [])

/-- The text without an end of a line in front. -/
def dropLineEnd : List Char → List Char
  | '\n' :: rest => rest
  | cs => cs

/-- A quoted text of any of the four sorts, from its opening marks on. -/
def quotedText? (cs : List Char) : Option (Read (List Char)) :=
  match cs with
  | '"' :: '"' :: '"' :: rest =>
    some ((basicText true .inText (dropLineEnd rest)).map fun (text, rest) =>
      withExtraMarks '"' text rest)
  | '"' :: rest => some (basicText false .inText rest)
  | '\'' :: '\'' :: '\'' :: rest =>
    some ((literalBlock (dropLineEnd rest)).map fun (text, rest) => withExtraMarks '\'' text rest)
  | '\'' :: rest => some (literalText rest)
  | _ => none

/-- One part of a key: bare, or quoted on one line. -/
def keyPart (cs : List Char) : Read String :=
  match cs with
  | '"' :: rest => (basicText false .inText rest).map fun (text, rest) => (String.ofList text, rest)
  | '\'' :: rest => (literalText rest).map fun (text, rest) => (String.ofList text, rest)
  | _ =>
    let bare := cs.takeWhile isBareKeyChar
    if bare.isEmpty then .error .malformed
    else .ok (String.ofList bare, cs.dropWhile isBareKeyChar)

/-- The parts of a key that points join, at most as many as `fuel` says. -/
def keyWithin : (fuel : Nat) → List Char → Except Error (Path × List Char)
  | 0, _ => .error .malformed
  | fuel + 1, cs => do
    let (part, rest) ← keyPart cs
    match skipSpace rest with
    | '.' :: rest =>
      let (parts, rest) ← keyWithin fuel (skipSpace rest)
      return (part :: parts, rest)
    | rest => return ([part], rest)

/-- A key, and the text behind it and the blanks after it. Each part takes a character at least. -/
def key (cs : List Char) : Read Path := keyWithin (cs.length + 1) cs

/-- Digits with single underscores between them, behind a digit: the digits, and what follows. -/
def moreDigits (isDigit : Char → Bool) : List Char → List Char × List Char
  | '_' :: c :: rest =>
    if isDigit c then
      let (digits, after) := moreDigits isDigit rest
      (c :: digits, after)
    else ([], '_' :: c :: rest)
  | c :: rest =>
    if isDigit c then
      let (digits, after) := moreDigits isDigit rest
      (c :: digits, after)
    else ([], c :: rest)
  | [] => ([], [])

/-- Digits with single underscores between them: at least one, and what follows. -/
def digits? (isDigit : Char → Bool) : List Char → Option (List Char × List Char)
  | c :: rest =>
    if isDigit c then
      let (digits, after) := moreDigits isDigit rest
      some (c :: digits, after)
    else none
  | [] => none

/-- The value of digits in a base. -/
def digitsValue (base : Nat) (digits : List Char) : Nat :=
  digits.foldl (fun n c => base * n + (Text.hexDigit? c).getD 0) 0

/-- An integer that announces its base behind a zero. -/
def radixInteger? (cs : List Char) : Option (Nat × List Char) :=
  let read (base : Nat) (rest : List Char) :=
    (digits? (fun c => (Text.hexDigit? c).any (· < base)) rest).map fun (digits, after) =>
      (digitsValue base digits, after)
  match cs with
  | '0' :: 'x' :: rest => read 16 rest
  | '0' :: 'o' :: rest => read 8 rest
  | '0' :: 'b' :: rest => read 2 rest
  | _ => none

/-- The greatest number of digits of a decimal integer. -/
def maxIntegerDigits : Nat := 4300

/-- The digits of a decimal integer: a lone zero, or digits that begin with another one. -/
def wholeDigits? (cs : List Char) : Option (List Char × List Char) :=
  match cs with
  | '0' :: rest => some (['0'], rest)
  | _ => digits? Char.isDigit cs

/-- The text behind a fraction in front of a text, and the text itself if there is none. -/
def skipFraction (cs : List Char) : List Char :=
  match cs with
  | '.' :: rest => ((digits? Char.isDigit rest).map (·.2)).getD cs
  | _ => cs

/-- The text behind an exponent in front of a text, and the text itself if there is none. -/
def skipExponent (cs : List Char) : List Char :=
  match cs with
  | e :: rest =>
    if e == 'e' || e == 'E' then
      let unsigned :=
        match rest with
        | sign :: more => if sign == '+' || sign == '-' then more else rest
        | [] => rest
      ((digits? Char.isDigit unsigned).map (·.2)).getD cs
    else cs
  | [] => cs

/-- What was read, given the text from its first character on and the text behind it. -/
def written (cs rest : List Char) : String := String.ofList (cs.take (cs.length - rest.length))

/-- A decimal number: an integer, or a fraction if a point or an exponent follows. -/
def decimalNumber? (cs : List Char) : Option (Read Value) :=
  let (negative, unsigned) :=
    match cs with
    | '-' :: rest => (true, rest)
    | '+' :: rest => (false, rest)
    | _ => (false, cs)
  (wholeDigits? unsigned).map fun (digits, rest) =>
    let after := skipExponent (skipFraction rest)
    if after.length < rest.length then .ok (.fraction (written cs after), after)
    else if maxIntegerDigits < digits.length then .error (.integerTooLong digits.length)
    else
      let size : Int := digitsValue 10 digits
      .ok (.integer (if negative then -size else size), rest)

/-- A word for what is not a finite number, perhaps with a sign. -/
def specialNumber? (cs : List Char) : Option (Read Value) :=
  let unsigned :=
    match cs with
    | sign :: rest => if sign == '+' || sign == '-' then rest else cs
    | [] => cs
  match unsigned with
  | 'i' :: 'n' :: 'f' :: rest | 'n' :: 'a' :: 'n' :: rest =>
    some (.ok (.fraction (written cs rest), rest))
  | _ => none

/-- The text behind an hour and a minute in front of a text. -/
def skipHourMinute? (cs : List Char) : Option (List Char) :=
  match cs with
  | a :: b :: ':' :: c :: d :: rest => do
    let [hour, minute] ← Calendar.numbers? [[a, b], [c, d]] | none
    if hour < 24 ∧ minute < 60 then some rest else none
  | _ => none

/-- The text behind a time of day in front of a text. -/
def skipTime? (cs : List Char) : Option (List Char) := do
  let rest ← skipHourMinute? cs
  match rest with
  | ':' :: e :: f :: rest =>
    let second ← Calendar.digitsNumber? [e, f]
    if second < 60 then
      match rest with
      | '.' :: c :: more => some (if c.isDigit then more.dropWhile Char.isDigit else rest)
      | _ => some rest
    else none
  | _ => none

/-- The text behind a distance from universal time, and the text itself if there is none. -/
def skipOffset (cs : List Char) : List Char :=
  match cs with
  | 'Z' :: rest | 'z' :: rest => rest
  | '+' :: rest | '-' :: rest => (skipHourMinute? rest).getD cs
  | _ => cs

/-- A date, perhaps with a time of day and a distance from universal time, or a time of day. A
day that no month has makes the document malformed. -/
def moment? (cs : List Char) : Option (Read Value) :=
  match cs with
  | a :: b :: c :: d :: '-' :: e :: f :: '-' :: g :: h :: rest =>
    match Calendar.numbers? [[a, b, c, d], [e, f], [g, h]] with
    | some [year, month, day] =>
      if 1 ≤ month ∧ month ≤ 12 ∧ 1 ≤ day ∧ day ≤ 31 then
        let after :=
          match rest with
          | t :: more =>
            if t == 'T' || t == 't' || t == ' ' then
              ((skipTime? more).map skipOffset).getD rest
            else rest
          | [] => rest
        match Calendar.Date.ofCivil? year month day with
        | some _ => some (.ok (.moment (written cs after), after))
        | none => some (.error .malformed)
      else none
    | _ => none
  | _ => (skipTime? cs).map fun rest => .ok (.moment (written cs rest), rest)

end SqlFacts.Toml
