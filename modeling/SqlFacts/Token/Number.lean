import SqlFacts.Text.Basic
import SqlFacts.Token.Basic

/-!
# Numbers

A token that begins with a digit: a number in base two or sixteen, a decimal number with a
fraction and an exponent, or a name that merely begins with digits.
-/

namespace SqlFacts.Token

/-- How far the exponent of a decimal number has been read. -/
inductive ExponentState where
  | absent
  | marked
  | signed
  deriving DecidableEq, Repr

/-- What a token that begins with a digit turns out to be, with its length behind that digit. -/
inductive NumberTail where
  | number (length : Nat)
  | name (length : Nat)
  deriving DecidableEq, Repr

namespace NumberTail

/-- The token with one character more in front. -/
def succ : NumberTail → NumberTail
  | .number length => .number (length + 1)
  | .name length => .name (length + 1)

end NumberTail

/-- Reads the rest of a decimal number. A point is taken once, and not at all right after a
parameter mark; an exponent is taken once, with signs in front of digits; an underscore is taken
between digits. A letter makes the whole word a name. -/
def decimalTail (afterMark : Bool) : (previous : Char) → (pointed : Bool) → ExponentState →
    List Char → NumberTail
  | _, _, _, [] => .number 0
  | previous, pointed, exponent, c :: rest =>
    let digitFollows := (rest.head?.map Char.isDigit).getD false
    if c.isDigit then (decimalTail afterMark c pointed exponent rest).succ
    else if c == '.' && !pointed then
      if afterMark then .number 0 else (decimalTail afterMark c true exponent rest).succ
    else if (c == '-' || c == '+') && exponent == .marked then
      if digitFollows then (decimalTail afterMark c pointed .signed rest).succ else .number 0
    else if (c == 'e' || c == 'E') && exponent == .absent && rest.head? != some '_' then
      (decimalTail afterMark c pointed .marked rest).succ
    else if c == '_' && previous.isDigit && digitFollows then
      (decimalTail afterMark c pointed exponent rest).succ
    else if Text.isIdentifierStart c then .name (rest.takeWhile isWordChar |>.length |>.succ)
    else .number 0

/-- The base that a letter after a leading zero announces. -/
def radixBase? (c : Char) : Option Nat :=
  match c with
  | 'b' | 'B' => some 2
  | 'x' | 'X' => some 16
  | _ => none

/-- The value of a digit of any script, or of a hexadecimal letter. -/
def radixDigit? (c : Char) : Option Nat :=
  match Text.decimalDigit? c with
  | some digit => some digit
  | none => Text.hexDigit? c

/-- Tests whether the characters behind the announced base form a number in it: digits, with
single underscores allowed in front of any of them. -/
def isRadixNumber (base : Nat) : List Char → Bool
  | [] => false
  | '_' :: c :: rest => isDigit c && continues rest
  | c :: rest => isDigit c && continues rest
where
  /-- Tests for a digit of the base. -/
  isDigit (c : Char) : Bool := (radixDigit? c).any (· < base)
  /-- Tests the characters behind a digit. -/
  continues : List Char → Bool
    | [] => true
    | '_' :: c :: rest => isDigit c && continues rest
    | c :: rest => isDigit c && continues rest

end SqlFacts.Token
