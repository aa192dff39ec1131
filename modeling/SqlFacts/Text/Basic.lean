import SqlFacts.Text.CharacterClass

/-!
# Texts

What is read off texts and written into them wherever one occurs: parts of a text, its ends of
lines, hexadecimal numbers, quotations, and commands to terminals.
-/

namespace SqlFacts.Text

/-! ### Parts of a text

Parts are told by character offsets. Offsets count code points, the end is exclusive, and offsets
beyond the text are clipped to it. -/

/-- Drops the blanks at both ends of a list of characters. -/
def trimChars (cs : List Char) : List Char :=
  ((cs.dropWhile isBlank).reverse.dropWhile isBlank).reverse

/-- Drops the blanks at both ends of a text. -/
def trim (s : String) : String := String.ofList (trimChars s.toList)

/-- The characters from `start` up to, not including, `stop`. -/
def slice (cs : List Char) (start stop : Nat) : List Char := (cs.drop start).take (stop - start)

/-- The text from `start` up to, not including, `stop`. -/
def sliceText (cs : List Char) (start stop : Nat) : String := String.ofList (slice cs start stop)

/-- A slice inside the text has the length of its span. -/
theorem length_slice {cs : List Char} {start stop : Nat} (h : stop ≤ cs.length) :
    (slice cs start stop).length = stop - start := by
  simp only [slice, List.length_take, List.length_drop]
  omega

/-- A slice holds the characters of the text from its start on. -/
theorem getElem?_slice {cs : List Char} {start stop i : Nat} (h : i < stop - start) :
    (slice cs start stop)[i]? = cs[start + i]? := by
  rw [slice, List.getElem?_take_of_lt h, List.getElem?_drop]

/-- A slice of a text is one of a longer text, moved by what stands in front. -/
theorem slice_cons_append (c : Char) {cs : List Char} (rest : List Char) {start stop : Nat}
    (h : stop ≤ cs.length) :
    slice (c :: (cs ++ rest)) (start + 1) (stop + 1) = slice cs start stop := by
  rw [slice, slice, List.drop_succ_cons, Nat.add_sub_add_right]
  by_cases hstart : start ≤ stop
  · rw [List.drop_append_of_le_length (by omega), List.take_append_of_le_length]
    rw [List.length_drop]
    omega
  · rw [Nat.sub_eq_zero_of_le (by omega), List.take_zero, List.take_zero]

/-- A slice of a slice is a slice of the whole, moved by the outer start. -/
theorem slice_slice {cs : List Char} {a b i j : Nat} (h : a + j ≤ b) :
    slice (slice cs a b) i j = slice cs (a + i) (a + j) := by
  simp only [slice, List.drop_take, List.drop_drop, List.take_take]
  congr 1
  omega

/-! ### Ends of lines

Text that comes from outside may end its lines with a carriage return, a line feed, or both.
Inside, every line ends with a line feed. -/

/-- Writes every end of a line as a line feed. -/
def unifyLineEnds : List Char → List Char
  | '\r' :: '\n' :: cs => '\n' :: unifyLineEnds cs
  | '\r' :: cs => '\n' :: unifyLineEnds cs
  | c :: cs => c :: unifyLineEnds cs
  | [] => []

/-! ### Hexadecimal digits

Fixed-width hexadecimal numbers, written with small letters and read with letters of either case. -/

/-- The hexadecimal digits of a number, padded with zeros to at least the given width. -/
def hexDigits (width n : Nat) : List Char :=
  let digits := Nat.toDigits 16 n
  List.replicate (width - digits.length) '0' ++ digits

/-- The value of a hexadecimal digit. -/
def hexDigit? (c : Char) : Option Nat :=
  if '0' ≤ c ∧ c ≤ '9' then some (c.toNat - '0'.toNat)
  else if 'a' ≤ c ∧ c ≤ 'f' then some (c.toNat - 'a'.toNat + 10)
  else if 'A' ≤ c ∧ c ≤ 'F' then some (c.toNat - 'A'.toNat + 10)
  else none

/-- The number that a list of hexadecimal digits stands for. -/
def hexNumber? (cs : List Char) : Option Nat :=
  cs.foldlM (fun n c => (hexDigit? c).map (16 * n + ·)) 0

/-! ### Quoted text

A text between quotation marks on one line of printable characters. The mark is the single one
unless the text holds single marks and no double ones; the mark in use, the backslash and
everything unprintable are escaped. -/

/-- The quotation mark around a text. -/
def quotationMark (cs : List Char) : Char :=
  if cs.contains '\'' && !cs.contains '"' then '"' else '\''

/-- The written form of one character between the given quotation marks. -/
def quotedChar (mark c : Char) : List Char :=
  if c == mark || c == '\\' then ['\\', c]
  else if c == '\n' then ['\\', 'n']
  else if c == '\r' then ['\\', 'r']
  else if c == '\t' then ['\\', 't']
  else if isPrintable c then [c]
  else if c.toNat < 0x100 then '\\' :: 'x' :: hexDigits 2 c.toNat
  else if c.toNat < 0x10000 then '\\' :: 'u' :: hexDigits 4 c.toNat
  else '\\' :: 'U' :: hexDigits 8 c.toNat

/-- The quoted form of a text. -/
def quoted (s : String) : String :=
  let mark := quotationMark s.toList
  String.ofList (mark :: s.toList.flatMap (quotedChar mark) ++ [mark])

/-! ### Styling of terminals

A terminal takes some texts for commands that set colours and the like: the escape character, an
opening bracket, parameters, and a letter. They mean nothing where no terminal shows the text, so
they are left out there. -/

/-- The character that begins a command. -/
def escapeChar : Char := '\x1b'

/-- Tests whether a character may be part of the parameters of a command. -/
def isStyleParameter (c : Char) : Bool := c.isDigit || c == ';' || c == '?'

/-- The length of the command that an escape character begins, given the text behind it and without
the escape character itself. -/
def styleLength? : List Char → Option Nat
  | '[' :: cs =>
    let parameters := cs.takeWhile isStyleParameter
    if (cs.drop parameters.length).head?.any Char.isAlpha then some (parameters.length + 2)
    else none
  | _ => none

/-- A text without commands to terminals. `taken` counts the characters in front that the last
command has taken. -/
def unstyledFrom : (taken : Nat) → List Char → List Char
  | _, [] => []
  | taken + 1, _ :: cs => unstyledFrom taken cs
  | 0, c :: cs =>
    match if c == escapeChar then styleLength? cs else none with
    | some length => unstyledFrom length cs
    | none => c :: unstyledFrom 0 cs

/-- A text without commands to terminals. -/
def unstyled (s : String) : String := String.ofList (unstyledFrom 0 s.toList)

end SqlFacts.Text
