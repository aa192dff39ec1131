import SqlFacts.Toml.Document

/-!
# Ends of texts

Every reader of keys and scalars hands back an end of the text that it was given. An integer that
it refuses for its many digits stands in the text, as a row of digits longer than allowed. The
readers of values within values may come to the end of their room as well, but only in a text with
brackets and braces enough.
-/

namespace SqlFacts.Toml

universe u

/-- A text holds a row of digits, perhaps with underscores among them, that is as long as said and
longer than a decimal integer may be. -/
def HoldsLongInteger (cs : List Char) (count : Nat) : Prop :=
  maxIntegerDigits < count ∧
    ∃ run, run <:+: cs ∧ (∀ c ∈ run, c.isDigit = true ∨ c = '_') ∧
      (run.filter Char.isDigit).length = count

theorem HoldsLongInteger.mono {cs rest : List Char} {count : Nat} (h : HoldsLongInteger rest count)
    (hsuffix : rest <:+ cs) : HoldsLongInteger cs count := by
  obtain ⟨hlong, run, hrun, hdigits, hcount⟩ := h
  exact ⟨hlong, run, hrun.trans hsuffix.isInfix, hdigits, hcount⟩

/-- Tests for a mark that a value with other values in it begins with. -/
def isOpening (c : Char) : Bool := c == '[' || c == '\x7b'

/-- The number of the marks in a text that a value with other values in it may begin with. -/
def openings (cs : List Char) : Nat := cs.countP isOpening

@[simp] theorem openings_cons_of_isOpening {c : Char} (hc : isOpening c = true) (cs : List Char) :
    openings (c :: cs) = openings cs + 1 := List.countP_cons_of_pos hc

theorem openings_le_of_suffix {cs rest : List Char} (h : rest <:+ cs) :
    openings rest ≤ openings cs := h.sublist.countP_le

/-- What a reader comes to if it reads the front of a text with the given room: `left` tells what a
result leaves of the text, an integer of too many digits stands in the text, and where the room
does not do the text has marks enough to have taken it up. -/
structure Reads {α : Type u} (room : Nat) (left : α → List Char) (cs : List Char)
    (result : Except Error α) : Prop where
  suffix : ∀ a, result = .ok a → left a <:+ cs
  holds : ∀ count, result = .error (.integerTooLong count) → HoldsLongInteger cs count
  deep : result = .error .tooDeep → room < tableCalls * openings cs

variable {room : Nat}

namespace Reads

variable {α β : Type u} {left : α → List Char} {left' : β → List Char}
  {cs rest : List Char}

theorem ok {a : α} (h : left a <:+ cs) : Reads room left cs (.ok a) where
  suffix b hb := by
    cases hb
    exact h
  holds count hcount := by cases hcount
  deep hdeep := by cases hdeep

theorem tooLong {count : Nat} (h : HoldsLongInteger cs count) :
    Reads room left cs (.error (.integerTooLong count)) where
  suffix a ha := by cases ha
  holds other hother := by
    cases hother
    exact h
  deep hdeep := by cases hdeep

theorem tooDeep (h : room < tableCalls * openings cs) :
    Reads room left cs (.error .tooDeep) where
  suffix a ha := by cases ha
  holds count hcount := by cases hcount
  deep _ := h

theorem malformed : Reads room left cs (.error .malformed) where
  suffix a ha := by cases ha
  holds count hcount := by cases hcount
  deep hdeep := by cases hdeep

/-- A failure stays what it is, whatever a result would have left. -/
theorem error {error : Error} (h : Reads room left cs (.error error)) :
    Reads room left' cs (.error error) where
  suffix b hb := by cases hb
  holds count hcount := by
    cases hcount
    exact h.holds count rfl
  deep hdeep := by
    cases hdeep
    exact h.deep rfl

/-- A reader of an end of a text reads the text. -/
theorem mono {result : Except Error α} (h : Reads room left rest result) (hsuffix : rest <:+ cs) :
    Reads room left cs result where
  suffix a ha := (h.suffix a ha).trans hsuffix
  holds count hcount := (h.holds count hcount).mono hsuffix
  deep hdeep := Nat.lt_of_lt_of_le (h.deep hdeep)
    (Nat.mul_le_mul_left tableCalls (openings_le_of_suffix hsuffix))

/-- Behind a mark that opens a value there is less room by the calls that it takes. -/
theorem deeper {α : Type} {left : α → List Char} {calls : Nat} (hcalls : calls ≤ tableCalls)
    {c : Char} (hc : isOpening c = true) {next : Nat → Except Error α}
    (h : ∀ room, Reads room left rest (next room)) :
    Reads room left (c :: rest) (Toml.deeper calls room >>= next) := by
  rw [Toml.deeper]
  split
  · next hroom =>
    apply tooDeep
    rw [openings_cons_of_isOpening hc, Nat.mul_succ]
    omega
  · next hroom =>
    have hnext := h (room - calls)
    constructor
    · intro a ha
      exact (hnext.suffix a ha).trans (List.suffix_cons c rest)
    · intro count hcount
      exact (hnext.holds count hcount).mono (List.suffix_cons c rest)
    · intro hdeep
      have hless := hnext.deep hdeep
      rw [openings_cons_of_isOpening hc, Nat.mul_succ]
      omega

/-- What is read next is read from what is left. -/
theorem bind {result : Except Error α} {next : α → Except Error β} (h : Reads room left cs result)
    (hnext : ∀ a, Reads room left' (left a) (next a)) : Reads room left' cs (result >>= next) := by
  cases result with
  | error error => exact h.error
  | ok a => exact (hnext a).mono (h.suffix a rfl)

/-- A result may be changed as long as it leaves the same text. -/
theorem map {result : Except Error α} {f : α → β} (h : Reads room left cs result)
    (hleft : ∀ a, left' (f a) = left a) : Reads room left' cs (result.map f) := by
  cases result with
  | error error => exact h.error
  | ok a =>
    apply ok
    rw [hleft]
    exact h.suffix a rfl

/-- A text read so far may get another character in front. -/
theorem push {result : Read (List Char)} (h : Reads room Prod.snd cs result) (c : Char) :
    Reads room Prod.snd cs (result.map fun (text, rest) => (c :: text, rest)) := h.map fun _ => rfl

end Reads

/-! ### Texts and keys -/

theorem skipSpace_suffix (cs : List Char) : skipSpace cs <:+ cs := List.dropWhile_suffix _

theorem dropLineEnd_suffix (cs : List Char) : dropLineEnd cs <:+ cs := by
  rw [dropLineEnd.eq_def]
  split
  · exact List.suffix_cons _ _
  · exact List.suffix_rfl

theorem reads_literalText (cs : List Char) : Reads room Prod.snd cs (literalText cs) := by
  induction cs with
  | nil => exact .malformed
  | cons c rest ih =>
    rw [literalText]
    split
    · exact .ok (List.suffix_cons _ _)
    · split
      · exact .malformed
      · exact (ih.push c).mono (List.suffix_cons _ _)

theorem reads_literalBlock (cs : List Char) : Reads room Prod.snd cs (literalBlock cs) := by
  fun_induction literalBlock cs with
  | case1 => exact .malformed
  | case2 rest => exact .ok (List.suffix_append ['\'', '\'', '\''] rest)
  | case3 => exact .malformed
  | case4 c rest _ _ ih => exact (ih.push c).mono (List.suffix_cons _ _)

theorem reads_basicText (block : Bool) (state : BasicState) (cs : List Char) :
    Reads room Prod.snd cs (basicText block state cs) := by
  fun_induction basicText block state cs
  -- The text ends at its marks, or cannot go on.
  case case6 => exact .ok (List.suffix_cons _ _)
  case case7 rest => exact .ok (List.suffix_append [_, '"', '"'] rest)
  case case1 | case4 | case9 | case11 | case15 | case17 | case18 => exact .malformed
  -- Blanks and ends of lines are passed over.
  case case2 ih | case3 ih | case5 ih => exact ih.mono (List.suffix_cons _ _)
  case case13 rest _ _ _ ih => exact ih.mono (List.suffix_append [_, _] rest)
  case case14 rest _ _ _ _ ih => exact ih.mono (List.suffix_append [_, _] rest)
  -- A character stands for itself, or an escape for a character.
  case case8 ih => exact (ih.push _).mono (List.suffix_cons _ _)
  case case19 ih => exact (ih.push _).mono (List.suffix_cons _ _)
  case case10 rest _ _ ih => exact (ih.push _).mono (List.suffix_append [_, _, _, _, _, _] rest)
  case case12 rest _ _ ih =>
    exact (ih.push _).mono (List.suffix_append [_, _, _, _, _, _, _, _, _, _] rest)
  case case16 rest _ _ _ _ _ _ ih => exact (ih.push _).mono (List.suffix_append [_, _] rest)

theorem withExtraMarks_suffix (mark : Char) (text rest : List Char) :
    (withExtraMarks mark text rest).2 <:+ rest := by
  fun_cases withExtraMarks mark text rest
  case case1 rest _ => exact List.suffix_append [_, _] rest
  case case2 => exact List.suffix_cons _ _
  case case4 => exact List.suffix_cons _ _
  all_goals exact List.suffix_rfl

/-- Marks behind the closing ones are read from what is left. -/
theorem Reads.withExtraMarks {cs : List Char} {result : Read (List Char)}
    (h : Reads room Prod.snd cs result) (mark : Char) :
    Reads room Prod.snd cs (result.map fun (text, rest) => Toml.withExtraMarks mark text rest) := by
  cases result with
  | error error => exact h.error
  | ok read => exact .ok ((withExtraMarks_suffix mark _ _).trans (h.suffix _ rfl))

theorem reads_quotedText {cs : List Char} {read : Read (List Char)}
    (h : quotedText? cs = some read) : Reads room Prod.snd cs read := by
  rw [quotedText?.eq_def] at h
  split at h
  · next rest =>
    cases h
    exact (((reads_basicText _ _ _).mono (dropLineEnd_suffix _)).withExtraMarks _).mono
      (List.suffix_append ['"', '"', '"'] rest)
  · cases h
    exact (reads_basicText _ _ _).mono (List.suffix_cons _ _)
  · next rest =>
    cases h
    exact (((reads_literalBlock _).mono (dropLineEnd_suffix _)).withExtraMarks _).mono
      (List.suffix_append ['\'', '\'', '\''] rest)
  · cases h
    exact (reads_literalText _).mono (List.suffix_cons _ _)
  · cases h

theorem reads_keyPart (cs : List Char) : Reads room Prod.snd cs (keyPart cs) := by
  rw [keyPart.eq_def]
  split
  · next rest =>
    apply Reads.mono _ (List.suffix_cons '"' rest)
    exact (reads_basicText false .inText rest).map fun _ => rfl
  · next rest =>
    apply Reads.mono _ (List.suffix_cons '\'' rest)
    exact (reads_literalText rest).map fun _ => rfl
  · dsimp only
    split
    · exact .malformed
    · exact .ok (List.dropWhile_suffix _)

theorem reads_keyWithin (fuel : Nat) (cs : List Char) :
    Reads room Prod.snd cs (keyWithin fuel cs) := by
  induction fuel generalizing cs with
  | zero => exact .malformed
  | succ fuel ih =>
    rw [keyWithin]
    apply (reads_keyPart cs).bind
    rintro ⟨part, rest⟩
    dsimp only
    have hspace := skipSpace_suffix rest
    split
    · next rest' hrest =>
      rw [hrest] at hspace
      have hbehind := (skipSpace_suffix rest').trans ((List.suffix_cons _ _).trans hspace)
      apply ((ih (skipSpace rest')).mono hbehind).bind
      rintro ⟨parts, after⟩
      exact .ok List.suffix_rfl
    · exact .ok hspace

theorem reads_key (cs : List Char) : Reads room Prod.snd cs (key cs) := reads_keyWithin _ cs

/-! ### Numbers -/

/-- A text begins with a row of digits, perhaps with underscores among them, that has the given
digits and the given text behind it. -/
def BeginsWithRow (isDigit : Char → Bool) (digits after cs : List Char) : Prop :=
  ∃ run, run ++ after = cs ∧ (∀ c ∈ run, isDigit c = true ∨ c = '_') ∧ run.filter isDigit = digits

namespace BeginsWithRow

variable {isDigit : Char → Bool} {digits after cs : List Char}

theorem nil : BeginsWithRow isDigit [] cs cs := ⟨[], rfl, List.forall_mem_nil _, rfl⟩

theorem digit {c : Char} (hc : isDigit c = true) (h : BeginsWithRow isDigit digits after cs) :
    BeginsWithRow isDigit (c :: digits) after (c :: cs) := by
  obtain ⟨run, rfl, hrun, rfl⟩ := h
  refine ⟨c :: run, rfl, ?_, ?_⟩
  · exact List.forall_mem_cons.mpr ⟨.inl hc, hrun⟩
  · rw [List.filter_cons_of_pos hc]

theorem underscore (hmark : isDigit '_' = false) (h : BeginsWithRow isDigit digits after cs) :
    BeginsWithRow isDigit digits after ('_' :: cs) := by
  obtain ⟨run, rfl, hrun, rfl⟩ := h
  refine ⟨'_' :: run, rfl, ?_, ?_⟩
  · exact List.forall_mem_cons.mpr ⟨.inr rfl, hrun⟩
  · rw [List.filter_cons_of_neg (by rw [hmark]; exact Bool.false_ne_true)]

theorem suffix (h : BeginsWithRow isDigit digits after cs) : after <:+ cs := by
  obtain ⟨run, hrun, -⟩ := h
  exact ⟨run, hrun⟩

/-- A row with too many digits is an integer of too many digits. -/
theorem holdsLongInteger (h : BeginsWithRow Char.isDigit digits after cs)
    (hlong : maxIntegerDigits < digits.length) : HoldsLongInteger cs digits.length := by
  obtain ⟨run, rfl, hrun, rfl⟩ := h
  exact ⟨hlong, run, (List.prefix_append run after).isInfix, hrun, rfl⟩

end BeginsWithRow

section Rows

variable {isDigit : Char → Bool} {digits after cs : List Char}

theorem moreDigits_row (hmark : isDigit '_' = false) (cs : List Char) :
    BeginsWithRow isDigit (moreDigits isDigit cs).1 (moreDigits isDigit cs).2 cs := by
  fun_induction moreDigits isDigit cs
  case case1 hc _ _ hmore ih =>
    rw [hmore] at ih
    exact (ih.digit hc).underscore hmark
  case case3 hc _ _ hmore ih =>
    rw [hmore] at ih
    exact ih.digit hc
  case case2 | case4 | case5 => exact .nil

theorem digits?_row (hmark : isDigit '_' = false) (h : digits? isDigit cs = some (digits, after)) :
    BeginsWithRow isDigit digits after cs := by
  cases cs with
  | nil => cases h
  | cons c rest =>
    rw [digits?] at h
    split at h
    · next hc =>
      cases h
      exact (moreDigits_row hmark rest).digit hc
    · cases h

theorem wholeDigits?_row (h : wholeDigits? cs = some (digits, after)) :
    BeginsWithRow Char.isDigit digits after cs := by
  rw [wholeDigits?.eq_def] at h
  split at h
  · cases h
    exact .digit (by decide) .nil
  · exact digits?_row (by decide) h

end Rows

/-- What is left behind digits, if there are any, is an end of the text. -/
theorem getD_digits?_suffix {cs whole : List Char} (hsuffix : cs <:+ whole) :
    ((digits? Char.isDigit cs).map (·.2)).getD whole <:+ whole := by
  cases h : digits? Char.isDigit cs with
  | none => exact List.suffix_rfl
  | some read => exact (digits?_row (by decide) h).suffix.trans hsuffix

theorem skipFraction_suffix (cs : List Char) : skipFraction cs <:+ cs := by
  rw [skipFraction.eq_def]
  split
  · exact getD_digits?_suffix (List.suffix_cons _ _)
  · exact List.suffix_rfl

theorem skipExponent_suffix (cs : List Char) : skipExponent cs <:+ cs := by
  rw [skipExponent.eq_def]
  split
  · next e rest =>
    split
    · apply getD_digits?_suffix
      split
      · split
        · exact List.suffix_append [_, _] _
        · exact List.suffix_cons _ _
      · exact List.suffix_cons _ _
    · exact List.suffix_rfl
  · exact List.suffix_rfl

theorem radixInteger?_suffix {cs after : List Char} {n : Nat}
    (h : radixInteger? cs = some (n, after)) : after <:+ cs := by
  have hread {base : Nat} {rest : List Char}
      (h : (digits? (fun c => (Text.hexDigit? c).any (· < base)) rest).map
        (fun (digits, after) => (digitsValue base digits, after)) = some (n, after)) :
      after <:+ rest := by
    obtain ⟨⟨digits, left⟩, hdigits, heq⟩ := Option.map_eq_some_iff.mp h
    cases heq
    exact (digits?_row (by rfl) hdigits).suffix
  rw [radixInteger?.eq_def] at h
  dsimp only at h
  split at h
  · next rest => exact (hread h).trans (List.suffix_append ['0', 'x'] rest)
  · next rest => exact (hread h).trans (List.suffix_append ['0', 'o'] rest)
  · next rest => exact (hread h).trans (List.suffix_append ['0', 'b'] rest)
  · cases h

/-- Of the numbers only a decimal integer is refused for its digits. -/
theorem reads_decimalNumber {cs : List Char} {read : Read Value}
    (h : decimalNumber? cs = some read) : Reads room Prod.snd cs read := by
  rw [decimalNumber?.eq_def] at h
  split at h
  next negative unsigned hsign =>
  have hunsigned : unsigned <:+ cs := by
    split at hsign <;> cases hsign
    · exact List.suffix_cons _ _
    · exact List.suffix_cons _ _
    · exact List.suffix_rfl
  obtain ⟨⟨digits, rest⟩, hdigits, hread⟩ := Option.map_eq_some_iff.mp h
  have hrow := wholeDigits?_row hdigits
  dsimp only at hread
  rw [← hread]
  apply Reads.mono _ hunsigned
  split
  · exact .ok (((skipExponent_suffix _).trans (skipFraction_suffix rest)).trans hrow.suffix)
  · split
    · next hlong => exact .tooLong (hrow.holdsLongInteger hlong)
    · exact .ok hrow.suffix

/-- A text without its sign is an end of the text. -/
theorem suffix_of_unsigned {cs unsigned : List Char} (h : (match cs with
    | sign :: rest => if sign == '+' || sign == '-' then rest else cs
    | [] => cs) = unsigned) : unsigned <:+ cs := by
  rw [← h]
  split
  · split
    · exact List.suffix_cons _ _
    · exact List.suffix_rfl
  · exact List.suffix_rfl

theorem reads_specialNumber {cs : List Char} {read : Read Value}
    (h : specialNumber? cs = some read) : Reads room Prod.snd cs read := by
  rw [specialNumber?.eq_def] at h
  dsimp only at h
  split at h
  · next rest hword =>
    cases h
    exact .ok ((List.suffix_append ['i', 'n', 'f'] rest).trans (suffix_of_unsigned hword))
  · next rest hword =>
    cases h
    exact .ok ((List.suffix_append ['n', 'a', 'n'] rest).trans (suffix_of_unsigned hword))
  · cases h

/-! ### Points in time -/

theorem skipHourMinute?_suffix {cs rest : List Char} (h : skipHourMinute? cs = some rest) :
    rest <:+ cs := by
  rw [skipHourMinute?.eq_def] at h
  split at h
  · obtain ⟨numbers, -, h⟩ := Option.bind_eq_some_iff.mp h
    split at h
    · split at h
      · cases h
        exact List.suffix_append [_, _, _, _, _] rest
      · cases h
    · cases h
  · cases h

theorem skipTime?_suffix {cs rest : List Char} (h : skipTime? cs = some rest) : rest <:+ cs := by
  rw [skipTime?] at h
  obtain ⟨behind, hbehind, h⟩ := Option.bind_eq_some_iff.mp h
  apply List.IsSuffix.trans _ (skipHourMinute?_suffix hbehind)
  split at h
  · next after =>
    obtain ⟨second, -, h⟩ := Option.bind_eq_some_iff.mp h
    apply List.IsSuffix.trans _ (List.suffix_append [_, _, _] after)
    split at h
    · split at h
      · next more _ =>
        cases h
        split
        · exact (List.dropWhile_suffix _).trans (List.suffix_append [_, _] more)
        · exact List.suffix_rfl
      · cases h
        exact List.suffix_rfl
    · cases h
  · cases h

theorem skipOffset_suffix (cs : List Char) : skipOffset cs <:+ cs := by
  have hoffset {rest : List Char} (hrest : rest <:+ cs) :
      (skipHourMinute? rest).getD cs <:+ cs := by
    cases h : skipHourMinute? rest with
    | none => exact List.suffix_rfl
    | some after => exact (skipHourMinute?_suffix h).trans hrest
  rw [skipOffset.eq_def]
  split
  · exact List.suffix_cons _ _
  · exact List.suffix_cons _ _
  · exact hoffset (List.suffix_cons _ _)
  · exact hoffset (List.suffix_cons _ _)
  · exact List.suffix_rfl

/-- What is left behind a time of day, if there is one, is an end of the text. -/
theorem getD_skipTime?_suffix {cs whole : List Char} (hsuffix : cs <:+ whole) :
    ((skipTime? cs).map skipOffset).getD whole <:+ whole := by
  cases h : skipTime? cs with
  | none => exact List.suffix_rfl
  | some after => exact ((skipOffset_suffix after).trans (skipTime?_suffix h)).trans hsuffix

/-- What is left behind a time of day that a mark announces is an end of the text. -/
theorem clock_suffix (cs : List Char) : (match cs with
    | t :: more =>
      if t == 'T' || t == 't' || t == ' ' then ((skipTime? more).map skipOffset).getD cs else cs
    | [] => cs) <:+ cs := by
  split
  · split
    · exact getD_skipTime?_suffix (List.suffix_cons _ _)
    · exact List.suffix_rfl
  · exact List.suffix_rfl

theorem reads_moment {cs : List Char} {read : Read Value} (h : moment? cs = some read) :
    Reads room Prod.snd cs read := by
  rw [moment?.eq_def] at h
  split at h
  · next rest =>
    have hclock := clock_suffix rest
    split at h
    · split at h
      · dsimp only at h
        split at h
        · cases h
          exact .ok (hclock.trans (List.suffix_append [_, _, _, _, _, _, _, _, _, _] rest))
        · cases h
          exact .malformed
      · cases h
    · cases h
  · obtain ⟨rest, hrest, hread⟩ := Option.map_eq_some_iff.mp h
    rw [← hread]
    exact .ok (skipTime?_suffix hrest)

end SqlFacts.Toml
