import SqlFacts.Json

/-!
# Plain text of JSON documents

A JSON document written on one line holds nothing but printable ASCII characters, whatever
characters stand in its texts: all others are escaped. So the line never breaks.
-/

namespace SqlFacts

namespace Text

/-- A list of printable ASCII characters. -/
def IsPlain (cs : List Char) : Prop := ∀ c ∈ cs, 0x20 ≤ c.toNat ∧ c.toNat < 0x7F

instance (cs : List Char) : Decidable (IsPlain cs) := List.decidableBAll _ cs

theorem isPlain_append {front back : List Char} :
    IsPlain (front ++ back) ↔ IsPlain front ∧ IsPlain back := List.forall_mem_append

theorem isPlain_cons {c : Char} {cs : List Char} :
    IsPlain (c :: cs) ↔ (0x20 ≤ c.toNat ∧ c.toNat < 0x7F) ∧ IsPlain cs := List.forall_mem_cons

theorem isPlain_replicate {c : Char} (h : 0x20 ≤ c.toNat ∧ c.toNat < 0x7F) (count : Nat) :
    IsPlain (List.replicate count c) := by
  intro other hother
  rw [List.eq_of_mem_replicate hother]
  exact h

/-- No line ends inside plain text. -/
theorem IsPlain.not_mem {cs : List Char} (h : IsPlain cs) {c : Char} (hc : c.toNat < 0x20) :
    c ∉ cs := fun hmem => Nat.lt_irrefl _ (Nat.lt_of_lt_of_le hc (h c hmem).1)

/-- Digits up to a base of sixteen are plain text. -/
theorem isPlain_toDigits {base : Nat} (hbase : 1 < base) (hsmall : base ≤ 16) (n : Nat) :
    IsPlain (Nat.toDigits base n) := by
  have hdigit : ∀ digit < 16, IsPlain [Nat.digitChar digit] := by decide
  induction n using Nat.strongRecOn with
  | ind n ih =>
    rw [Nat.toDigits_eq_if hbase]
    split
    · next hn => exact hdigit n (Nat.lt_of_lt_of_le hn hsmall)
    · next hn =>
      have hless : n / base < n := Nat.div_lt_self (by omega) hbase
      have hmod : n % base < 16 := Nat.lt_of_lt_of_le (Nat.mod_lt n (by omega)) hsmall
      exact isPlain_append.mpr ⟨ih _ hless, hdigit _ hmod⟩

theorem isPlain_hexDigits (width n : Nat) : IsPlain (hexDigits width n) :=
  isPlain_append.mpr ⟨isPlain_replicate (by decide) _, isPlain_toDigits (by decide) (by decide) n⟩

/-- Plain texts joined by a plain text are plain. -/
theorem isPlain_intercalate {separator : String} (hseparator : IsPlain separator.toList)
    {texts : List String} (h : ∀ text ∈ texts, IsPlain text.toList) :
    IsPlain (separator.intercalate texts).toList := by
  induction texts with
  | nil => simp [IsPlain]
  | cons text texts ih =>
    obtain ⟨htext, htexts⟩ := List.forall_mem_cons.mp h
    cases texts with
    | nil => rwa [String.intercalate_singleton]
    | cons next others =>
      rw [String.intercalate_cons_cons, String.toList_append, String.toList_append,
        isPlain_append, isPlain_append]
      exact ⟨⟨htext, hseparator⟩, ih htexts⟩

end Text

namespace Json

open Text

theorem isPlain_escapedUnit (unit : Nat) : IsPlain (escapedUnit unit) :=
  isPlain_append.mpr ⟨(by decide : IsPlain ['\\', 'u']), isPlain_hexDigits 4 unit⟩

/-- Every character is written as plain text. -/
theorem isPlain_writtenChar (c : Char) : IsPlain (writtenChar c) := by
  rw [writtenChar]
  split
  · next h =>
    simp only [Bool.or_eq_true, beq_iff_eq] at h
    rcases h with rfl | rfl <;> decide
  -- The five characters that have escapes of their own.
  iterate 5
    split
    · decide
  split
  · next h => exact isPlain_cons.mpr ⟨h, List.forall_mem_nil _⟩
  split
  · exact isPlain_escapedUnit _
  · exact isPlain_append.mpr ⟨isPlain_escapedUnit _, isPlain_escapedUnit _⟩

/-- Every text is written as plain text. -/
theorem isPlain_writtenText (s : String) : IsPlain (writtenText s).toList := by
  rw [writtenText, String.toList_ofList, isPlain_append, isPlain_cons]
  refine ⟨⟨by decide, ?_⟩, by decide⟩
  intro c hc
  obtain ⟨source, -, hwritten⟩ := List.mem_flatMap.mp hc
  exact isPlain_writtenChar source c hwritten

/-- A number is written in decimal digits, a negative one behind a minus. -/
theorem toList_toString (n : Int) :
    (toString n).toList =
      if 0 ≤ n then Nat.toDigits 10 n.toNat else '-' :: Nat.toDigits 10 (-n).toNat := by
  rw [Int.toString_eq_repr, Int.repr_eq_if]
  split
  · rw [Nat.repr_eq_ofList_toDigits, String.toList_ofList]
  · simp [Nat.repr_eq_ofList_toDigits]

theorem isPlain_toString (n : Int) : IsPlain (toString n).toList := by
  rw [toList_toString]
  split
  · exact isPlain_toDigits (by decide) (by decide) _
  · exact isPlain_cons.mpr ⟨by decide, isPlain_toDigits (by decide) (by decide) _⟩

mutual

/-- A document on one line is plain text. -/
theorem isPlain_compact : ∀ document : Json, IsPlain document.compact.toList
  | .null => by rw [compact]; decide
  | .bool value => by cases value <;> decide
  | .number value => by rw [compact]; exact isPlain_toString value
  | .text value => by rw [compact]; exact isPlain_writtenText value
  | .array items => by
    rw [compact, String.toList_append, String.toList_append, isPlain_append, isPlain_append]
    exact ⟨⟨by decide, isPlain_intercalate (by decide) (isPlain_compactItems items)⟩, by decide⟩
  | .object members => by
    rw [compact, String.toList_append, String.toList_append, isPlain_append, isPlain_append]
    exact ⟨⟨by decide, isPlain_intercalate (by decide) (isPlain_compactMembers members)⟩,
      by decide⟩

theorem isPlain_compactItems : ∀ items : List Json,
    ∀ text ∈ compactItems items, IsPlain text.toList
  | [] => by rw [compactItems]; exact List.forall_mem_nil _
  | item :: items => by
    rw [compactItems, List.forall_mem_cons]
    exact ⟨isPlain_compact item, isPlain_compactItems items⟩

theorem isPlain_compactMembers : ∀ members : List (String × Json),
    ∀ text ∈ compactMembers members, IsPlain text.toList
  | [] => by rw [compactMembers]; exact List.forall_mem_nil _
  | (key, value) :: members => by
    rw [compactMembers, List.forall_mem_cons, String.toList_append, String.toList_append,
      isPlain_append, isPlain_append]
    exact ⟨⟨⟨isPlain_writtenText key, by decide⟩, isPlain_compact value⟩,
      isPlain_compactMembers members⟩

end

end Json

end SqlFacts
