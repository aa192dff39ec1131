import SqlFacts.Calendar.Date

/-!
# Written dates

A date is known by its year, month and day, and these are read off its written form: they are the
numbers between the hyphens. So different dates are never written alike, whatever the width of the
year.
-/

namespace SqlFacts.Calendar

namespace Date

/-! ### Year, month and day -/

/-- A date lies behind all the days before its year. -/
theorem daysBeforeYear_lt (date : Date) : daysBeforeYear date.year < date.ordinal := by
  have hfirst := date.one_le
  rw [year]
  split
  · simp only [daysBeforeYear]
    omega
  · split
    · assumption
    · omega

/-- The months in front of the one that is found, and the day of it, make up the day of the year. -/
theorem foldl_monthAndDay (month dayOfYear : Nat) (lengths : List Nat) :
    month ≤ (monthAndDay month dayOfYear lengths).1 ∧
      (lengths.take ((monthAndDay month dayOfYear lengths).1 - month)).foldl (· + ·) 0 +
        (monthAndDay month dayOfYear lengths).2 = dayOfYear := by
  induction lengths generalizing month dayOfYear with
  | nil => simp [monthAndDay]
  | cons length lengths ih =>
    rw [monthAndDay]
    split
    · simp
    · next hlater =>
      obtain ⟨hmonth, hsum⟩ := ih (month + 1) (dayOfYear - length)
      generalize monthAndDay (month + 1) (dayOfYear - length) lengths = found at hmonth hsum ⊢
      have hpast : found.1 - month = found.1 - (month + 1) + 1 := by omega
      rw [← List.sum_eq_foldl_nat] at hsum ⊢
      rw [hpast, List.take_succ_cons, List.sum_cons]
      omega

/-- The ordinal of a date counts the days before its year, those before its month and those up to
the day. -/
theorem ordinal_eq (date : Date) :
    date.ordinal =
      daysBeforeYear date.year + (daysBeforeMonth date.year date.civilDay.1 + date.civilDay.2) := by
  have hyear := date.daysBeforeYear_lt
  rw [civilDay, daysBeforeMonth, (foldl_monthAndDay _ _ _).2]
  omega

/-- A date is known by its year, month and day. -/
theorem ext_civil {a b : Date} (hyear : a.year = b.year) (hday : a.civilDay = b.civilDay) :
    a = b := by
  have hordinal : a.ordinal = b.ordinal := by
    rw [ordinal_eq a, ordinal_eq b, hyear, hday]
  obtain ⟨ordinal, one_le, le_last⟩ := a
  obtain ⟨ordinal', one_le', le_last'⟩ := b
  obtain rfl : ordinal = ordinal' := hordinal
  rfl

/-! ### Digits -/

/-- Zeros in front do not change a number. -/
theorem ofDigitChars_padded (width n : Nat) : Nat.ofDigitChars 10 (padded width n) 0 = n := by
  rw [padded, Nat.ofDigitChars_append, Nat.ofDigitChars_replicate_zero, Nat.mul_zero,
    Nat.ofDigitChars_ten_toDigits]

/-- A written number consists of digits. -/
theorem isDigit_of_mem_padded {width n : Nat} {c : Char} (h : c ∈ padded width n) :
    c.isDigit = true := by
  rcases List.mem_append.mp h with hzero | hdigit
  · rw [List.eq_of_mem_replicate hzero]
    decide
  · exact Nat.isDigit_of_mem_toDigits (by decide) (by decide) hdigit

theorem hyphen_not_mem_padded (width n : Nat) : '-' ∉ padded width n :=
  fun h => absurd (isDigit_of_mem_padded h) (by decide)

/-- The hyphens of a written date divide its year, month and day. -/
theorem splitOn_textWithYear (width : Nat) (date : Date) :
    (date.textWithYear width).toList.splitOn '-' =
      [padded width date.year, padded 2 date.civilDay.1, padded 2 date.civilDay.2] := by
  rw [textWithYear, String.toList_ofList, List.append_assoc, List.cons_append,
    List.splitOn_append_cons_self_of_not_mem (hyphen_not_mem_padded _ _),
    List.splitOn_append_cons_self_of_not_mem (hyphen_not_mem_padded _ _),
    List.splitOn_eq_singleton (hyphen_not_mem_padded _ _)]

/-- Different dates are written differently. -/
theorem textWithYear_inj {width : Nat} {a b : Date}
    (h : a.textWithYear width = b.textWithYear width) : a = b := by
  have hparts := congrArg (fun text : String => text.toList.splitOn '-') h
  simp only [splitOn_textWithYear] at hparts
  have hnumbers := congrArg (List.map (Nat.ofDigitChars 10 · 0)) hparts
  simp only [List.map_cons, List.map_nil, ofDigitChars_padded, List.cons.injEq, and_true]
    at hnumbers
  exact ext_civil hnumbers.1 (Prod.ext hnumbers.2.1 hnumbers.2.2)

end Date

end SqlFacts.Calendar
