import Mathlib.Algebra.Ring.Nat
import SqlFacts.Calendar.IsoDate
import SqlFacts.Proofs.Calendar.DateText

/-!
# Dates read back

Year, month and day of a date lie within the bounds of the calendar, so a date is found again from
them, and from its ISO form. A year of fewer than four digits makes no ISO form.
-/

namespace SqlFacts.Calendar

/-! ### Digits -/

private theorem foldlM_digits {cs : List Char} (h : ∀ c ∈ cs, c.isDigit = true) (n : Nat) :
    cs.foldlM (fun n c => if c.isDigit then some (10 * n + (c.toNat - '0'.toNat)) else none) n =
      some (Nat.ofDigitChars 10 cs n) := by
  induction cs generalizing n with
  | nil => rfl
  | cons c cs ih =>
    obtain ⟨hc, hcs⟩ := List.forall_mem_cons.mp h
    rw [List.foldlM_cons, if_pos hc, Option.bind_eq_bind, Option.bind_some, ih hcs,
      Nat.ofDigitChars_cons]

private theorem foldlM_not_digits {cs : List Char} {c : Char} (hc : c.isDigit = false)
    (h : c ∈ cs) (n : Nat) :
    cs.foldlM (fun n c => if c.isDigit then some (10 * n + (c.toNat - '0'.toNat)) else none) n =
      none := by
  induction cs generalizing n with
  | nil => cases h
  | cons d cs ih =>
    rw [List.foldlM_cons]
    by_cases hd : d.isDigit = true
    · have hmem : c ∈ cs := by
        rcases List.mem_cons.mp h with rfl | hmem
        · rw [hc] at hd
          cases hd
        · exact hmem
      rw [if_pos hd, Option.bind_eq_bind, Option.bind_some, ih hmem]
    · rw [if_neg hd]
      rfl

/-- Digits are read as the number that they stand for. -/
theorem digitsNumber?_of_digits {cs : List Char} (h : ∀ c ∈ cs, c.isDigit = true) :
    digitsNumber? cs = some (Nat.ofDigitChars 10 cs 0) := foldlM_digits h 0

/-- What holds another character than digits is not read as a number. -/
theorem digitsNumber?_of_not_digit {cs : List Char} {c : Char} (h : c ∈ cs)
    (hc : c.isDigit = false) : digitsNumber? cs = none := foldlM_not_digits hc h 0

namespace Date

/-- A written number is read back. -/
theorem digitsNumber?_padded (width n : Nat) : digitsNumber? (padded width n) = some n := by
  rw [digitsNumber?_of_digits fun _ => isDigit_of_mem_padded, ofDigitChars_padded]

/-- A number that fits is written in exactly the given width. -/
theorem length_padded {width n : Nat} (hwidth : 0 < width) (hn : n < 10 ^ width) :
    (padded width n).length = width := by
  have hfits := (Nat.length_toDigits_le_iff (b := 10) (by decide) hwidth).mpr hn
  rw [padded, List.length_append, List.length_replicate]
  omega

/-- A number that fills a width needs no zeros up to it. -/
theorem padded_of_le {small width n : Nat} (hle : small ≤ width)
    (hn : 10 ^ (width - 1) ≤ n) : padded small n = padded width n := by
  have hfills : width ≤ (Nat.toDigits 10 n).length := by
    have hsome := Nat.length_toDigits_pos (b := 10) (n := n)
    apply Nat.le_of_not_lt
    intro hless
    have hshort := (Nat.length_toDigits_le_iff (b := 10) (n := n) (k := width - 1) (by decide)
      (by omega)).mp (by omega)
    omega
  simp only [padded, Nat.sub_eq_zero_of_le hfills, Nat.sub_eq_zero_of_le (Nat.le_trans hle hfills)]

/-! ### Bounds -/

/-- A date lies in its year. -/
theorem ordinal_le (date : Date) : date.ordinal ≤ daysBeforeYear (date.year + 1) := by
  have hfirst := date.one_le
  have hguess := Nat.lt_mul_div_succ ((date.ordinal - 1) * 400) (b := 146097) (by decide)
  rw [year]
  generalize (date.ordinal - 1) * 400 / 146097 = past at hguess ⊢
  split
  · assumption
  · split
    · simp only [daysBeforeYear]
      omega
    · next hwithin => exact Nat.le_of_not_lt hwithin

theorem one_le_year (date : Date) : 1 ≤ date.year := by
  have hbehind := date.daysBeforeYear_lt
  have hwithin := date.ordinal_le
  apply Nat.pos_of_ne_zero
  intro hzero
  rw [hzero] at hbehind hwithin
  simp only [daysBeforeYear] at hbehind hwithin
  omega

theorem year_le (date : Date) : date.year ≤ 9999 := by
  have hbehind := date.daysBeforeYear_lt
  have hlast := date.le_last
  rw [lastOrdinal] at hlast
  rw [daysBeforeYear] at hbehind
  omega

/-- A quotient grows by one at each multiple. -/
private theorem add_one_div (n k : Nat) :
    (n + 1) / k = n / k + if (n + 1) % k = 0 then 1 else 0 := by
  rw [Nat.succ_div]
  simp only [Nat.dvd_iff_mod_eq_zero]

/-- The months of a year make up its days. -/
theorem daysBeforeYear_succ {year : Nat} (h : 1 ≤ year) :
    daysBeforeYear (year + 1) = daysBeforeYear year + (monthLengths year).sum := by
  obtain ⟨past, rfl⟩ : ∃ past, year = past + 1 := ⟨year - 1, by omega⟩
  have hsum : (monthLengths (past + 1)).sum =
      if isLeapYear (past + 1) = true then 366 else 365 := by
    rw [monthLengths]
    cases isLeapYear (past + 1) <;> rfl
  have hleap : isLeapYear (past + 1) = true ↔
      (past + 1) % 4 = 0 ∧ ((past + 1) % 100 ≠ 0 ∨ (past + 1) % 400 = 0) := by
    simp [isLeapYear]
  have hless : past / 100 ≤ past / 4 := by omega
  have hhundreds : (past + 1) % 100 = 0 → (past + 1) % 4 = 0 := by omega
  have hfourHundreds : (past + 1) % 400 = 0 → (past + 1) % 100 = 0 := by omega
  rw [hsum]
  simp only [daysBeforeYear, Nat.add_sub_cancel, add_one_div past, hleap]
  -- What is left tells only which of the three numbers divide the year.
  generalize past / 4 = four, past / 100 = hundred, past / 400 = fourHundred,
    (past + 1) % 4 = a, (past + 1) % 100 = b, (past + 1) % 400 = c
    at hless hhundreds hfourHundreds ⊢
  split <;> split <;> split <;> split <;> omega

/-- A day of the year is found in one of its months. -/
theorem monthAndDay_bounds (month : Nat) {dayOfYear : Nat} {lengths : List Nat}
    (hfirst : 1 ≤ dayOfYear) (hlast : dayOfYear ≤ lengths.sum) :
    ∃ length, lengths[(monthAndDay month dayOfYear lengths).1 - month]? = some length ∧
      1 ≤ (monthAndDay month dayOfYear lengths).2 ∧
      (monthAndDay month dayOfYear lengths).2 ≤ length := by
  induction lengths generalizing month dayOfYear with
  | nil =>
    rw [List.sum_nil] at hlast
    omega
  | cons length lengths ih =>
    rw [monthAndDay]
    split
    · next hhere => exact ⟨length, by simp, hfirst, hhere⟩
    · next hlater =>
      rw [List.sum_cons] at hlast
      obtain ⟨found, hfound, hday⟩ :=
        ih (month + 1) (Nat.sub_pos_of_lt (Nat.not_le.mp hlater)) (by omega)
      have hmonth := (foldl_monthAndDay (month + 1) (dayOfYear - length) lengths).1
      refine ⟨found, ?_, hday⟩
      generalize monthAndDay (month + 1) (dayOfYear - length) lengths = result at hfound hmonth ⊢
      have hpast : result.1 - month = result.1 - (month + 1) + 1 := by omega
      rw [hpast, List.getElem?_cons_succ]
      exact hfound

/-- The day of a date is one of its month. -/
theorem civilDay_bounds (date : Date) :
    1 ≤ date.civilDay.1 ∧ 1 ≤ date.civilDay.2 ∧
      ∃ length, (monthLengths date.year)[date.civilDay.1 - 1]? = some length ∧
        date.civilDay.2 ≤ length := by
  have hbehind := date.daysBeforeYear_lt
  have hwithin := date.ordinal_le
  rw [daysBeforeYear_succ date.one_le_year] at hwithin
  have hfirst : 1 ≤ date.ordinal - daysBeforeYear date.year := by omega
  have hlast : date.ordinal - daysBeforeYear date.year ≤ (monthLengths date.year).sum := by omega
  obtain ⟨length, hlength, hday, hlast⟩ := monthAndDay_bounds 1 hfirst hlast
  exact ⟨(foldl_monthAndDay _ _ _).1, hday, length, hlength, hlast⟩

/-- Every month has two digits, and so has every day of it. -/
theorem civilDay_lt (date : Date) : date.civilDay.1 < 10 ^ 2 ∧ date.civilDay.2 < 10 ^ 2 := by
  obtain ⟨-, -, length, hlength, hday⟩ := date.civilDay_bounds
  obtain ⟨hmonth, hvalue⟩ := List.getElem?_eq_some_iff.mp hlength
  have hmem : length ∈ monthLengths date.year := hvalue ▸ List.getElem_mem hmonth
  have hlong : length ≤ 31 := by
    simp only [monthLengths, List.mem_cons, List.not_mem_nil, or_false] at hmem
    split at hmem <;> omega
  have htwelve : (monthLengths date.year).length = 12 := rfl
  rw [htwelve] at hmonth
  omega

/-- A date is found again from its ordinal. -/
theorem ofOrdinal?_ordinal (date : Date) : ofOrdinal? (date.ordinal : Nat) = some date := by
  rw [ofOrdinal?, dif_pos ⟨date.one_le, date.le_last⟩]
  rfl

/-- A date is found again from its year, month and day. -/
theorem ofCivil?_civilDay (date : Date) :
    ofCivil? date.year date.civilDay.1 date.civilDay.2 = some date := by
  obtain ⟨hmonth, hday, length, hlength, hlast⟩ := date.civilDay_bounds
  have hvalid : 1 ≤ date.year ∧ date.year ≤ 9999 ∧ 1 ≤ date.civilDay.1 ∧ 1 ≤ date.civilDay.2 ∧
      date.civilDay.2 ≤ ((monthLengths date.year)[date.civilDay.1 - 1]?).getD 0 := by
    rw [hlength]
    exact ⟨date.one_le_year, date.year_le, hmonth, hday, hlast⟩
  rw [ofCivil?, if_pos hvalid, Nat.add_assoc, ← ordinal_eq, ofOrdinal?_ordinal]

/-! ### ISO form -/

/-- A group that holds a hyphen makes the numbers of several groups unreadable. -/
private theorem numbers?_of_hyphen {group : List Char} (h : '-' ∈ group)
    (groups : List (List Char)) : numbers? (group :: groups) = none := by
  rw [numbers?, List.mapM_cons, digitsNumber?_of_not_digit h (by decide)]
  rfl

/-- No ISO form has a hyphen among its first four characters: they are the digits of the year. -/
theorem ofIso?_of_hyphen {s : String} (h : '-' ∈ s.toList.take 4) : ofIso? s = none := by
  have hyear (a b c d : Char) (rest : List Char) (hs : s.toList = a :: b :: c :: d :: rest)
      (groups : List (List Char)) : numbers? ([a, b, c, d] :: groups) = none := by
    rw [hs] at h
    exact numbers?_of_hyphen h groups
  rw [ofIso?]
  split
  -- The six forms, each of which reads the year first.
  iterate 6
    · next hs =>
      rw [hyear _ _ _ _ _ hs]
      rfl
  · rfl

private theorem exists_two {cs : List Char} (h : cs.length = 2) : ∃ a b, cs = [a, b] :=
  match cs, h with
  | [a, b], _ => ⟨a, b, rfl⟩

private theorem exists_four {cs : List Char} (h : cs.length = 4) :
    ∃ a b c d, cs = [a, b, c, d] :=
  match cs, h with
  | [a, b, c, d], _ => ⟨a, b, c, d, rfl⟩

/-- A date is found again from its ISO form. -/
theorem ofIso?_isoText (date : Date) : ofIso? date.isoText = some date := by
  obtain ⟨hmonth, hday⟩ := date.civilDay_lt
  have hyear : date.year < 10 ^ 4 := Nat.lt_of_le_of_lt date.year_le (by decide)
  obtain ⟨a, b, c, d, hy⟩ := exists_four (length_padded (by decide) hyear)
  obtain ⟨e, f, hm⟩ := exists_two (length_padded (by decide) hmonth)
  obtain ⟨g, h, hd⟩ := exists_two (length_padded (by decide) hday)
  have hnumbers : numbers? [[a, b, c, d], [e, f], [g, h]] =
      some [date.year, date.civilDay.1, date.civilDay.2] := by
    rw [← hy, ← hm, ← hd]
    simp [numbers?, digitsNumber?_padded]
  have hweek : e ≠ 'W' := by
    rintro rfl
    have hmem : 'W' ∈ padded 2 date.civilDay.1 := by
      rw [hm]
      exact List.mem_cons_self
    exact absurd (isDigit_of_mem_padded hmem) (by decide)
  have htext : date.isoText.toList = [a, b, c, d, '-', e, f, '-', g, h] := by
    rw [isoText, textWithYear, String.toList_ofList, hy, hm, hd]
    rfl
  rw [ofIso?, htext]
  simp [hnumbers, ofCivil?_civilDay, hweek]

/-- A year of fewer than four digits makes no ISO form. -/
theorem ofIso?_textWithYear_one {date : Date} (h : date.year < 1000) :
    ofIso? (date.textWithYear 1) = none := by
  have hshort : (padded 1 date.year).length ≤ 3 := by
    have hdigits := (Nat.length_toDigits_le_iff (b := 10) (n := date.year) (k := 3) (by decide)
      (by decide)).mpr h
    have hfirst := Nat.length_toDigits_pos (b := 10) (n := date.year)
    rw [padded, List.length_append, List.length_replicate]
    omega
  obtain ⟨places, hplaces⟩ : ∃ places, 4 - (padded 1 date.year).length = places + 1 :=
    ⟨3 - (padded 1 date.year).length, by omega⟩
  apply ofIso?_of_hyphen
  rw [textWithYear, String.toList_ofList, List.append_assoc, List.take_append, hplaces,
    List.cons_append, List.take_succ_cons]
  exact List.mem_append_right _ List.mem_cons_self

end Date

end SqlFacts.Calendar
