import SqlFacts.Proofs.Calendar.ReadBack

/-!
# Dates by month and by week

A date is told by its year, month and day, and as well by the year and the number of its week and
the day of the week. A week belongs to the year of its Thursday and is counted by its Thursdays.
The readers of both take exactly the numbers of the date that they give.
-/

namespace SqlFacts.Calendar

namespace Date

/-- The day of the week, from 1 for a Monday to 7 for a Sunday. -/
def weekday (date : Date) : Nat := (date.ordinal + 6) % 7 + 1

/-- The calendar begins on a Monday and ends on a Friday, so no week lacks its Thursday. -/
theorem thursday_bounds (date : Date) :
    1 ≤ date.ordinal + 4 - date.weekday ∧ date.ordinal + 4 - date.weekday ≤ lastOrdinal := by
  have hfirst := date.one_le
  have hlast := date.le_last
  rw [lastOrdinal] at hlast ⊢
  rw [weekday]
  omega

/-- The Thursday of the same week. -/
def thursday (date : Date) : Date where
  ordinal := date.ordinal + 4 - date.weekday
  one_le := date.thursday_bounds.1
  le_last := date.thursday_bounds.2

/-- The year that the week of a date belongs to. -/
def weekYear (date : Date) : Nat := date.thursday.year

/-- The number of the week of a date in its year. -/
def week (date : Date) : Nat :=
  (date.thursday.ordinal - daysBeforeYear date.weekYear - 1) / 7 + 1

/-- The date of an ordinal is the one that has it. -/
theorem ofOrdinal?_eq_some_iff {ordinal : Int} {date : Date} :
    ofOrdinal? ordinal = some date ↔ (date.ordinal : Int) = ordinal := by
  have hfirst := date.one_le
  have hlast := date.le_last
  rw [ofOrdinal?]
  constructor
  · intro h
    split at h
    · cases Option.some.inj h
      simp only
      omega
    · cases h
  · rintro rfl
    rw [dif_pos ⟨hfirst, hlast⟩]
    rfl

/-- There is no date of an ordinal that lies outside the calendar. -/
theorem ofOrdinal?_eq_none_iff {ordinal : Int} :
    ofOrdinal? ordinal = none ↔ ¬ (1 ≤ ordinal ∧ ordinal ≤ lastOrdinal) := by
  rw [ofOrdinal?]
  split
  · next hlies => simpa using (by omega : 1 ≤ ordinal ∧ ordinal ≤ lastOrdinal)
  · next hout => exact iff_of_true rfl (by omega)

/-! ### Years -/

/-- A year has 365 days, or 366 if it is a leap year. -/
theorem daysBeforeYear_add_one {year : Nat} (h : 1 ≤ year) :
    daysBeforeYear (year + 1) = daysBeforeYear year + if isLeapYear year then 366 else 365 := by
  rw [daysBeforeYear_succ h, monthLengths]
  cases isLeapYear year <;> rfl

/-- Later years have more days in front of them. -/
theorem daysBeforeYear_mono {year later : Nat} (h : year ≤ later) :
    daysBeforeYear year ≤ daysBeforeYear later := by
  induction later, h using Nat.le_induction with
  | base => exact Nat.le_refl _
  | succ later _ ih =>
    have hnext : daysBeforeYear later ≤ daysBeforeYear (later + 1) := by
      simp only [daysBeforeYear]
      omega
    exact Nat.le_trans ih hnext

/-- The year of a date is the one whose days it is among. -/
theorem year_eq_iff {date : Date} {year : Nat} (h : 1 ≤ year) :
    date.year = year ↔
      daysBeforeYear year < date.ordinal ∧ date.ordinal ≤ daysBeforeYear (year + 1) := by
  have hbehind := date.daysBeforeYear_lt
  have hwithin := date.ordinal_le
  constructor
  · rintro rfl
    exact ⟨hbehind, hwithin⟩
  · rintro ⟨hafter, hbefore⟩
    rcases Nat.lt_trichotomy date.year year with hless | heq | hmore
    · have hlater := daysBeforeYear_mono (Nat.succ_le_of_lt hless)
      rw [Nat.succ_eq_add_one] at hlater
      omega
    · exact heq
    · have hlater := daysBeforeYear_mono (Nat.succ_le_of_lt hmore)
      rw [Nat.succ_eq_add_one] at hlater
      omega

/-! ### Year, month and day -/

/-- The days of the months in front and a day of a month are found as that day of that month. -/
theorem monthAndDay_sum_take {month found day length : Nat} {lengths : List Nat}
    (hmonth : month ≤ found) (hlength : lengths[found - month]? = some length) (hfirst : 1 ≤ day)
    (hlast : day ≤ length) :
    monthAndDay month ((lengths.take (found - month)).sum + day) lengths = (found, day) := by
  induction lengths generalizing month with
  | nil => cases hlength
  | cons here lengths ih =>
    rcases Nat.eq_or_lt_of_le hmonth with rfl | hlater
    · rw [Nat.sub_self, List.getElem?_cons_zero, Option.some.injEq] at hlength
      subst hlength
      rw [Nat.sub_self, List.take_zero, List.sum_nil, Nat.zero_add, monthAndDay, if_pos hlast]
    · have hpast : found - month = found - (month + 1) + 1 := by omega
      rw [hpast, List.getElem?_cons_succ] at hlength
      rw [hpast, List.take_succ_cons, List.sum_cons, monthAndDay, if_neg (by omega)]
      have hrest : here + (lengths.take (found - (month + 1))).sum + day - here =
          (lengths.take (found - (month + 1))).sum + day := by omega
      rw [hrest]
      exact ih hlater hlength

/-- The days of the months in front and a day of a month are days of all months. -/
theorem sum_take_add_le {index length day : Nat} {lengths : List Nat}
    (hlength : lengths[index]? = some length) (hlast : day ≤ length) :
    (lengths.take index).sum + day ≤ lengths.sum := by
  induction lengths generalizing index with
  | nil => cases hlength
  | cons here lengths ih =>
    cases index with
    | zero =>
      rw [List.getElem?_cons_zero, Option.some.injEq] at hlength
      rw [List.take_zero, List.sum_nil, List.sum_cons]
      omega
    | succ index =>
      rw [List.getElem?_cons_succ] at hlength
      have := ih hlength
      rw [List.take_succ_cons, List.sum_cons, List.sum_cons]
      omega

/-- The date of a year, a month and a day is the one that has them. -/
theorem ofCivil?_eq_some_iff {year month day : Nat} {date : Date} :
    ofCivil? year month day = some date ↔ date.year = year ∧ date.civilDay = (month, day) := by
  constructor
  · intro h
    rw [ofCivil?] at h
    split at h
    · next hvalid =>
      obtain ⟨hyear, -, hmonth, hday, hlast⟩ := hvalid
      have hordinal := Int.ofNat.inj (ofOrdinal?_eq_some_iff.mp h)
      cases hlength : (monthLengths year)[month - 1]? with
      | none =>
        rw [hlength, Option.getD_none] at hlast
        omega
      | some length =>
        rw [hlength, Option.getD_some] at hlast
        have hwithin := sum_take_add_le hlength hlast
        have hdays := daysBeforeYear_succ hyear
        rw [daysBeforeMonth, ← List.sum_eq_foldl_nat] at hordinal
        have hsame : date.year = year := (year_eq_iff hyear).mpr (by omega)
        have hdayOfYear : date.ordinal - daysBeforeYear year =
            ((monthLengths year).take (month - 1)).sum + day := by omega
        refine ⟨hsame, ?_⟩
        rw [civilDay, hsame, hdayOfYear]
        exact monthAndDay_sum_take hmonth hlength hday hlast
    · cases h
  · rintro ⟨rfl, hday⟩
    have hread := date.ofCivil?_civilDay
    rwa [hday] at hread

/-! ### Weeks -/

/-- The date of a year, a week of it and a day of the week is the one that has them. -/
theorem ofWeek?_eq_some_iff {year week day : Nat} {date : Date} :
    ofWeek? year week day = some date ↔
      date.weekYear = year ∧ date.week = week ∧ date.weekday = day := by
  have hthursday : date.thursday.ordinal = date.ordinal + 4 - date.weekday := rfl
  have hweekday : date.weekday = (date.ordinal + 6) % 7 + 1 := rfl
  constructor
  · intro h
    rw [ofWeek?] at h
    split at h
    · next hvalid =>
      obtain ⟨hyear, -, hfirst, hlast, hmonday, hsunday⟩ := hvalid
      have hordinal := ofOrdinal?_eq_some_iff.mp h
      have hdays := daysBeforeYear_add_one hyear
      simp only [weeksInYear, firstWeekMonday] at hlast hordinal
      have hwithin : daysBeforeYear year < date.thursday.ordinal ∧
          date.thursday.ordinal ≤ daysBeforeYear (year + 1) := by
        cases hleap : isLeapYear year <;>
          simp only [hleap, Bool.false_eq_true, and_false, and_true, or_false, if_false, if_true]
            at hlast hdays <;>
          split at hlast <;> split at hordinal <;> omega
      have hsame : date.weekYear = year := (year_eq_iff hyear).mpr hwithin
      refine ⟨hsame, ?_, ?_⟩
      · rw [Date.week, hsame]
        split at hordinal <;> omega
      · split at hordinal <;> omega
    · cases h
  · rintro ⟨rfl, rfl, rfl⟩
    have hyear : 1 ≤ date.weekYear := date.thursday.one_le_year
    have hdays := daysBeforeYear_add_one hyear
    have hwithin := (year_eq_iff hyear).mp (rfl : date.thursday.year = date.weekYear)
    rw [ofWeek?, if_pos]
    · rw [ofOrdinal?_eq_some_iff, firstWeekMonday, Date.week]
      split <;> omega
    · refine ⟨hyear, date.thursday.year_le, Nat.le_add_left _ _, ?_, Nat.le_add_left _ _, by omega⟩
      rw [weeksInYear, Date.week]
      cases hleap : isLeapYear date.weekYear <;>
        simp only [hleap, Bool.false_eq_true, and_false, and_true, or_false, if_false, if_true]
          at hdays ⊢ <;>
        split <;> omega

end Date

end SqlFacts.Calendar
