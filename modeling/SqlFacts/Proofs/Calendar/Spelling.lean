import SqlFacts.Proofs.Calendar.Weeks

/-!
# Spellings of dates

A text is read as a date exactly if it spells it in one of the ISO forms. The digits of a spelling
are known by the numbers that they stand for, so a form has one spelling of a date, apart from the
two bytes that may stand behind a form without hyphens.
-/

namespace SqlFacts.Calendar

/-! ### Digits -/

/-- A digit is one of ten characters from the zero on. -/
private theorem toNat_of_isDigit {c : Char} (h : c.isDigit = true) :
    '0'.toNat ≤ c.toNat ∧ c.toNat < '0'.toNat + 10 := by
  obtain ⟨hfirst, hlast⟩ := Char.isDigit_iff_toNat.mp h
  exact ⟨hfirst, Nat.lt_succ_of_le hlast⟩

/-- Digits of one length that are read as one number are the same. -/
theorem ofDigitChars_inj {cs ds : List Char} {m n : Nat} (hcs : ∀ c ∈ cs, c.isDigit = true)
    (hds : ∀ d ∈ ds, d.isDigit = true) (hlength : cs.length = ds.length)
    (h : Nat.ofDigitChars 10 cs m = Nat.ofDigitChars 10 ds n) : m = n ∧ cs = ds := by
  induction cs generalizing ds m n with
  | nil =>
    obtain rfl := List.length_eq_zero_iff.mp hlength.symm
    exact ⟨h, rfl⟩
  | cons c cs ih =>
    cases ds with
    | nil => cases hlength
    | cons d ds =>
      obtain ⟨hc, hcs⟩ := List.forall_mem_cons.mp hcs
      obtain ⟨hd, hds⟩ := List.forall_mem_cons.mp hds
      rw [Nat.ofDigitChars_cons, Nat.ofDigitChars_cons] at h
      obtain ⟨hvalue, rfl⟩ := ih hcs hds (Nat.succ.inj hlength) h
      have hcrange := toNat_of_isDigit hc
      have hdrange := toNat_of_isDigit hd
      have hsame : c = d := Char.toNat_inj.mp (by omega)
      exact ⟨by omega, by rw [hsame]⟩

/-- Digits stand for a number that has no more of them. -/
theorem ofDigitChars_lt {cs : List Char} (h : ∀ c ∈ cs, c.isDigit = true) (n : Nat) :
    Nat.ofDigitChars 10 cs n < 10 ^ cs.length * (n + 1) := by
  induction cs generalizing n with
  | nil => simp
  | cons c cs ih =>
    obtain ⟨hc, hcs⟩ := List.forall_mem_cons.mp h
    have hrange := toNat_of_isDigit hc
    rw [Nat.ofDigitChars_cons]
    calc
      Nat.ofDigitChars 10 cs (10 * n + (c.toNat - '0'.toNat))
        < 10 ^ cs.length * (10 * n + (c.toNat - '0'.toNat) + 1) := ih hcs _
      _ ≤ 10 ^ cs.length * (10 * (n + 1)) := by
        apply Nat.mul_le_mul_left
        omega
      _ = 10 ^ (c :: cs).length * (n + 1) := by
        rw [List.length_cons, Nat.pow_succ, Nat.mul_assoc]

/-- Characters are read as a number exactly if they are its digits, with zeros in front. -/
theorem digitsNumber?_eq_some_iff {cs : List Char} {n : Nat} (h : cs ≠ []) :
    digitsNumber? cs = some n ↔ n < 10 ^ cs.length ∧ cs = Date.padded cs.length n := by
  constructor
  · intro hread
    have hdigits : ∀ c ∈ cs, c.isDigit = true := by
      intro c hc
      by_contra hother
      rw [digitsNumber?_of_not_digit hc (Bool.eq_false_iff.mpr hother)] at hread
      cases hread
    rw [digitsNumber?_of_digits hdigits, Option.some.injEq] at hread
    have hless : n < 10 ^ cs.length := by
      have := ofDigitChars_lt hdigits 0
      omega
    have hlength := Date.length_padded (List.length_pos_iff.mpr h) hless
    have hvalue : Nat.ofDigitChars 10 cs 0 =
        Nat.ofDigitChars 10 (Date.padded cs.length n) 0 := by
      rw [hread, Date.ofDigitChars_padded]
    exact ⟨hless, (ofDigitChars_inj hdigits (fun _ => Date.isDigit_of_mem_padded) hlength.symm
      hvalue).2⟩
  · rintro ⟨-, hcs⟩
    rw [hcs, Date.digitsNumber?_padded]

/-! ### Forms -/

/-- The ISO forms of a whole date: by month or by week, with hyphens or without. Those by week may
leave out the day of the week. -/
inductive IsoForm where
  | month | compactMonth | weekDay | compactWeekDay | week | compactWeek
  deriving DecidableEq, Repr

namespace IsoForm

/-- The text of a date in a form. -/
def text (date : Date) : IsoForm → List Char
  | .month =>
    Date.padded 4 date.year ++ '-' :: Date.padded 2 date.civilDay.1 ++
      '-' :: Date.padded 2 date.civilDay.2
  | .compactMonth =>
    Date.padded 4 date.year ++ Date.padded 2 date.civilDay.1 ++ Date.padded 2 date.civilDay.2
  | .weekDay =>
    Date.padded 4 date.weekYear ++ '-' :: 'W' :: Date.padded 2 date.week ++
      '-' :: Date.padded 1 date.weekday
  | .compactWeekDay =>
    Date.padded 4 date.weekYear ++ 'W' :: Date.padded 2 date.week ++ Date.padded 1 date.weekday
  | .week => Date.padded 4 date.weekYear ++ '-' :: 'W' :: Date.padded 2 date.week
  | .compactWeek => Date.padded 4 date.weekYear ++ 'W' :: Date.padded 2 date.week

/-- Tests whether a form leaves out the day, which is a Monday then. -/
def leavesOutDay : IsoForm → Bool
  | .week | .compactWeek => true
  | _ => false

/-- Tests whether two more bytes may stand behind a form. -/
def takesMore : IsoForm → Bool
  | .compactMonth | .compactWeekDay => true
  | _ => false

/-- A text spells a date in a form. -/
structure Spells (form : IsoForm) (date : Date) (cs : List Char) : Prop where
  monday : form.leavesOutDay = true → date.weekday = 1
  text : ∃ more, cs = form.text date ++ more ∧
    (more = [] ∨ form.takesMore = true ∧ (String.ofList more).utf8ByteSize = 2)

end IsoForm

/-! ### Readings -/

namespace Date

/-- The numbers that a date is told by have as many digits as its spellings. -/
theorem isoNumbers_lt (date : Date) :
    date.year < 10 ^ 4 ∧ date.weekYear < 10 ^ 4 ∧ date.week < 10 ^ 2 ∧ date.weekday < 10 ^ 1 := by
  have hwithin := (year_eq_iff date.thursday.one_le_year).mp rfl
  have hdays := daysBeforeYear_add_one date.thursday.one_le_year
  have hweek : date.week =
      (date.thursday.ordinal - daysBeforeYear date.thursday.year - 1) / 7 + 1 := rfl
  have hweekday : date.weekday = (date.ordinal + 6) % 7 + 1 := rfl
  refine ⟨Nat.lt_of_le_of_lt date.year_le (by decide),
    Nat.lt_of_le_of_lt date.thursday.year_le (by decide), ?_, by omega⟩
  split at hdays <;> omega

/-- A group of digits is read as a number of a date exactly if it is written with these digits. -/
private theorem read_eq_some_iff {cs : List Char} {width n : Nat} (hlength : cs.length = width)
    (hwidth : 0 < width) (hn : n < 10 ^ width) :
    digitsNumber? cs = some n ↔ cs = padded width n := by
  subst hlength
  rw [digitsNumber?_eq_some_iff (List.length_pos_iff.mp hwidth)]
  exact and_iff_right hn

/-- The digits of a year and of a week are read as those of a date. -/
theorem readWeek_eq_some_iff {year week : List Char} {day : Nat} {date : Date}
    (hyear : year.length = 4) (hweek : week.length = 2) :
    (do
      let [y, w] ← numbers? [year, week] | none
      ofWeek? y w day) = some date ↔
        year = padded 4 date.weekYear ∧ week = padded 2 date.week ∧ date.weekday = day := by
  obtain ⟨-, hfour, htwo, -⟩ := date.isoNumbers_lt
  rw [← read_eq_some_iff hyear (by decide) hfour, ← read_eq_some_iff hweek (by decide) htwo]
  cases hy : digitsNumber? year <;> cases hw : digitsNumber? week <;>
    simp [numbers?, hy, hw, ofWeek?_eq_some_iff, @eq_comm Nat]

/-- The digits of a year, of a week and of a day of the week are read as those of a date. -/
theorem readWeekDay_eq_some_iff {year week day : List Char} {date : Date}
    (hyear : year.length = 4) (hweek : week.length = 2) (hday : day.length = 1) :
    (do
      let [y, w, d] ← numbers? [year, week, day] | none
      ofWeek? y w d) = some date ↔
        year = padded 4 date.weekYear ∧ week = padded 2 date.week ∧
          day = padded 1 date.weekday := by
  obtain ⟨-, hfour, htwo, hone⟩ := date.isoNumbers_lt
  rw [← read_eq_some_iff hyear (by decide) hfour, ← read_eq_some_iff hweek (by decide) htwo,
    ← read_eq_some_iff hday (by decide) hone]
  cases hy : digitsNumber? year <;> cases hw : digitsNumber? week <;>
    cases hd : digitsNumber? day <;> simp [numbers?, hy, hw, hd, ofWeek?_eq_some_iff, @eq_comm Nat]

/-- The digits of a year, of a month and of a day are read as those of a date. -/
theorem readMonth_eq_some_iff {year month day : List Char} {date : Date}
    (hyear : year.length = 4) (hmonth : month.length = 2) (hday : day.length = 2) :
    (do
      let [y, m, d] ← numbers? [year, month, day] | none
      ofCivil? y m d) = some date ↔
        year = padded 4 date.year ∧ month = padded 2 date.civilDay.1 ∧
          day = padded 2 date.civilDay.2 := by
  obtain ⟨hfour, -, -, -⟩ := date.isoNumbers_lt
  obtain ⟨htwo, htwo'⟩ := date.civilDay_lt
  rw [← read_eq_some_iff hyear (by decide) hfour, ← read_eq_some_iff hmonth (by decide) htwo,
    ← read_eq_some_iff hday (by decide) htwo']
  cases hy : digitsNumber? year <;> cases hm : digitsNumber? month <;>
    cases hd : digitsNumber? day <;>
    simp [numbers?, hy, hm, hd, ofCivil?_eq_some_iff, Prod.ext_iff, @eq_comm Nat]

/-- What takes no bytes or two behind a form without hyphens is passed over. -/
theorem isPadding_iff {more : List Char} :
    isPadding more = true ↔ more = [] ∨ (String.ofList more).utf8ByteSize = 2 := by
  simp [isPadding]

/-- A reading under a condition is the reading, if the condition holds. -/
private theorem bind_kept_eq_some_iff {numbers : Option (List Nat)} {keep : Bool}
    {f : Nat → Nat → Nat → Option Date} {date : Date} :
    (do
      let [y, m, d] ← numbers | none
      if keep then f y m d else none) = some date ↔
        keep = true ∧
          (do
            let [y, m, d] ← numbers | none
            f y m d) = some date := by
  cases keep with
  | false =>
    cases numbers with
    | none => simp
    | some ns => rcases ns with - | ⟨_, - | ⟨_, - | ⟨_, - | _⟩⟩⟩ <;> simp
  | true => simp

/-- What is read as a date spells it. -/
theorem exists_spells {s : String} {date : Date} (h : ofIso? s = some date) :
    ∃ form : IsoForm, form.Spells date s.toList := by
  rw [ofIso?] at h
  split at h
  · next hs =>
    obtain ⟨hyear, hweek, hday⟩ := (readWeek_eq_some_iff rfl rfl).mp h
    refine ⟨.compactWeek, fun _ => hday, [], ?_, .inl rfl⟩
    rw [hs, IsoForm.text, ← hyear, ← hweek]
    rfl
  · next hs =>
    obtain ⟨hyear, hweek, hday⟩ := (readWeek_eq_some_iff rfl rfl).mp h
    refine ⟨.week, fun _ => hday, [], ?_, .inl rfl⟩
    rw [hs, IsoForm.text, ← hyear, ← hweek]
    rfl
  · next hs =>
    obtain ⟨hyear, hweek, hday⟩ := (readWeekDay_eq_some_iff rfl rfl rfl).mp h
    refine ⟨.weekDay, fun h => absurd h Bool.false_ne_true, [], ?_, .inl rfl⟩
    rw [hs, IsoForm.text, ← hyear, ← hweek, ← hday]
    rfl
  · next hs =>
    obtain ⟨hyear, hmonth, hday⟩ := (readMonth_eq_some_iff rfl rfl rfl).mp h
    refine ⟨.month, fun h => absurd h Bool.false_ne_true, [], ?_, .inl rfl⟩
    rw [hs, IsoForm.text, ← hyear, ← hmonth, ← hday]
    rfl
  · next rest hs =>
    obtain ⟨hpadding, h⟩ := bind_kept_eq_some_iff.mp h
    obtain ⟨hyear, hweek, hday⟩ := (readWeekDay_eq_some_iff rfl rfl rfl).mp h
    refine ⟨.compactWeekDay, fun h => absurd h Bool.false_ne_true, rest, ?_,
      (isPadding_iff.mp hpadding).imp_right fun hsize => ⟨rfl, hsize⟩⟩
    rw [hs, IsoForm.text, ← hyear, ← hweek, ← hday]
    rfl
  · next rest _ _ _ _ hs =>
    obtain ⟨hpadding, h⟩ := bind_kept_eq_some_iff.mp h
    obtain ⟨hyear, hmonth, hday⟩ := (readMonth_eq_some_iff rfl rfl rfl).mp h
    refine ⟨.compactMonth, fun h => absurd h Bool.false_ne_true, rest, ?_,
      (isPadding_iff.mp hpadding).imp_right fun hsize => ⟨rfl, hsize⟩⟩
    rw [hs, IsoForm.text, ← hyear, ← hmonth, ← hday]
    rfl
  · cases h

/-- The digits of a number of two places. -/
private theorem exists_two_digits {n : Nat} (h : n < 10 ^ 2) :
    ∃ a b, padded 2 n = [a, b] ∧ digitsNumber? [a, b] = some n :=
  match hn : padded 2 n, length_padded (by decide) h with
  | [a, b], _ => ⟨a, b, rfl, hn ▸ digitsNumber?_padded 2 n⟩

/-- The digits of a number of four places. -/
private theorem exists_four_digits {n : Nat} (h : n < 10 ^ 4) :
    ∃ a b c d, padded 4 n = [a, b, c, d] ∧ digitsNumber? [a, b, c, d] = some n :=
  match hn : padded 4 n, length_padded (by decide) h with
  | [a, b, c, d], _ => ⟨a, b, c, d, rfl, hn ▸ digitsNumber?_padded 4 n⟩

/-- What spells a date is read as it. -/
theorem ofIso?_of_spells {form : IsoForm} {s : String} {date : Date}
    (h : form.Spells date s.toList) : ofIso? s = some date := by
  obtain ⟨hmonday, more, htext, hmore⟩ := h
  obtain ⟨hyear, hweekYear, hweek, hweekday⟩ := date.isoNumbers_lt
  obtain ⟨hmonth, hday⟩ := date.civilDay_lt
  have hpadding : isPadding more = true := isPadding_iff.mpr (hmore.imp_right And.right)
  have hnone (h : form.takesMore = false) : more = [] :=
    hmore.resolve_right fun htakes => absurd htakes.1 (h ▸ Bool.false_ne_true)
  have hoffWeek : ofWeek? date.weekYear date.week date.weekday = some date :=
    ofWeek?_eq_some_iff.mpr ⟨rfl, rfl, rfl⟩
  obtain ⟨a, b, c, d, hy, hyear⟩ := exists_four_digits hyear
  obtain ⟨e, f, hm, hmonth⟩ := exists_two_digits hmonth
  obtain ⟨g, h, hd, hday⟩ := exists_two_digits hday
  obtain ⟨a', b', c', d', hy', hweekYear⟩ := exists_four_digits hweekYear
  obtain ⟨e', f', hw, hweek⟩ := exists_two_digits hweek
  obtain ⟨g', hn⟩ := List.length_eq_one_iff.mp (length_padded (by decide) hweekday)
  have hweekday : digitsNumber? [g'] = some date.weekday := hn ▸ digitsNumber?_padded 1 _
  -- Without a hyphen, the month stands where one or the letter of a week would.
  have hmonthDigit : e.isDigit = true := isDigit_of_mem_padded (hm ▸ List.mem_cons_self)
  have hhyphen : e ≠ '-' := fun he => absurd hmonthDigit (he ▸ by decide)
  have hletter : e ≠ 'W' := fun he => absurd hmonthDigit (he ▸ by decide)
  cases form with
  | month =>
    rw [hnone rfl, List.append_nil, IsoForm.text, hy, hm, hd] at htext
    simp [ofIso?, htext, numbers?, hyear, hmonth, hday, ofCivil?_civilDay, hletter]
  | compactMonth =>
    rw [IsoForm.text, hy, hm, hd] at htext
    simp [ofIso?, htext, numbers?, hyear, hmonth, hday, ofCivil?_civilDay, hhyphen, hpadding]
  | weekDay =>
    rw [hnone rfl, List.append_nil, IsoForm.text, hy', hw, hn] at htext
    simp [ofIso?, htext, numbers?, hweekYear, hweek, hweekday, hoffWeek]
  | compactWeekDay =>
    rw [IsoForm.text, hy', hw, hn] at htext
    simp [ofIso?, htext, numbers?, hweekYear, hweek, hweekday, hoffWeek, hpadding]
  | week =>
    rw [hmonday rfl] at hoffWeek
    rw [hnone rfl, List.append_nil, IsoForm.text, hy', hw] at htext
    simp [ofIso?, htext, numbers?, hweekYear, hweek, hoffWeek]
  | compactWeek =>
    rw [hmonday rfl] at hoffWeek
    rw [hnone rfl, List.append_nil, IsoForm.text, hy', hw] at htext
    simp [ofIso?, htext, numbers?, hweekYear, hweek, hoffWeek]

/-- A text is read as a date exactly if it spells it. -/
theorem ofIso?_eq_some_iff {s : String} {date : Date} :
    ofIso? s = some date ↔ ∃ form : IsoForm, form.Spells date s.toList :=
  ⟨exists_spells, fun ⟨_, h⟩ => ofIso?_of_spells h⟩

/-- What year, month and day with hyphens between them spell, no other form spells. -/
theorem eq_month_of_spells {form : IsoForm} {date : Date}
    (h : form.Spells date (IsoForm.text date .month)) : form = .month := by
  obtain ⟨-, more, htext, -⟩ := h
  obtain ⟨hyear, hweekYear, -⟩ := date.isoNumbers_lt
  have hyear := length_padded (by decide : 0 < 4) hyear
  have hweekYear := length_padded (by decide : 0 < 4) hweekYear
  obtain ⟨e, f, hm, -⟩ := exists_two_digits date.civilDay_lt.1
  have hmonthDigit : e.isDigit = true := isDigit_of_mem_padded (hm ▸ List.mem_cons_self)
  -- Behind the year stand a hyphen and a digit, and in the other forms a digit, a hyphen and a
  -- letter, or a letter.
  have hbehind := congrArg (List.drop 4) htext
  cases form with
  | month => rfl
  | compactMonth =>
    simp only [IsoForm.text, hm, List.append_assoc, List.drop_left' hyear, List.cons_append,
      List.cons.injEq] at hbehind
    rw [← hbehind.1] at hmonthDigit
    cases hmonthDigit
  | weekDay | week =>
    simp only [IsoForm.text, hm, List.append_assoc, List.drop_left' hyear,
      List.drop_left' hweekYear, List.cons_append, List.cons.injEq] at hbehind
    rw [hbehind.2.1] at hmonthDigit
    cases hmonthDigit
  | compactWeekDay | compactWeek =>
    simp only [IsoForm.text, hm, List.append_assoc, List.drop_left' hyear,
      List.drop_left' hweekYear, List.cons_append, List.cons.injEq] at hbehind
    cases hbehind.1

end Date

end SqlFacts.Calendar
