/-!
# Calendar dates

Days of the proleptic Gregorian calendar in the years 1 to 9999. A date is kept as its ordinal,
with 1 for the first day of year 1, so earlier and later and the distance in days are those of
the ordinals. Year, month and day are computed from it.
-/

namespace SqlFacts.Calendar

/-- Tests whether a year has a 29th of February. -/
def isLeapYear (year : Nat) : Bool := year % 4 == 0 && (year % 100 != 0 || year % 400 == 0)

/-- The lengths of the months of a year. -/
def monthLengths (year : Nat) : List Nat :=
  [31, if isLeapYear year then 29 else 28, 31, 30, 31, 30, 31, 31, 30, 31, 30, 31]

/-- The number of days before the given year. -/
def daysBeforeYear (year : Nat) : Nat :=
  let past := year - 1
  365 * past + past / 4 - past / 100 + past / 400

/-- The number of days of a year before the given month. -/
def daysBeforeMonth (year month : Nat) : Nat :=
  ((monthLengths year).take (month - 1)).foldl (· + ·) 0

/-- The ordinal of the last day of year 9999. -/
def lastOrdinal : Nat := 3652059

/-- A day of the years 1 to 9999. -/
structure Date where
  ordinal : Nat
  one_le : 1 ≤ ordinal
  le_last : ordinal ≤ lastOrdinal
  deriving DecidableEq, Repr

namespace Date

/-- The date of an ordinal, if it lies in the years 1 to 9999. -/
def ofOrdinal? (ordinal : Int) : Option Date :=
  if h : 1 ≤ ordinal.toNat ∧ ordinal.toNat ≤ lastOrdinal then some ⟨ordinal.toNat, h.1, h.2⟩
  else none

/-- The date of a year, a month and a day, if there is such a day. -/
def ofCivil? (year month day : Nat) : Option Date :=
  let last := ((monthLengths year)[month - 1]?).getD 0
  if 1 ≤ year ∧ year ≤ 9999 ∧ 1 ≤ month ∧ 1 ≤ day ∧ day ≤ last then
    ofOrdinal? (daysBeforeYear year + daysBeforeMonth year month + day : Nat)
  else none

/-- The year of a date. The average length of years gives it up to one. -/
def year (date : Date) : Nat :=
  let guess := (date.ordinal - 1) * 400 / 146097 + 1
  if date.ordinal ≤ daysBeforeYear guess then guess - 1
  else if daysBeforeYear (guess + 1) < date.ordinal then guess + 1
  else guess

/-- The month and the day of the month of a day of the year, counted from one. -/
def monthAndDay : (month dayOfYear : Nat) → List Nat → Nat × Nat
  | month, dayOfYear, [] => (month, dayOfYear)
  | month, dayOfYear, length :: lengths =>
    if dayOfYear ≤ length then (month, dayOfYear)
    else monthAndDay (month + 1) (dayOfYear - length) lengths

/-- The month and the day of a date. -/
def civilDay (date : Date) : Nat × Nat :=
  monthAndDay 1 (date.ordinal - daysBeforeYear date.year) (monthLengths date.year)

/-- Tests whether one date lies before another. -/
def isBefore (a b : Date) : Bool := a.ordinal < b.ordinal

/-- The date a number of days before another, if the calendar reaches so far. -/
def daysBefore? (date : Date) (days : Int) : Option Date := ofOrdinal? (date.ordinal - days)

/-- A number in decimal digits, with zeros in front up to the given width. -/
def padded (width n : Nat) : List Char :=
  let digits := Nat.toDigits 10 n
  List.replicate (width - digits.length) '0' ++ digits

/-- The date as `YYYY-MM-DD`, with at least the given number of digits for the year. -/
def textWithYear (yearWidth : Nat) (date : Date) : String :=
  String.ofList (padded yearWidth date.year ++ '-' :: padded 2 date.civilDay.1 ++
    '-' :: padded 2 date.civilDay.2)

/-- The date as `YYYY-MM-DD`. -/
def isoText (date : Date) : String := date.textWithYear 4

end Date

end SqlFacts.Calendar
