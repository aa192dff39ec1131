import SqlFacts.Calendar.Date

/-!
# Dates in ISO form

The ISO forms of a whole date: year, month and day, or year, week and day of the week, in either
case with hyphens throughout or without any. A week without a day stands for its Monday. Behind a
form without hyphens two more bytes are passed over.
-/

namespace SqlFacts.Calendar

/-- The number that a list of ASCII digits stands for. -/
def digitsNumber? (cs : List Char) : Option Nat :=
  cs.foldlM (fun n c => if c.isDigit then some (10 * n + (c.toNat - '0'.toNat)) else none) 0

/-- The ordinal of the Monday of the first week of a year, the week of its first Thursday. It may
lie before the first day of the calendar, so it is an integer. -/
def firstWeekMonday (year : Nat) : Int :=
  let newYear := daysBeforeYear year + 1
  let weekday := (newYear + 6) % 7
  let monday : Int := (newYear : Int) - weekday
  if 3 < weekday then monday + 7 else monday

/-- The number of weeks of a year. Those have 53 that begin on a Thursday, and leap years that
begin on a Wednesday. -/
def weeksInYear (year : Nat) : Nat :=
  let weekday := (daysBeforeYear year + 7) % 7
  if weekday = 3 ∨ (weekday = 2 ∧ isLeapYear year) then 53 else 52

/-- The date of a year, a week of it and a day of the week, Monday being the first. -/
def Date.ofWeek? (year week day : Nat) : Option Date :=
  if 1 ≤ year ∧ year ≤ 9999 ∧ 1 ≤ week ∧ week ≤ weeksInYear year ∧ 1 ≤ day ∧ day ≤ 7 then
    Date.ofOrdinal? (firstWeekMonday year + 7 * ((week : Int) - 1) + ((day : Int) - 1))
  else none

/-- The numbers of several groups of digits. -/
def numbers? (groups : List (List Char)) : Option (List Nat) := groups.mapM digitsNumber?

/-- Tests whether the characters behind a form without hyphens leave it standing: none, or what
takes two bytes, as the hyphens would. -/
def isPadding (cs : List Char) : Bool :=
  let size := (String.ofList cs).utf8ByteSize
  size == 0 || size == 2

/-- The date that a text writes in one of the ISO forms. -/
def Date.ofIso? (s : String) : Option Date :=
  match s.toList with
  | [a, b, c, d, 'W', e, f] => do
    let [year, week] ← numbers? [[a, b, c, d], [e, f]] | none
    ofWeek? year week 1
  | [a, b, c, d, '-', 'W', e, f] => do
    let [year, week] ← numbers? [[a, b, c, d], [e, f]] | none
    ofWeek? year week 1
  | [a, b, c, d, '-', 'W', e, f, '-', g] => do
    let [year, week, day] ← numbers? [[a, b, c, d], [e, f], [g]] | none
    ofWeek? year week day
  | [a, b, c, d, '-', e, f, '-', g, h] => do
    let [year, month, day] ← numbers? [[a, b, c, d], [e, f], [g, h]] | none
    ofCivil? year month day
  | a :: b :: c :: d :: 'W' :: e :: f :: g :: rest => do
    let [year, week, day] ← numbers? [[a, b, c, d], [e, f], [g]] | none
    if isPadding rest then ofWeek? year week day else none
  | a :: b :: c :: d :: e :: f :: g :: h :: rest => do
    let [year, month, day] ← numbers? [[a, b, c, d], [e, f], [g, h]] | none
    if isPadding rest then ofCivil? year month day else none
  | _ => none

end SqlFacts.Calendar
