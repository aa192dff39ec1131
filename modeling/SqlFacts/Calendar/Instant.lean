import SqlFacts.Calendar.IsoDate

/-!
# Instants

Moments of universal time, to the microsecond.
-/

namespace SqlFacts.Calendar

/-- A moment of universal time: a date and the microseconds since its midnight. -/
structure Instant where
  date : Date
  microsecond : Nat
  deriving DecidableEq, Repr

namespace Instant

/-- The hour, the minute and the second as `HH:MM:SS`, with six more digits unless the second is
a whole one. -/
def clockText (instant : Instant) : List Char :=
  let seconds := instant.microsecond / 1000000
  let fraction := instant.microsecond % 1000000
  Date.padded 2 (seconds / 3600) ++ ':' :: Date.padded 2 (seconds / 60 % 60) ++
    ':' :: Date.padded 2 (seconds % 60) ++
    (if fraction = 0 then [] else '.' :: Date.padded 6 fraction)

/-- The instant as `YYYY-MM-DDTHH:MM:SS+00:00`. -/
def isoText (instant : Instant) : String :=
  instant.date.isoText ++ "T" ++ String.ofList instant.clockText ++ "+00:00"

/-- The microseconds of a fraction of a second, from its first six digits. -/
def fractionMicroseconds? (digits : List Char) : Option Nat :=
  digitsNumber? ((digits ++ List.replicate 6 '0').take 6)

/-- The microseconds since midnight of a text `HH:MM:SS`, perhaps with a fraction of a second, and
what follows the time is left out. -/
def microsecondOf? (cs : List Char) : Option Nat :=
  match cs with
  | a :: b :: ':' :: c :: d :: ':' :: e :: f :: rest => do
    let [hours, minutes, seconds] ← numbers? [[a, b], [c, d], [e, f]] | none
    let fraction ←
      match rest with
      | '.' :: more => fractionMicroseconds? (more.takeWhile Char.isDigit)
      | _ => some 0
    if hours < 24 ∧ minutes < 60 ∧ seconds < 60 then
      some (((hours * 60 + minutes) * 60 + seconds) * 1000000 + fraction)
    else none
  | _ => none

/-- The instant that a text writes as a date, a separator and a time in universal time. -/
def ofIso? (s : String) : Option Instant := do
  let cs := s.toList
  let date ← Date.ofIso? (String.ofList (cs.take 10))
  let microsecond ← microsecondOf? (cs.drop 11)
  return ⟨date, microsecond⟩

/-- The instant a number of microseconds after the beginning of 1970, if the calendar reaches it. -/
def ofEpoch? (microseconds : Int) : Option Instant := do
  let perDay : Int := 86400 * 1000000
  let date ← Date.ofOrdinal? (719163 + microseconds.fdiv perDay)
  return ⟨date, (microseconds.fmod perDay).toNat⟩

end Instant

end SqlFacts.Calendar
