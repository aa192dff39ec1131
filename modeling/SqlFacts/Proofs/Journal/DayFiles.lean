import SqlFacts.Journal
import SqlFacts.Proofs.Calendar.ReadBack

/-!
# Files of days

The name of the file for a day is read back as that day, except for years of fewer than four
digits, whose files are never taken for those of a day. So whether such a file is past the
retention time is a matter of ordinals, and the file of the current day never is.
-/

namespace SqlFacts

namespace Calendar.Date

/-- The day a number of days before another is known by its ordinal. -/
theorem daysBefore?_eq_some_iff {today limit : Date} {days : Int} :
    today.daysBefore? days = some limit ↔ (limit.ordinal : Int) = today.ordinal - days := by
  have hfirst := limit.one_le
  have hlast := limit.le_last
  rw [daysBefore?, ofOrdinal?]
  constructor
  · intro h
    split at h
    · cases Option.some.inj h
      simp only
      omega
    · cases h
  · intro h
    have hlimit : (today.ordinal - days : Int).toNat = limit.ordinal := by omega
    rw [dif_pos (by omega)]
    simp only [hlimit]

/-- The calendar does not reach a number of days back that is as large as the ordinal of a day. -/
theorem daysBefore?_eq_none_iff {today : Date} {days : Int} (h : 0 ≤ days) :
    today.daysBefore? days = none ↔ (today.ordinal : Int) ≤ days := by
  have hlast := today.le_last
  rw [daysBefore?, ofOrdinal?]
  split
  · next hlies => simpa using (by omega : days < today.ordinal)
  · next hout => simpa using (by omega : (today.ordinal : Int) ≤ days)

/-- A day that lies further back than a number of days lies before the day so many days back. -/
theorem exists_daysBefore? {today day : Date} {days : Int} (h : 0 ≤ days)
    (hpast : day.ordinal + days < today.ordinal) :
    ∃ limit, today.daysBefore? days = some limit ∧ day.ordinal < limit.ordinal := by
  cases hlimit : today.daysBefore? days with
  | none =>
    have hlong := (daysBefore?_eq_none_iff h).mp hlimit
    omega
  | some limit =>
    have hordinal := daysBefore?_eq_some_iff.mp hlimit
    exact ⟨limit, rfl, by omega⟩

end Calendar.Date

namespace Journal

open Calendar (Date)

/-- A name with the extension of a journal is cut in front of it. -/
theorem stem_append_extension {name : String} (h : name ≠ "") :
    stem (name ++ fileExtension) = name := by
  have hchars : name.toList ≠ [] := fun hnil => h (String.toList_eq_nil_iff.mp hnil)
  have htext : (name ++ fileExtension).toList = name.toList ++ ['.', 'j', 's', 'o', 'n', 'l'] := by
    rw [String.toList_append]
    rfl
  rw [stem, htext]
  simp [hchars]

/-- A year of four digits is written alike in the name of a file and in ISO form. -/
theorem textWithYear_one {day : Date} (h : 1000 ≤ day.year) : day.textWithYear 1 = day.isoText := by
  have hwidth : 1 ≤ 4 := by decide
  rw [Date.isoText, Date.textWithYear, Date.textWithYear, Date.padded_of_le hwidth h]

/-- The file for a day is read as the file of that day, if its year has four digits. -/
theorem day?_fileName (day : Date) :
    day? (fileName day) = if 1000 ≤ day.year then some day else none := by
  have hname : day.textWithYear 1 ≠ "" := by
    intro hempty
    have hparts := congrArg List.length (Date.splitOn_textWithYear 1 day)
    simp [hempty] at hparts
  rw [day?, fileName, stem_append_extension hname]
  split
  · next hyear => rw [textWithYear_one hyear, Date.ofIso?_isoText]
  · next hyear => exact Date.ofIso?_textWithYear_one (by omega)

/-- The file for a day is past a limit if the day lies before it and its year has four digits. -/
theorem isStale_fileName (limit day : Date) :
    isStale limit (fileName day) = true ↔ 1000 ≤ day.year ∧ day.ordinal < limit.ordinal := by
  have hlog : isLogName (fileName day) = true := by
    rw [isLogName, fileName, String.toList_append, List.isSuffixOf_iff_suffix]
    exact List.suffix_append _ _
  rw [isStale, hlog, Bool.true_and, day?_fileName]
  split
  · next hyear => simp [Date.isBefore, hyear]
  · next hyear => simp [hyear]

/-- A cleanup that keeps at least a day keeps the file of the current day. -/
theorem not_isStale_today {today : Date} {retentionDays : Int} (h : 1 ≤ retentionDays) :
    (today.daysBefore? retentionDays).any (isStale · (fileName today)) = false := by
  cases hlimit : today.daysBefore? retentionDays with
  | none => rfl
  | some limit =>
    have hordinal := Date.daysBefore?_eq_some_iff.mp hlimit
    rw [Option.any_some, Bool.eq_false_iff]
    intro hstale
    have hbefore := ((isStale_fileName limit today).mp hstale).2
    omega

end Journal

end SqlFacts
