import SqlFacts.Proofs.Calendar.Spelling
import SqlFacts.Proofs.Journal.DayFiles
import SqlFacts.Proofs.Journal.History

/-!
# Cleanups

A cleanup deletes the files whose names spell a day before the retention time, in whatever ISO
form, and the directory if nothing is left in it. Done again at the same time it deletes nothing.
The files that are logged to are named in one of these forms only, so a cleanup deletes others as
well.
-/

namespace SqlFacts

open Calendar (Date IsoForm)
open Journal (fileName)

namespace Journal

/-- A file is named for a day in one of the ISO forms. -/
def NamedFor (form : IsoForm) (day : Date) (name : String) : Prop :=
  ∃ text, name.toList = text ++ fileExtension.toList ∧ form.Spells day text

/-- The names of the files of a directory. -/
def fileNames (journal : Journal) (directory : String) : List String :=
  ((journal.filesOf? directory).getD .empty).keys

/-- Directories lie in a directory: in the root those that are there, and the root in the directory
around it. -/
def HoldsDirectories (journal : Journal) (directory : String) : Prop :=
  directory = parentName ∨ directory = "" ∧ ∃ name ∈ journal.directories.keys, isInRoot name = true

/-! ### Names of files -/

section Names

variable {form : IsoForm} {day limit : Date} {name : String}

/-- The name of a file for a day is read as that day. -/
theorem day?_eq_some_iff (hlog : isLogName name = true) :
    day? name = some day ↔ ∃ form, NamedFor form day name := by
  rw [isLogName, List.isSuffixOf_iff_suffix] at hlog
  obtain ⟨text, htext⟩ := hlog
  have hname : name = String.ofList text ++ fileExtension := by
    apply String.toList_inj.mp
    rw [String.toList_append, String.toList_ofList, htext]
  have hnamed (form : IsoForm) : NamedFor form day name ↔ form.Spells day text := by
    rw [NamedFor, ← htext]
    constructor
    · rintro ⟨front, hfront, hspells⟩
      rwa [List.append_cancel_right hfront]
    · exact fun hspells => ⟨text, rfl, hspells⟩
  have hread : day? name = Date.ofIso? (String.ofList text) := by
    cases text with
    | nil =>
      subst hname
      decide +kernel
    | cons c text =>
      have hne : String.ofList (c :: text) ≠ "" := fun hempty => by
        have := congrArg String.toList hempty
        rw [String.toList_ofList] at this
        cases this
      rw [day?, hname, stem_append_extension hne]
  rw [hread, Date.ofIso?_eq_some_iff, String.toList_ofList]
  exact exists_congr fun form => (hnamed form).symm

/-- A file is past a limit if its name spells a day before it. -/
theorem isStale_iff :
    isStale limit name = true ↔
      ∃ form day, NamedFor form day name ∧ day.ordinal < limit.ordinal := by
  have hlog {form : IsoForm} {day : Date} (h : NamedFor form day name) :
      isLogName name = true := by
    obtain ⟨text, htext, -⟩ := h
    rw [isLogName, List.isSuffixOf_iff_suffix, htext]
    exact List.suffix_append _ _
  rw [isStale, Bool.and_eq_true, Option.any_eq_true]
  constructor
  · rintro ⟨hlog, day, hday, hbefore⟩
    obtain ⟨form, hnamed⟩ := (day?_eq_some_iff hlog).mp hday
    exact ⟨form, day, hnamed, of_decide_eq_true hbefore⟩
  · rintro ⟨form, day, hnamed, hbefore⟩
    exact ⟨hlog hnamed, day, (day?_eq_some_iff (hlog hnamed)).mpr ⟨form, hnamed⟩,
      decide_eq_true hbefore⟩

/-- A file is past the retention time if its name spells a day that lies further back. -/
theorem isStale_iff_of_daysBefore? {today : Date} {retentionDays : Int}
    (h : today.daysBefore? retentionDays = some limit) :
    isStale limit name = true ↔
      ∃ form day, NamedFor form day name ∧ (day.ordinal : Int) < today.ordinal - retentionDays := by
  rw [isStale_iff, ← Date.daysBefore?_eq_some_iff.mp h]
  simp only [Int.ofNat_lt]

/-- A file that is named for a day has the name of a file to log to exactly if it gives year, month
and day with hyphens, and the year has four digits. -/
theorem exists_fileName_iff (h : NamedFor form day name) :
    (∃ own, name = fileName own) ↔ form = .month ∧ 1000 ≤ day.year := by
  obtain ⟨text, htext, hspells⟩ := h
  constructor
  · rintro ⟨own, rfl⟩
    rw [fileName, String.toList_append] at htext
    obtain rfl := List.append_cancel_right htext
    have hread := Date.ofIso?_of_spells hspells
    have hyear : 1000 ≤ own.year := by
      by_contra hshort
      rw [Date.ofIso?_textWithYear_one (Nat.lt_of_not_le hshort)] at hread
      cases hread
    rw [textWithYear_one hyear] at hread hspells
    cases (Date.ofIso?_isoText own).symm.trans hread
    rw [Date.isoText, Date.textWithYear, String.toList_ofList] at hspells
    exact ⟨Date.eq_month_of_spells hspells, hyear⟩
  · rintro ⟨rfl, hyear⟩
    obtain ⟨-, more, hmore, hnone⟩ := hspells
    obtain rfl : more = [] := hnone.resolve_right fun htakes => absurd htakes.1 Bool.false_ne_true
    refine ⟨day, ?_⟩
    rw [fileName, textWithYear_one hyear, Date.isoText, Date.textWithYear]
    apply String.toList_inj.mp
    rw [htext, hmore, List.append_nil, String.toList_append, String.toList_ofList]
    rfl

end Names

/-! ### What is left -/

section Left

variable {journal : Journal} {directory : String}

/-- The journal with other files in a directory. -/
def withFiles (journal : Journal) (directory : String) (files : LogDirectory) : Journal :=
  ⟨journal.directories.insert directory files⟩

/-- The files that do not cover days before a limit. -/
def kept (limit : Date) (files : LogDirectory) : LogDirectory :=
  files.filter fun name _ => !isStale limit name

/-- The journal without the files of a directory that cover days before a limit, and without the
directory if that leaves it vacant. -/
def cleaned (journal : Journal) (directory : String) (limit : Date) (files : LogDirectory) :
    Journal :=
  (journal.withFiles directory (kept limit files)).removeIfEmpty directory

/-- A cleanup of a directory that is there deletes what covers days before the limit. -/
theorem cleanup_of_filesOf? {today limit : Date} {retentionDays : Int} {files : LogDirectory}
    (hfiles : journal.filesOf? directory = some files)
    (hlimit : today.daysBefore? retentionDays = some limit) :
    journal.cleanup directory today retentionDays =
      .ok (files.entries.length - (kept limit files).entries.length,
        journal.cleaned directory limit files) := by
  rw [cleanup, hfiles]
  simp only [hlimit]
  rfl

/-- A cleanup of a missing directory deletes nothing. -/
theorem cleanup_of_not_reaches {today : Date} {retentionDays : Int}
    (h : journal.reaches directory = false) :
    journal.cleanup directory today retentionDays = .ok (0, journal) := by
  rw [reaches, Option.isSome_eq_false_iff, Option.isNone_iff_eq_none] at h
  rw [cleanup, h]

/-- The files that are put into a directory that is there are its files. -/
theorem filesOf?_withFiles (h : journal.reaches directory = true) (files : LogDirectory) :
    (journal.withFiles directory files).filesOf? directory = some files := by
  rw [reaches, filesOf?] at h
  rw [filesOf?, withFiles, OrderedMap.get?_insert, OrderedMap.get?_insert, if_pos rfl]
  split
  · next hparent =>
    rw [if_pos hparent, Option.isSome_map, Option.isSome_iff_exists] at h
    obtain ⟨root, hroot⟩ := h
    rw [if_neg (hparent ▸ by decide), hroot]
    rfl
  · rfl

/-- A directory is vacant if there is neither a file nor a directory in it. -/
theorem isVacant_iff :
    journal.isVacant directory = true ↔
      (∀ file, journal.lines? directory file = none) ∧ ¬ journal.HoldsDirectories directory := by
  have hfiles : (journal.directories.get? directory).all (·.isEmpty) = true ↔
      ∀ file, journal.lines? directory file = none := by
    cases hget : journal.directories.get? directory with
    | none => simp [lines?, hget]
    | some files => simp [lines?, hget, OrderedMap.isEmpty_iff]
  have hroot : (directory.isEmpty && journal.directories.keys.any isInRoot) = true ↔
      directory = "" ∧ ∃ name ∈ journal.directories.keys, isInRoot name = true := by
    rw [Bool.and_eq_true, String.isEmpty_iff, List.any_eq_true]
  rw [isVacant, Bool.and_eq_true, Bool.and_eq_true, hfiles, bne_iff_ne, Bool.not_eq_true',
    ← Bool.not_eq_true, hroot, HoldsDirectories, not_or, and_assoc, and_left_comm]

/-- A directory that is there stays there unless it is vacant. -/
theorem reaches_removeIfEmpty (h : journal.reaches directory = true) :
    (journal.removeIfEmpty directory).reaches directory = !journal.isVacant directory := by
  cases hvacant : journal.isVacant directory with
  | false =>
    rw [removeIfEmpty, hvacant, if_neg Bool.false_ne_true]
    exact h
  | true =>
    rw [removeIfEmpty, hvacant, if_pos rfl, reaches, filesOf?]
    rw [isVacant, Bool.and_eq_true, Bool.and_eq_true, bne_iff_ne] at hvacant
    rw [if_neg hvacant.1.1, OrderedMap.get?_erase, if_pos rfl]
    rfl

/-- Other files do not change which directories lie in a directory. -/
theorem holdsDirectories_withFiles (files : LogDirectory) :
    (journal.withFiles directory files).HoldsDirectories directory ↔
      journal.HoldsDirectories directory := by
  have hkeys (name : String) : name ∈ (journal.withFiles directory files).directories.keys ↔
      name = directory ∨ name ∈ journal.directories.keys := OrderedMap.mem_keys_place
  refine or_congr_right (and_congr_right fun hroot => exists_congr fun name => ?_)
  rw [hkeys, hroot]
  constructor
  · rintro ⟨rfl | hmem, hinside⟩
    · cases hinside
    · exact ⟨hmem, hinside⟩
  · exact fun h => ⟨.inr h.1, h.2⟩

section Cleaned

variable {limit : Date} {files : LogDirectory}

/-- The files of other directories stay as they are. -/
theorem get?_cleaned {d : String} (h : d ≠ directory) :
    (journal.cleaned directory limit files).directories.get? d = journal.directories.get? d := by
  have hinsert : (journal.withFiles directory (kept limit files)).directories.get? d =
      journal.directories.get? d := by
    rw [withFiles, OrderedMap.get?_insert, if_neg h]
  rw [cleaned, removeIfEmpty]
  split
  · rw [OrderedMap.get?_erase, if_neg h, hinsert]
  · exact hinsert

variable (hfiles : journal.filesOf? directory = some files)

include hfiles

/-- A directory whose files are known is there. -/
theorem reaches_of_filesOf? : journal.reaches directory = true := by
  rw [reaches, hfiles]
  rfl

/-- A directory whose files are replaced is there. -/
theorem reaches_withFiles (kept : LogDirectory) :
    (journal.withFiles directory kept).reaches directory = true :=
  reaches_of_filesOf? (filesOf?_withFiles (reaches_of_filesOf? hfiles) kept)

/-- What covers days before the limit is gone, and everything else stays. -/
theorem lines?_cleaned (d f : String) :
    (journal.cleaned directory limit files).lines? d f =
      if d = directory ∧ isStale limit f = true then none else journal.lines? d f := by
  rw [cleaned, lines?_removeIfEmpty, lines?, withFiles, OrderedMap.get?_insert]
  by_cases hd : d = directory
  · subst hd
    rw [if_pos rfl, Option.bind_some, kept, OrderedMap.get?_filter, get?_of_filesOf? hfiles]
    cases hstale : isStale limit f <;> cases journal.lines? d f <;> simp
  · rw [if_neg hd, if_neg fun h => hd h.1]
    rfl

/-- The number of files that are not kept is that of the files that are gone. -/
theorem length_sub_length_kept :
    files.entries.length - (kept limit files).entries.length =
      (journal.fileNames directory).countP fun file =>
        ((journal.cleaned directory limit files).lines? directory file).isNone := by
  have hsplit := List.length_eq_countP_add_countP (fun entry => !isStale limit entry.1)
    (l := files.entries)
  have hkept : (kept limit files).entries.length =
      files.entries.countP fun entry => !isStale limit entry.1 := List.countP_eq_length_filter.symm
  have hnames : journal.fileNames directory = files.entries.map Prod.fst := by
    rw [fileNames, hfiles]
    rfl
  rw [hnames, List.countP_map, hsplit, hkept, Nat.add_sub_cancel_left]
  refine List.countP_congr fun entry hentry => ?_
  have hlines : journal.lines? directory entry.1 = some entry.2 :=
    (get?_of_filesOf? hfiles entry.1).symm.trans (OrderedMap.get?_eq_some_iff.mpr hentry)
  rw [Function.comp_apply, lines?_cleaned hfiles, hlines]
  cases isStale limit entry.1 <;> simp

/-- The directory stays if a file or a directory is left in it. -/
theorem reaches_cleaned_iff :
    (journal.cleaned directory limit files).reaches directory = true ↔
      (∃ file, (journal.cleaned directory limit files).lines? directory file ≠ none) ∨
        journal.HoldsDirectories directory := by
  have hstays := reaches_removeIfEmpty (reaches_withFiles hfiles (kept limit files))
  have hlines (file : String) :
      (journal.cleaned directory limit files).lines? directory file =
        (journal.withFiles directory (kept limit files)).lines? directory file :=
    lines?_removeIfEmpty _ _ _ _
  rw [cleaned, hstays, Bool.not_eq_true', ← Bool.not_eq_true, isVacant_iff,
    holdsDirectories_withFiles, not_and_or, not_forall, not_not]
  simp only [← hlines]
  rfl

/-- A second cleanup deletes nothing. -/
theorem cleanup_cleaned {today : Date} {retentionDays : Int}
    (hlimit : today.daysBefore? retentionDays = some limit) :
    (journal.cleaned directory limit files).cleanup directory today retentionDays =
      .ok (0, journal.cleaned directory limit files) := by
  have hreaches := reaches_of_filesOf? hfiles
  have hput := filesOf?_withFiles hreaches (kept limit files)
  have hstays := reaches_removeIfEmpty (reaches_withFiles hfiles (kept limit files))
  cases hvacant : (journal.withFiles directory (kept limit files)).isVacant directory with
  | true =>
    rw [hvacant] at hstays
    exact cleanup_of_not_reaches hstays
  | false =>
    -- The directory stays, with files that are kept again.
    have hcleaned : journal.cleaned directory limit files =
        journal.withFiles directory (kept limit files) :=
      if_neg (by rw [hvacant]; exact Bool.false_ne_true)
    have hagain : kept limit (kept limit files) = kept limit files :=
      OrderedMap.filter_filter_self _ _
    have hsame : (journal.withFiles directory (kept limit files)).cleaned directory limit
        (kept limit files) = journal.cleaned directory limit files := by
      rw [cleaned, cleaned, hagain, withFiles, withFiles, OrderedMap.insert_insert]
    rw [hcleaned, cleanup_of_filesOf? hput hlimit, hagain, Nat.sub_self, hsame, hcleaned]

end Cleaned

end Left

end Journal

namespace Session

/-- A cleanup of a session is one of its journal. -/
theorem cleanup_of_journal {clock : Calendar.Instant} {workingDirectory : String}
    {journal left : Journal} {retentionDays : Int} {count : Nat}
    (h : journal.cleanup (Journal.directoryName workingDirectory) clock.date retentionDays =
      .ok (count, left)) :
    (Session.mk clock workingDirectory journal).cleanup retentionDays =
      .ok (count, ⟨clock, workingDirectory, left⟩) := by
  rw [cleanup, directory, h]
  rfl

/-- A cleanup of a session deletes exactly the files of the current directory whose names spell a
day before the retention time in an ISO form, and tells their number. It leaves every other file
as it is, and the directory unless neither a file nor a directory is left in it. A second one
deletes nothing. If the time lies outside the calendar, a cleanup fails and changes nothing, and it
finds nothing to delete in a missing directory, whatever the time. -/
theorem cleanup_exact (session : Session) (retentionDays : Int) :
    let directory := session.directory
    let limit : Int := session.clock.date.ordinal - retentionDays
    let inCalendar : Prop := 1 ≤ limit ∧ limit ≤ Calendar.lastOrdinal
    let Past (file : String) : Prop :=
      ∃ form day, Journal.NamedFor form day file ∧ (day.ordinal : Int) < limit
    (session.journal.reaches directory = false →
      session.cleanup retentionDays = .ok (0, session)) ∧
    (session.journal.reaches directory = true → ¬ inCalendar →
      session.cleanup retentionDays = .error .outsideCalendar ∧
        session.step (.cleanup retentionDays) = session) ∧
    (session.journal.reaches directory = true → inCalendar → ∃ count left,
      session.cleanup retentionDays = .ok (count, left) ∧
      (∀ file, Past file → left.journal.lines? directory file = none) ∧
      (∀ d file, (d = directory → ¬ Past file) →
        left.journal.lines? d file = session.journal.lines? d file) ∧
      (∀ d, d ≠ directory →
        left.journal.directories.get? d = session.journal.directories.get? d) ∧
      count = (session.journal.fileNames directory).countP
        (fun file => (left.journal.lines? directory file).isNone) ∧
      (left.journal.reaches directory = true ↔
        (∃ file, left.journal.lines? directory file ≠ none) ∨
          session.journal.HoldsDirectories directory) ∧
      left.clock = session.clock ∧ left.workingDirectory = session.workingDirectory ∧
      left.cleanup retentionDays = .ok (0, left)) := by
  intro directory limit inCalendar Past
  refine ⟨fun hmissing => ?_, fun hreaches hout => ?_, fun hreaches hin => ?_⟩
  · exact cleanup_of_journal (Journal.cleanup_of_not_reaches hmissing)
  · have hnone : session.clock.date.daysBefore? retentionDays = none :=
      Date.ofOrdinal?_eq_none_iff.mpr hout
    have herror : session.cleanup retentionDays = .error .outsideCalendar := by
      rw [cleanup, Journal.cleanup_eq_error_iff.mpr ⟨hreaches, hnone⟩]
      rfl
    exact ⟨herror, by rw [step, herror]⟩
  · obtain ⟨files, hfiles⟩ := Option.isSome_iff_exists.mp hreaches
    obtain ⟨day, hlimit⟩ : ∃ day, session.clock.date.daysBefore? retentionDays = some day :=
      Option.ne_none_iff_exists'.mp fun hnone => Date.ofOrdinal?_eq_none_iff.mp hnone hin
    have hpast (file : String) : Past file ↔ Journal.isStale day file = true :=
      (Journal.isStale_iff_of_daysBefore? hlimit).symm
    have hgone (file : String) (hfile : Past file) :
        (session.journal.cleaned directory day files).lines? directory file = none := by
      rw [Journal.lines?_cleaned hfiles, if_pos ⟨rfl, (hpast file).mp hfile⟩]
    have hkept (d file : String) (hfile : d = directory → ¬ Past file) :
        (session.journal.cleaned directory day files).lines? d file =
          session.journal.lines? d file := by
      rw [Journal.lines?_cleaned hfiles, if_neg fun h => hfile h.1 ((hpast file).mpr h.2)]
    have hfirst : session.cleanup retentionDays = .ok (_,
        ⟨session.clock, session.workingDirectory, session.journal.cleaned directory day files⟩) :=
      cleanup_of_journal (Journal.cleanup_of_filesOf? hfiles hlimit)
    have hagain : (Session.mk session.clock session.workingDirectory
        (session.journal.cleaned directory day files)).cleanup retentionDays = .ok (0,
        ⟨session.clock, session.workingDirectory, session.journal.cleaned directory day files⟩) :=
      cleanup_of_journal (Journal.cleanup_cleaned hfiles hlimit)
    refine ⟨_, _, hfirst, ?_⟩
    dsimp only
    exact ⟨hgone, hkept, fun _ => Journal.get?_cleaned, Journal.length_sub_length_kept hfiles,
      Journal.reaches_cleaned_iff hfiles, rfl, rfl, hagain⟩

/-- A file of the current directory is named for a day that a cleanup takes for past. -/
structure IsPast (session : Session) (retentionDays : Int) (directory file : String)
    (form : IsoForm) (day : Date) : Prop where
  current : directory = session.directory
  reaches : session.journal.reaches directory = true
  present : session.journal.lines? directory file ≠ none
  inCalendar : 1 ≤ session.clock.date.ordinal - retentionDays ∧
    session.clock.date.ordinal - retentionDays ≤ Calendar.lastOrdinal
  named : Journal.NamedFor form day file
  before : (day.ordinal : Int) < session.clock.date.ordinal - retentionDays

/-- A cleanup deletes the files that are named for past days. -/
theorem deletes_cleanup_iff {session : Session} {retentionDays : Int} {directory file : String} :
    session.Deletes directory file (.cleanup retentionDays) ↔
      ∃ form day, session.IsPast retentionDays directory file form day := by
  rw [deletes_iff]
  constructor
  · rintro ⟨hpresent, ⟨hcurrent, hreaches⟩, _, hstep, hstale⟩
    cases hstep
    obtain ⟨limit, hlimit, hstale⟩ := (Option.any_eq_true _ _).mp hstale
    obtain ⟨form, day, hnamed, hbefore⟩ := (Journal.isStale_iff_of_daysBefore? hlimit).mp hstale
    have hin := not_imp_comm.mp Date.ofOrdinal?_eq_none_iff.mpr fun hnone =>
      Option.some_ne_none limit (hlimit.symm.trans hnone)
    exact ⟨form, day, hcurrent, hcurrent ▸ hreaches, hpresent, hin, hnamed, hbefore⟩
  · rintro ⟨form, day, hcurrent, hreaches, hpresent, hin, hnamed, hbefore⟩
    obtain ⟨limit, hlimit⟩ : ∃ limit, session.clock.date.daysBefore? retentionDays = some limit :=
      Option.ne_none_iff_exists'.mp fun hnone => Date.ofOrdinal?_eq_none_iff.mp hnone hin
    refine ⟨hpresent, ⟨hcurrent, hcurrent ▸ hreaches⟩, retentionDays, rfl, ?_⟩
    rw [hlimit, Option.any_some, Journal.isStale_iff_of_daysBefore? hlimit]
    exact ⟨form, day, hnamed, hbefore⟩

/-- The files that a cleanup deletes have names that are logged to if they give year, month and day
of a past day with hyphens and with four digits for the year. It deletes as well every file that
names a past day in another ISO form or with a year of fewer digits, and to no such name is ever
logged. -/
theorem deletes_own_iff (session : Session) (retentionDays : Int) (directory file : String) :
    let deleted := session.Deletes directory file (.cleanup retentionDays)
    let own := ∃ day, file = fileName day
    (deleted ∧ own ↔ ∃ form day, session.IsPast retentionDays directory file form day ∧
      (form = .month ∧ 1000 ≤ day.year)) ∧
    (deleted ∧ ¬ own ↔ ∃ form day, session.IsPast retentionDays directory file form day ∧
      ¬ (form = .month ∧ 1000 ≤ day.year)) := by
  intro deleted own
  have hname {form : IsoForm} {day : Date}
      (h : session.IsPast retentionDays directory file form day) :
      own ↔ form = .month ∧ 1000 ≤ day.year := Journal.exists_fileName_iff h.named
  have hboth (Owner : Prop) (Spelling : IsoForm → Date → Prop)
      (h : ∀ form day, session.IsPast retentionDays directory file form day →
        (Owner ↔ Spelling form day)) :
      deleted ∧ Owner ↔ ∃ form day, session.IsPast retentionDays directory file form day ∧
        Spelling form day := by
    constructor
    · rintro ⟨hdeleted, howner⟩
      obtain ⟨form, day, hpast⟩ := deletes_cleanup_iff.mp hdeleted
      exact ⟨form, day, hpast, (h form day hpast).mp howner⟩
    · rintro ⟨form, day, hpast, hspelling⟩
      exact ⟨deletes_cleanup_iff.mpr ⟨form, day, hpast⟩, (h form day hpast).mpr hspelling⟩
  exact ⟨hboth _ _ fun _ _ => hname, hboth _ _ fun _ _ hpast => not_congr (hname hpast)⟩

/-- A session in June 2024 with a file of the name `20240101.jsonl`. -/
def compactDayFile : Session :=
  (Session.mk ⟨⟨739053, by decide, by decide⟩, 0⟩ "/work/project" .empty).touch "20240101.jsonl"

/-- A file that is named for a day without hyphens is deleted, and nothing is ever logged to it. -/
theorem deletes_compactDayFile :
    compactDayFile.Deletes compactDayFile.directory "20240101.jsonl" (.cleanup 30) ∧
      ¬ ∃ day, "20240101.jsonl" = fileName day := by
  have hnamed : Journal.NamedFor .compactMonth ⟨738886, by decide, by decide⟩ "20240101.jsonl" :=
    ⟨"20240101".toList, by decide +kernel,
      ⟨fun h => absurd h Bool.false_ne_true, [], by decide +kernel, .inl rfl⟩⟩
  exact (deletes_own_iff compactDayFile 30 compactDayFile.directory "20240101.jsonl").2.mpr
    ⟨.compactMonth, _, ⟨rfl, by decide +kernel, by decide +kernel, by decide +kernel, hnamed,
      by decide +kernel⟩, fun h => absurd h.1 (by decide)⟩

end Session

end SqlFacts
