import Mathlib.Data.List.Induction
import SqlFacts.Proofs.Journal.Files
import SqlFacts.Proofs.Journal.PlainText
import SqlFacts.Session

/-!
# Histories of sessions

In a session statements are logged, files are cleaned up, time passes and the working directory
changes. Whatever the order of these steps, a file holds what was logged for its directory and its
day since it was last deleted, one plain line for each statement, and only a cleanup of its own
directory deletes it.
-/

namespace SqlFacts

open Calendar (Date Instant)
open Journal (fileName)

/-- Every file is named for a day, and each of its lines is plain text. -/
def Journal.IsDiary (journal : Journal) : Prop :=
  ∀ directory file lines, journal.lines? directory file = some lines →
    (∃ day, file = fileName day) ∧ ∀ line ∈ lines, Text.IsPlain line.toList

theorem Journal.isDiary_empty : Journal.empty.IsDiary := by
  intro directory file lines h
  rw [lines?_empty] at h
  cases h

namespace Session

/-- What happens in a session. -/
inductive Step where
  | log (dialect : Option String) (d : Descriptor)
  | cleanup (retentionDays : Int)
  | setClock (clock : Instant)
  | changeDirectory (workingDirectory : String)

/-- The session behind a step. A cleanup that fails changes nothing. -/
def step (session : Session) : Step → Session
  | .log dialect d => session.log dialect d
  | .cleanup retentionDays =>
    match session.cleanup retentionDays with
    | .ok (_, after) => after
    | .error _ => session
  | .setClock clock => { session with clock }
  | .changeDirectory workingDirectory => { session with workingDirectory }

/-- The session behind some steps. -/
def run (session : Session) (steps : List Step) : Session := steps.foldl step session

/-- The line that a step adds to the file of a directory for a day. -/
def addedLine? (session : Session) (directory : String) (day : Date) : Step → Option String
  | .log dialect d =>
    if session.directory = directory ∧ session.clock.date = day then
      some (logLine session.clock dialect d)
    else none
  | _ => none

/-- The lines that some steps add to the file of a directory for a day. -/
def addedLines (directory : String) (day : Date) : Session → List Step → List String
  | _, [] => []
  | session, next :: steps =>
    (session.addedLine? directory day next).toList ++
      addedLines directory day (session.step next) steps

/-- A step deletes a file. -/
def Deletes (session : Session) (directory file : String) (next : Step) : Prop :=
  session.journal.lines? directory file ≠ none ∧
    (session.step next).journal.lines? directory file = none

/-- Some steps fall into those up to the last one that deletes a file, and those behind it, none of
which deletes the file. -/
structure SinceDeletion (start : Session) (directory file : String)
    (steps forgotten kept : List Step) : Prop where
  split : steps = forgotten ++ kept
  deleted : forgotten = [] ∨ ∃ before last, forgotten = before ++ [last] ∧
    (start.run before).Deletes directory file last
  kept : ∀ before next after, kept = before ++ next :: after →
    ¬ (start.run (forgotten ++ before)).Deletes directory file next

/-- The file with the given lines. Without lines there is no file. -/
def asFile? : List String → Option (List String)
  | [] => none
  | lines => some lines

/-! ### Steps -/

section Steps

variable {session : Session} {directory file : String} {day : Date}

theorem run_append (session : Session) (front back : List Step) :
    session.run (front ++ back) = (session.run front).run back := List.foldl_append

theorem run_concat (session : Session) (steps : List Step) (next : Step) :
    session.run (steps ++ [next]) = (session.run steps).step next := by
  rw [run_append]
  rfl

theorem addedLines_append (session : Session) (directory : String) (day : Date)
    (front back : List Step) :
    session.addedLines directory day (front ++ back) =
      session.addedLines directory day front ++
        (session.run front).addedLines directory day back := by
  induction front generalizing session with
  | nil => rfl
  | cons next front ih =>
    rw [List.cons_append, addedLines, addedLines, ih, List.append_assoc]
    rfl

/-- A line of a log is plain text, whatever the descriptor holds. -/
theorem isPlain_logLine (clock : Instant) (dialect : Option String) (d : Descriptor) :
    Text.IsPlain (logLine clock dialect d).toList := Json.isPlain_compact _

/-- Logging adds a line to the file of the day in the current directory, and changes nothing
else. -/
theorem lines?_log (session : Session) (dialect : Option String) (d : Descriptor)
    (directory file : String) :
    (session.log dialect d).journal.lines? directory file =
      if directory = session.directory ∧ file = session.todayFile then
        some ((session.journal.lines? directory file).getD [] ++
          [logLine session.clock dialect d])
      else session.journal.lines? directory file :=
  session.journal.lines?_append _ _ _ directory file

/-- A cleanup deletes the files of the current directory that are past the retention time, if the
directory is there and the time lies in the calendar, and changes nothing else. -/
theorem lines?_cleanup (session : Session) (retentionDays : Int) (directory file : String) :
    (session.step (.cleanup retentionDays)).journal.lines? directory file =
      if (directory = session.directory ∧ session.journal.reaches session.directory = true) ∧
          (session.clock.date.daysBefore? retentionDays).any (Journal.isStale · file) = true then
        none
      else session.journal.lines? directory file := by
  rw [step, cleanup]
  cases h : session.journal.cleanup session.directory session.clock.date retentionDays with
  | error e =>
    rw [(Journal.cleanup_eq_error_iff.mp h).2, Option.any_none, if_neg fun h => nomatch h.2]
    rfl
  | ok result => exact Journal.lines?_cleanup h directory file

/-- A file is deleted by a cleanup of its directory, which is there, if it is past the retention
time, and by nothing else. -/
theorem deletes_iff (next : Step) :
    session.Deletes directory file next ↔
      session.journal.lines? directory file ≠ none ∧
        (directory = session.directory ∧ session.journal.reaches session.directory = true) ∧
        ∃ retentionDays, next = .cleanup retentionDays ∧
          (session.clock.date.daysBefore? retentionDays).any (Journal.isStale · file) = true := by
  rw [Deletes]
  refine and_congr_right fun hfile => ?_
  cases next with
  | log dialect d =>
    rw [step, lines?_log]
    split <;> simp [hfile]
  | cleanup retentionDays =>
    rw [lines?_cleanup]
    simp [hfile, and_assoc]
  | setClock clock => simpa [step] using hfile
  | changeDirectory workingDirectory => simpa [step] using hfile

/-- A step that does not delete the file for a day adds its entry to it. -/
theorem lines?_step {next : Step} (h : ¬ session.Deletes directory (fileName day) next) :
    (session.step next).journal.lines? directory (fileName day) =
      match session.addedLine? directory day next with
      | some line => some ((session.journal.lines? directory (fileName day)).getD [] ++ [line])
      | none => session.journal.lines? directory (fileName day) := by
  cases next with
  | log dialect d =>
    have hsame : directory = session.directory ∧ fileName day = session.todayFile ↔
        session.directory = directory ∧ session.clock.date = day :=
      and_congr eq_comm ⟨fun h => (Journal.fileName_inj h).symm, fun h => h ▸ rfl⟩
    rw [step, lines?_log, addedLine?]
    simp only [hsame]
    split <;> rfl
  | cleanup retentionDays =>
    by_cases hfile : session.journal.lines? directory (fileName day) = none
    · rw [lines?_cleanup, hfile, ite_self]
      rfl
    · rw [lines?_cleanup, if_neg]
      · rfl
      · exact fun hdeleted =>
          h ((deletes_iff _).mpr ⟨hfile, hdeleted.1, retentionDays, rfl, hdeleted.2⟩)
  | setClock clock => rfl
  | changeDirectory workingDirectory => rfl

end Steps

/-! ### Runs -/

section Runs

variable {start : Session} {directory file : String} {steps forgotten kept : List Step}

/-- One more line lengthens the file with the given lines. -/
theorem asFile?_concat (lines : List String) (line : String) :
    asFile? (lines ++ [line]) = some ((asFile? lines).getD [] ++ [line]) := by
  cases lines <;> rfl

/-- A step that does not delete a file is one of those behind the last that does. -/
theorem SinceDeletion.concat (h : SinceDeletion start directory file steps forgotten kept)
    {next : Step} (hnext : ¬ (start.run steps).Deletes directory file next) :
    SinceDeletion start directory file (steps ++ [next]) forgotten (kept ++ [next]) := by
  refine ⟨by rw [h.split, List.append_assoc], h.deleted, ?_⟩
  intro before other after hkept
  rcases List.eq_nil_or_concat after with rfl | ⟨front, last, rfl⟩
  · obtain ⟨rfl, hother⟩ := List.append_inj' hkept rfl
    cases hother
    rwa [← h.split]
  · rw [List.concat_eq_append, ← List.cons_append, ← List.append_assoc] at hkept
    exact h.kept before other front (List.append_inj' hkept rfl).1

/-- A file holds what was added to it since it was last deleted. -/
theorem exists_sinceDeletion (clock : Instant) (workingDirectory : String) (steps : List Step)
    (directory : String) (day : Date) :
    let start : Session := ⟨clock, workingDirectory, .empty⟩
    ∃ forgotten kept,
      SinceDeletion start directory (fileName day) steps forgotten kept ∧
        (start.run steps).journal.lines? directory (fileName day) =
          asFile? ((start.run forgotten).addedLines directory day kept) := by
  intro start
  induction steps using List.reverseRecOn with
  | nil => exact ⟨[], [], ⟨rfl, .inl rfl, fun before _ _ h => by cases before <;> cases h⟩, rfl⟩
  | append_singleton steps next ih =>
    obtain ⟨forgotten, kept, hsince, hlines⟩ := ih
    by_cases hnext : (start.run steps).Deletes directory (fileName day) next
    · refine ⟨steps ++ [next], [], ⟨by rw [List.append_nil], .inr ⟨steps, next, rfl, hnext⟩,
        fun before _ _ h => by cases before <;> cases h⟩, ?_⟩
      rw [run_append]
      exact hnext.2
    · refine ⟨forgotten, kept ++ [next], hsince.concat hnext, ?_⟩
      have hadded : (start.run forgotten).addedLines directory day (kept ++ [next]) =
          (start.run forgotten).addedLines directory day kept ++
            ((start.run steps).addedLine? directory day next).toList := by
        rw [addedLines_append, ← run_append, ← hsince.split, addedLines, addedLines,
          List.append_nil]
      rw [run_concat, lines?_step hnext, hadded, hlines]
      cases (start.run steps).addedLine? directory day next with
      | none => rw [Option.toList_none, List.append_nil]
      | some line => rw [Option.toList_some, asFile?_concat]

/-- A step keeps a journal a diary. -/
theorem isDiary_step {session : Session} (h : session.journal.IsDiary) (next : Step) :
    (session.step next).journal.IsDiary := by
  intro directory file lines hlines
  cases next with
  | log dialect d =>
    rw [step, lines?_log] at hlines
    split at hlines
    · next hfile =>
      cases hlines
      refine ⟨⟨session.clock.date, hfile.2⟩, List.forall_mem_append.mpr
        ⟨?_, List.forall_mem_singleton.mpr (isPlain_logLine _ _ _)⟩⟩
      cases hbefore : session.journal.lines? directory file with
      | none => exact List.forall_mem_nil _
      | some before => exact (h directory file before hbefore).2
    · exact h directory file lines hlines
  | cleanup retentionDays =>
    rw [lines?_cleanup] at hlines
    split at hlines
    · cases hlines
    · exact h directory file lines hlines
  | setClock clock => exact h directory file lines hlines
  | changeDirectory workingDirectory => exact h directory file lines hlines

/-- Steps keep a journal a diary. -/
theorem isDiary_run {session : Session} (h : session.journal.IsDiary) (steps : List Step) :
    (session.run steps).journal.IsDiary := by
  induction steps generalizing session with
  | nil => exact h
  | cons next steps ih => exact ih (isDiary_step h next)

/-- Only a cleanup of its directory takes lines away from a file for a day. -/
theorem lines_prefix_step {session : Session} {next : Step} {day : Date} {lines : List String}
    (h : session.journal.lines? directory (fileName day) = some lines) :
    (∃ added, (session.step next).journal.lines? directory (fileName day) =
        some (lines ++ added)) ∨
      directory = session.directory ∧ ∃ retentionDays, next = .cleanup retentionDays := by
  by_cases hnext : session.Deletes directory (fileName day) next
  · obtain ⟨-, ⟨hdirectory, -⟩, retentionDays, hcleanup, -⟩ := (deletes_iff next).mp hnext
    exact .inr ⟨hdirectory, retentionDays, hcleanup⟩
  · refine .inl ?_
    rw [lines?_step hnext, h]
    cases session.addedLine? directory day next with
    | none => exact ⟨[], by rw [List.append_nil]⟩
    | some line => exact ⟨[line], rfl⟩

/-- Whatever happens in a session that begins without a journal: every file belongs to a day, is
read line by line, and holds what was logged for its directory and its day since it was last
deleted. Logging once more adds one plain line to the file of the current directory and day and
changes no other file, and only a cleanup of its directory takes lines away from a file. -/
theorem run_history (clock : Instant) (workingDirectory : String) (steps : List Step) :
    let start : Session := ⟨clock, workingDirectory, .empty⟩
    let session := start.run steps
    (∀ directory file lines, session.journal.lines? directory file = some lines →
      (∃ day, file = fileName day) ∧
        (Journal.fileText lines).splitOn '\n' = lines.map String.toList ++ [[]]) ∧
    (∀ directory day, ∃ forgotten kept,
      SinceDeletion start directory (fileName day) steps forgotten kept ∧
        session.journal.lines? directory (fileName day) =
          asFile? ((start.run forgotten).addedLines directory day kept)) ∧
    (∀ dialect d,
      let line := logLine session.clock dialect d
      Text.IsPlain line.toList ∧ ∀ directory file,
        (session.step (.log dialect d)).journal.lines? directory file =
          if directory = session.directory ∧ file = session.todayFile then
            some ((session.journal.lines? directory file).getD [] ++ [line])
          else session.journal.lines? directory file) ∧
    (∀ next directory file lines, session.journal.lines? directory file = some lines →
      (∃ added, (session.step next).journal.lines? directory file = some (lines ++ added)) ∨
        directory = session.directory ∧ ∃ retentionDays, next = .cleanup retentionDays) := by
  intro start session
  have hdiary : session.journal.IsDiary := isDiary_run Journal.isDiary_empty steps
  refine ⟨fun directory file lines h => ?_, exists_sinceDeletion clock workingDirectory steps,
    fun dialect d => ⟨isPlain_logLine _ _ _, lines?_log session dialect d⟩,
    fun next directory file lines h => ?_⟩
  · obtain ⟨hday, hplain⟩ := hdiary directory file lines h
    exact ⟨hday, Journal.splitOn_fileText fun line hline =>
      (hplain line hline).not_mem (by decide)⟩
  · obtain ⟨⟨day, rfl⟩, -⟩ := hdiary directory file lines h
    exact lines_prefix_step h

end Runs

end Session

end SqlFacts
