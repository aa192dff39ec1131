import SqlFacts.Proofs.Journal.DayFiles
import SqlFacts.Proofs.Journal.History

/-!
# Logging in a row

Descriptors that are logged one behind another stand in this order in the file of the day. A
cleanup behind them that keeps a day or more deletes files of other days only. It fails if its
directory is there, which it is behind any descriptor, and the calendar does not reach back as far
as the retention time.
-/

namespace SqlFacts

open Calendar (Date)

namespace Journal

/-- A file with more lines. Without any lines to add no file is made. -/
def extend? (file : Option (List String)) : List String → Option (List String)
  | [] => file
  | lines => some (file.getD [] ++ lines)

theorem extend?_cons (file : Option (List String)) (line : String) (lines : List String) :
    extend? (some (file.getD [] ++ [line])) lines = extend? file (line :: lines) := by
  cases lines with
  | nil => rfl
  | cons next lines => simp [extend?]

end Journal

namespace Session

variable {session : Session} {directory file : String} {dialect : Option String}
  {list : List Descriptor} {retentionDays : Int}

/-- The steps that log descriptors one behind another. -/
def logSteps (dialect : Option String) (list : List Descriptor) : List Step :=
  list.map (.log dialect)

/-- Logging changes nothing but the journal. -/
theorem run_logSteps (session : Session) (dialect : Option String) (list : List Descriptor) :
    session.run (logSteps dialect list) =
      { session with journal := (session.run (logSteps dialect list)).journal } := by
  induction list generalizing session with
  | nil => rfl
  | cons d list ih => exact ih (session.log dialect d)

/-- Each descriptor gets a line in the file of the day, in order, and no other file changes. -/
theorem lines?_run_logSteps (session : Session) (dialect : Option String) (list : List Descriptor)
    (directory file : String) :
    (session.run (logSteps dialect list)).journal.lines? directory file =
      if directory = session.directory ∧ file = session.todayFile then
        Journal.extend? (session.journal.lines? directory file)
          (list.map (logLine session.clock dialect))
      else session.journal.lines? directory file := by
  induction list generalizing session with
  | nil => exact (ite_self _).symm
  | cons d list ih =>
    have hrun : session.run (logSteps dialect (d :: list)) =
        (session.log dialect d).run (logSteps dialect list) := rfl
    have hdirectory : (session.log dialect d).directory = session.directory := rfl
    have hfile : (session.log dialect d).todayFile = session.todayFile := rfl
    have hclock : (session.log dialect d).clock = session.clock := rfl
    rw [hrun, ih, hdirectory, hfile, hclock, lines?_log]
    split
    · rw [Journal.extend?_cons]
      rfl
    · rfl

theorem directory_run_logSteps :
    (session.run (logSteps dialect list)).directory = session.directory := by
  rw [run_logSteps]
  rfl

theorem clock_run_logSteps : (session.run (logSteps dialect list)).clock = session.clock := by
  rw [run_logSteps]

/-- The directory is there behind any descriptor that is logged. -/
theorem reaches_run_logSteps (session : Session) (dialect : Option String)
    (list : List Descriptor) :
    (session.run (logSteps dialect list)).journal.reaches session.directory = true ↔
      list ≠ [] ∨ session.journal.reaches session.directory = true := by
  rcases List.eq_nil_or_concat list with rfl | ⟨front, last, rfl⟩
  · simp [logSteps, run]
  · have hrun : session.run (logSteps dialect (front.concat last)) =
        (session.run (logSteps dialect front)).log dialect last := by
      rw [logSteps, List.concat_eq_append, List.map_append, List.map_singleton, run_concat]
      rfl
    have hreaches : ((session.run (logSteps dialect front)).log dialect last).journal.reaches
        session.directory = true := by
      rw [log, directory_run_logSteps]
      exact Journal.reaches_append _ _ _ _
    rw [hrun]
    simp [hreaches]

/-- A cleanup behind the lines fails if the directory is there by then and the ordinal of the day
is not above the retention time. -/
theorem cleanup_run_logSteps_eq_error_iff (h : 0 ≤ retentionDays) (session : Session)
    (dialect : Option String) (list : List Descriptor) {e : RetentionError} :
    (session.run (logSteps dialect list)).cleanup retentionDays = .error e ↔
      (list ≠ [] ∨ session.journal.reaches session.directory = true) ∧
        (session.clock.date.ordinal : Int) ≤ retentionDays := by
  rw [← reaches_run_logSteps session dialect list, ← Date.daysBefore?_eq_none_iff h,
    ← Journal.cleanup_eq_error_iff (e := e), cleanup, directory_run_logSteps, clock_run_logSteps]
  cases Journal.cleanup _ session.directory session.clock.date retentionDays with
  | error e' => simp [Except.map]
  | ok result => simp [Except.map]

/-- A cleanup behind the lines that keeps a day or more leaves the file of the day as it is, and of
the other files it deletes those of its directory that are past the retention time. -/
theorem lines?_run_logSteps_cleanup (h : 1 ≤ retentionDays) (session : Session)
    (dialect : Option String) (list : List Descriptor) (directory file : String) :
    (session.run (logSteps dialect list ++ [.cleanup retentionDays])).journal.lines? directory
        file =
      if directory = session.directory ∧ file = session.todayFile then
        Journal.extend? (session.journal.lines? directory file)
          (list.map (logLine session.clock dialect))
      else if (directory = session.directory ∧
            (list ≠ [] ∨ session.journal.reaches session.directory = true)) ∧
          (session.clock.date.daysBefore? retentionDays).any (Journal.isStale · file) = true then
        none
      else session.journal.lines? directory file := by
  rw [run_concat, lines?_cleanup, directory_run_logSteps, clock_run_logSteps, lines?_run_logSteps]
  simp only [reaches_run_logSteps]
  by_cases htoday : directory = session.directory ∧ file = session.todayFile
  · have hfresh : (session.clock.date.daysBefore? retentionDays).any (Journal.isStale · file) =
        false := by
      rw [htoday.2]
      exact Journal.not_isStale_today h
    rw [if_pos htoday, if_pos htoday, if_neg (by simp [hfresh])]
  · rw [if_neg htoday, if_neg htoday]

end Session

end SqlFacts
