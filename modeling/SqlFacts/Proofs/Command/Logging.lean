import SqlFacts.Command.Logging
import SqlFacts.Proofs.Journal.Batch

/-!
# Logging that breaks off

Logging comes to its end if the disk refuses none of its requests and the calendar reaches back as
far as the retention time. Otherwise it breaks off at the first request that is refused, or in the
cleanup. However far it comes, the file of the day gains the lines of the first descriptors in
order, and what else it changes is the deletion of files past the retention time.
-/

namespace SqlFacts.Command

/-- What logging so many descriptors asks of the disk: for each of them the directory is made, and a
line is added behind those that are there. -/
def lineRequests (session : Session) (count : Nat) : List DiskRequest :=
  (List.range' session.todayLines count).flatMap fun lines =>
    [.makeDirectory session.directory, .addLine session.directory session.todayFile lines]

/-- What a cleanup asks of the disk to have deleted. -/
def deleteRequests (session : Session) (retentionDays : Int) : List DiskRequest :=
  (session.staleFiles retentionDays).map (.delete session.directory)

/-- What logging descriptors comes to, by the first request that is refused. If there is one, the
lines are those of the descriptors in front. -/
inductive LogsLines (host : Host) (dialect : String) (session : Session) (list : List Descriptor) :
    Logged → Prop where
  | all (h : (lineRequests session list.length).find? host.refuses = none) :
      LogsLines host dialect session list
        (.ok (session.run (Session.logSteps (some dialect) list)))
  | refused {request : DiskRequest} {front : List Descriptor} {left : Session}
      (h : (lineRequests session list.length).find? host.refuses = some request)
      (hfront : front <+: list)
      (hlines : ∀ directory file, left.journal.lines? directory file =
        (session.run (Session.logSteps (some dialect) front)).journal.lines? directory file) :
      LogsLines host dialect session list (.error (.refused request, left))

/-- A line more is in the file of the day behind the logging of a descriptor. -/
theorem todayLines_log (session : Session) (dialect : Option String) (d : Descriptor) :
    (session.log dialect d).todayLines = session.todayLines + 1 := by
  have hlines := Session.lines?_log session dialect d session.directory session.todayFile
  rw [if_pos ⟨rfl, rfl⟩] at hlines
  rw [Session.todayLines, show (session.log dialect d).directory = session.directory from rfl,
    show (session.log dialect d).todayFile = session.todayFile from rfl, hlines,
    Option.getD_some, List.length_append, List.length_singleton, Session.todayLines]

theorem lineRequests_succ (session : Session) (dialect : Option String) (d : Descriptor)
    (count : Nat) :
    lineRequests session (count + 1) =
      .makeDirectory session.directory ::
        .addLine session.directory session.todayFile session.todayLines ::
          lineRequests (session.log dialect d) count := by
  rw [lineRequests, List.range'_succ, List.flatMap_cons, lineRequests, todayLines_log]
  rfl

/-- A directory that is made holds no line. -/
theorem lines?_makeDirectory (session : Session) (directory file : String) :
    session.makeDirectory.journal.lines? directory file =
      session.journal.lines? directory file :=
  session.journal.lines?_makeDirectory _ directory file

/-- Descriptors are logged up to the first request that is refused. -/
theorem logsLines_foldlM (host : Host) (dialect : String) (session : Session)
    (list : List Descriptor) :
    LogsLines host dialect session list (list.foldlM (host.log dialect) session) := by
  induction list generalizing session with
  | nil => exact .all rfl
  | cons d list ih =>
    have hrequests := lineRequests_succ session (some dialect) d list.length
    rw [List.foldlM_cons]
    by_cases hmake : host.refuses (.makeDirectory session.directory) = true
    · rw [Host.log, Host.ask, if_pos hmake]
      refine .refused ?_ (List.nil_prefix : [] <+: d :: list) fun _ _ => rfl
      rw [List.length_cons, hrequests, List.find?_cons_of_pos hmake]
    by_cases hadd : host.refuses
        (.addLine session.directory session.todayFile session.todayLines) = true
    · rw [Host.log, Host.ask, if_neg hmake, Host.ask, if_pos hadd]
      refine .refused ?_ (List.nil_prefix : [] <+: d :: list) (lines?_makeDirectory session)
      rw [List.length_cons, hrequests, List.find?_cons_of_neg hmake,
        List.find?_cons_of_pos hadd]
    rw [Host.log, Host.ask, if_neg hmake, Host.ask, if_neg hadd]
    have hfind : (lineRequests session (d :: list).length).find? host.refuses =
        (lineRequests (session.log (some dialect) d) list.length).find? host.refuses := by
      rw [List.length_cons, hrequests, List.find?_cons_of_neg hmake, List.find?_cons_of_neg hadd]
    have hrest := ih (session.log (some dialect) d)
    show LogsLines host dialect session (d :: list)
      (list.foldlM (host.log dialect) (session.log (some dialect) d))
    generalize list.foldlM (host.log dialect) (session.log (some dialect) d) = logged at hrest ⊢
    cases hrest with
    | all h => exact .all (hfind.trans h)
    | refused h hfront hlines =>
      exact .refused (hfind.trans h) (List.cons_prefix_cons.mpr ⟨rfl, hfront⟩) hlines

section Logging

variable {host : Host} {dialect : String} {session : Session} {list : List Descriptor}
  {retentionDays : Int} {logged : Logged}

/-- What logging so many descriptors asks of the disk before anything is deleted. -/
def additions (session : Session) (count : Nat) : List DiskRequest :=
  lineRequests session count ++ [.listFiles session.directory]

/-- What logging and the cleanup behind it come to: a request is refused before anything is deleted,
the calendar does not reach back as far as the retention time, a file cannot be deleted, or all is
done. -/
inductive LogsAll (host : Host) (retentionDays : Int) (dialect : String) (session : Session)
    (list : List Descriptor) : Logged → Prop where
  | refused {request : DiskRequest} {front : List Descriptor} {left : Session}
      (h : (additions session list.length).find? host.refuses = some request)
      (hfront : front <+: list)
      (hlines : ∀ directory file, left.journal.lines? directory file =
        (session.run (Session.logSteps (some dialect) front)).journal.lines? directory file) :
      LogsAll host retentionDays dialect session list (.error (.refused request, left))
  | overruns (h : (additions session list.length).find? host.refuses = none)
      (hcleanup : (session.run (Session.logSteps (some dialect) list)).cleanup retentionDays =
        .error .outsideCalendar) :
      LogsAll host retentionDays dialect session list
        (.error (.outsideCalendar, session.run (Session.logSteps (some dialect) list)))
  | undeleted {request : DiskRequest} {deleted : List String} {result : Nat × Session}
      (h : (additions session list.length).find? host.refuses = none)
      (hcleanup : (session.run (Session.logSteps (some dialect) list)).cleanup retentionDays =
        .ok result)
      (hrefused : (deleteRequests (session.run (Session.logSteps (some dialect) list))
        retentionDays).find? host.refuses = some request)
      (hdeleted : deleted <+: (session.run (Session.logSteps (some dialect) list)).staleFiles
        retentionDays) :
      LogsAll host retentionDays dialect session list
        (.error (.refused request,
          (session.run (Session.logSteps (some dialect) list)).deleteFiles deleted))
  | done {count : Nat} {clean : Session}
      (h : (additions session list.length).find? host.refuses = none)
      (hcleanup : (session.run (Session.logSteps (some dialect) list)).cleanup retentionDays =
        .ok (count, clean))
      (hgranted : (deleteRequests (session.run (Session.logSteps (some dialect) list))
        retentionDays).find? host.refuses = none) :
      LogsAll host retentionDays dialect session list (.ok clean)

/-- Logging comes to one of these ends. -/
theorem logsAll (host : Host) (config : Config) (dialect : String) (session : Session)
    (list : List Descriptor) :
    LogsAll host config.logRetentionDays dialect session list
      (host.logAll config dialect session list) := by
  rw [Host.logAll]
  have hlines := logsLines_foldlM host dialect session list
  generalize list.foldlM (host.log dialect) session = logged at hlines ⊢
  cases hlines with
  | refused h hfront hlines =>
    refine .refused ?_ hfront hlines
    rw [additions, List.find?_append, h]
    rfl
  | all h =>
    have hdirectory : (session.run (Session.logSteps (some dialect) list)).directory =
        session.directory := Session.directory_run_logSteps
    show LogsAll _ _ _ _ _ (Host.cleanup host config.logRetentionDays _)
    rw [Host.cleanup, Host.ask, hdirectory]
    by_cases hlist : host.refuses (.listFiles session.directory) = true
    · rw [if_pos hlist]
      refine .refused ?_ List.prefix_rfl fun _ _ => rfl
      rw [additions, List.find?_append, h, Option.none_or, List.find?_cons_of_pos hlist]
    have hadditions : (additions session list.length).find? host.refuses = none := by
      rw [additions, List.find?_append, h, Option.none_or, List.find?_cons_of_neg hlist]
      rfl
    rw [if_neg hlist]
    simp only [bind, Except.bind]
    cases hcleanup : (session.run (Session.logSteps (some dialect) list)).cleanup
        config.logRetentionDays with
    | error e => exact .overruns hadditions hcleanup
    | ok result =>
      have hrequests : (deleteRequests (session.run (Session.logSteps (some dialect) list))
          config.logRetentionDays).find? host.refuses = _ := List.find?_map ..
      rw [hdirectory] at hrequests
      simp only
      split
      · next hgranted =>
        refine .done hadditions hcleanup ?_
        rw [hrequests]
        exact congrArg _ hgranted
      · next file hrefused =>
        refine .undeleted hadditions hcleanup ?_ (List.takeWhile_prefix _)
        rw [hrequests]
        exact congrArg _ hrefused

/-- The directory is there if the disk refuses to delete a file. -/
theorem reaches_of_find?_deleteRequests {request : DiskRequest}
    (h : (deleteRequests session retentionDays).find? host.refuses = some request) :
    session.journal.reaches session.directory = true := by
  obtain ⟨file, hfile, -⟩ := List.mem_map.mp (List.mem_of_find?_eq_some h)
  exact (Journal.stale_of_mem_staleFiles hfile).1

/-- Nothing is deleted if the calendar does not reach back as far as the retention time. -/
theorem deleteRequests_of_daysBefore? (h : session.clock.date.daysBefore? retentionDays = none) :
    deleteRequests session retentionDays = [] := by
  rw [deleteRequests, Session.staleFiles, Journal.staleFiles, h]
  split
  · next heq => cases heq
  · rfl

/-- Logging breaks off at the first request that is refused before anything is deleted. If there is
none, it breaks off because the calendar does not reach back as far as the retention time, or at
the first deletion that is refused. -/
theorem LogsAll.eq_error_iff (hdays : 0 ≤ retentionDays)
    (h : LogsAll host retentionDays dialect session list logged) (e : Escape) :
    (∃ left, logged = .error (e, left)) ↔
      (∃ request, e = .refused request ∧
          (additions session list.length).find? host.refuses = some request) ∨
        (additions session list.length).find? host.refuses = none ∧
          (e = .outsideCalendar ∧
              (list ≠ [] ∨ session.journal.reaches session.directory = true) ∧
              (session.clock.date.ordinal : Int) ≤ retentionDays ∨
            ∃ request, e = .refused request ∧
              (deleteRequests (session.run (Session.logSteps (some dialect) list))
                retentionDays).find? host.refuses = some request) := by
  have hoverruns := Session.cleanup_run_logSteps_eq_error_iff (e := .outsideCalendar) hdays session
    (some dialect) list
  cases h with
  | refused h =>
    simp [h]
    exact eq_comm
  | overruns h hcleanup =>
    have hnone : deleteRequests (session.run (Session.logSteps (some dialect) list))
        retentionDays = [] := by
      apply deleteRequests_of_daysBefore?
      rw [Session.clock_run_logSteps, Calendar.Date.daysBefore?_eq_none_iff hdays]
      exact (hoverruns.mp hcleanup).2
    simp [h, hnone, hoverruns.mp hcleanup]
    exact eq_comm
  | undeleted h hcleanup hrefused =>
    rw [hcleanup] at hoverruns
    simp [h, hrefused, ← hoverruns]
    exact eq_comm
  | done h hcleanup hgranted =>
    rw [hcleanup] at hoverruns
    simp [h, hgranted, ← hoverruns]

/-- Logging that is not refused anything takes its steps one behind another, the cleanup last. -/
theorem LogsAll.session_eq (h : LogsAll host retentionDays dialect session list logged)
    (hgranted : ∀ e left, logged = .error (e, left) → e = .outsideCalendar) :
    logged.session =
      session.run (Session.logSteps (some dialect) list ++ [.cleanup retentionDays]) := by
  rw [Session.run_concat, Session.step]
  cases h with
  | refused h => cases hgranted _ _ rfl
  | overruns h hcleanup =>
    rw [hcleanup]
    rfl
  | undeleted h hcleanup hrefused => cases hgranted _ _ rfl
  | done h hcleanup hgranted =>
    rw [hcleanup]
    rfl

/-- Deletions take away none but stale files. -/
theorem lines?_deleteFiles {deleted : List String}
    (hreaches : session.journal.reaches session.directory = true)
    (hdeleted : deleted <+: session.staleFiles retentionDays) (directory file : String) :
    (session.deleteFiles deleted).journal.lines? directory file =
        session.journal.lines? directory file ∨
      (session.deleteFiles deleted).journal.lines? directory file = none ∧
        directory = session.directory ∧
          (session.clock.date.daysBefore? retentionDays).any (Journal.isStale · file) = true := by
  rw [Session.deleteFiles, Journal.lines?_deleteFiles hreaches]
  split
  · next h => exact .inr ⟨rfl, h.1, (Journal.stale_of_mem_staleFiles (hdeleted.mem h.2)).2⟩
  · exact .inl rfl

/-- However far logging comes, it leaves the files as they are behind the lines of the first
descriptors, but for stale files that it deletes. -/
theorem LogsAll.exists_run_logSteps (h : LogsAll host retentionDays dialect session list logged) :
    ∃ front, front <+: list ∧ ∀ directory file,
      logged.session.journal.lines? directory file =
          (session.run (Session.logSteps (some dialect) front)).journal.lines? directory file ∨
        logged.session.journal.lines? directory file = none ∧ directory = session.directory ∧
          (session.clock.date.daysBefore? retentionDays).any (Journal.isStale · file) = true := by
  cases h with
  | refused h hfront hlines => exact ⟨_, hfront, fun directory file => .inl (hlines directory file)⟩
  | overruns h hcleanup => exact ⟨list, List.prefix_rfl, fun _ _ => .inl rfl⟩
  | undeleted h hcleanup hrefused hdeleted =>
    refine ⟨list, List.prefix_rfl, fun directory file => ?_⟩
    have hlines := lines?_deleteFiles (reaches_of_find?_deleteRequests hrefused) hdeleted
      directory file
    rw [Session.directory_run_logSteps, Session.clock_run_logSteps] at hlines
    exact hlines
  | @done count clean h hcleanup hgranted =>
    refine ⟨list, List.prefix_rfl, fun directory file => ?_⟩
    have hclean : (session.run (Session.logSteps (some dialect) list)).step
        (.cleanup retentionDays) = clean := by rw [Session.step, hcleanup]
    have hlines := Session.lines?_cleanup (session.run (Session.logSteps (some dialect) list))
      retentionDays directory file
    rw [hclean, Session.directory_run_logSteps, Session.clock_run_logSteps] at hlines
    show clean.journal.lines? directory file = _ ∨ clean.journal.lines? directory file = none ∧ _
    rw [hlines]
    split
    · next hstale => exact .inr ⟨rfl, hstale.1.1, hstale.2⟩
    · exact .inl rfl

/-- Nothing more is done to a session than this: the file of the day gains the lines of some
descriptors in order, and any other file stays as it is unless it is stale and deleted. -/
structure AddsLines (retentionDays : Int) (dialect : String) (list : List Descriptor)
    (session left : Session) : Prop where
  today : left.journal.lines? session.directory session.todayFile =
    Journal.extend? (session.journal.lines? session.directory session.todayFile)
      (list.map (logLine session.clock (some dialect)))
  others : ∀ directory file, ¬ (directory = session.directory ∧ file = session.todayFile) →
    left.journal.lines? directory file = session.journal.lines? directory file ∨
      left.journal.lines? directory file = none ∧ directory = session.directory ∧
        (session.clock.date.daysBefore? retentionDays).any (Journal.isStale · file) = true

theorem addsLines_nil (session : Session) : AddsLines retentionDays dialect [] session session where
  today := rfl
  others _ _ _ := .inl rfl

/-- However far logging comes, it adds the lines of the first descriptors. -/
theorem LogsAll.exists_addsLines (hdays : 1 ≤ retentionDays)
    (h : LogsAll host retentionDays dialect session list logged) :
    ∃ front, front <+: list ∧ AddsLines retentionDays dialect front session logged.session := by
  obtain ⟨front, hfront, hlines⟩ := h.exists_run_logSteps
  refine ⟨front, hfront, ?_, ?_⟩
  · have htoday := hlines session.directory session.todayFile
    rw [Session.lines?_run_logSteps, if_pos ⟨rfl, rfl⟩] at htoday
    rcases htoday with hkept | ⟨-, -, hstale⟩
    · exact hkept
    · have hfresh : (session.clock.date.daysBefore? retentionDays).any
          (Journal.isStale · session.todayFile) = false := Journal.not_isStale_today hdays
      rw [hfresh] at hstale
      cases hstale
  · intro directory file hother
    have hfile := hlines directory file
    rw [Session.lines?_run_logSteps, if_neg hother] at hfile
    exact hfile

end Logging

end SqlFacts.Command
