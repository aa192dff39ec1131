import SqlFacts.Proofs.Command.Call

/-!
# Outcomes of calls

Strict use and logging have no influence on what is written out, and logging has none on the exit
code unless it fails. It fails only behind the output: where the disk refuses a request, which no
command can help, and where the calendar does not reach back as far as the retention time, which no
configuration is refused for.
-/

namespace SqlFacts.Command

variable {arguments : List String} {world : World}

namespace CheckedCall

/-- What the logging of a call comes to. -/
def logged (call : CheckedCall arguments world) : Logged :=
  if call.logs then world.host.logAll call.config call.dialect world.session call.descriptors
  else .ok world.session

theorem logged_eq_logAll {call : CheckedCall arguments world} (h : call.logs = true) :
    call.logged =
      world.host.logAll call.config call.dialect world.session call.descriptors := by
  rw [logged, if_pos h]

/-- A call writes out its descriptors whatever else it does, and what escapes from logging goes
before a failure of strict use. -/
theorem outcome_eq (call : CheckedCall arguments world) :
    run ("describe" :: arguments) world =
      if call.writes then
        match call.logged with
        | .error (escape, session) =>
          ⟨call.output, call.description.diagnostics, session, some (.escaped escape)⟩
        | .ok session =>
          ⟨call.output, call.description.diagnostics, session,
            if call.violates then some .strict else none⟩
      else
        ⟨"", call.description.diagnostics, world.session, some (.escaped .unwritableOutput)⟩ := by
  have hfails : (!call.output.isEmpty && !world.host.canWrite call.output) = !call.writes := by
    rw [writes, Bool.not_or]
  rw [call.run_eq, finish]
  show (if (!call.output.isEmpty && !world.host.canWrite call.output) = true then _ else _) = _
  rw [hfails]
  cases call.writes <;> rfl

theorem output_eq (call : CheckedCall arguments world) :
    (run ("describe" :: arguments) world).output = if call.writes then call.output else "" := by
  rw [call.outcome_eq]
  split
  · split <;> rfl
  · rfl

theorem session_eq (call : CheckedCall arguments world) :
    (run ("describe" :: arguments) world).session =
      if call.writes then call.logged.session else world.session := by
  rw [call.outcome_eq]
  split
  · split
    · next h => rw [h, Logged.session]
    · next h => rw [h, Logged.session]
  · rfl

/-- Something escapes from a call that passes its checks if the output cannot be written, or else
if it escapes from logging. -/
theorem failure_eq_escaped_iff_logged (call : CheckedCall arguments world) (e : Escape) :
    (run ("describe" :: arguments) world).failure = some (.escaped e) ↔
      call.writes = false ∧ e = .unwritableOutput ∨
        call.writes = true ∧ ∃ left, call.logged = .error (e, left) := by
  rw [call.outcome_eq]
  cases call.writes with
  | false => simp [eq_comm]
  | true =>
    cases call.logged with
    | ok session => cases call.violates <;> simp
    | error broken => simp [Prod.ext_iff]

/-- What escapes from a call that passes its checks is told by the answers of its host and by the
calendar. -/
theorem failure_eq_escaped_iff (call : CheckedCall arguments world) (e : Escape) :
    (run ("describe" :: arguments) world).failure = some (.escaped e) ↔ call.Escapes e := by
  have hdays := Config.one_le_logRetentionDays call.loads
  have hlogging := (logsAll world.host call.config call.dialect world.session
    call.descriptors).eq_error_iff (by omega) e
  rw [call.failure_eq_escaped_iff_logged]
  constructor
  · rintro (⟨hwrites, rfl⟩ | ⟨hwrites, left, hleft⟩)
    · exact .unwritable hwrites
    · rw [logged] at hleft
      split at hleft
      · next hlogs =>
        rcases hlogging.mp ⟨left, hleft⟩ with
          ⟨request, rfl, hrefused⟩ | ⟨hgranted, ⟨rfl, hthere, hfar⟩ | ⟨request, rfl, hrefused⟩⟩
        · exact .refused hwrites hlogs hrefused
        · exact .overruns ⟨⟨hwrites, hlogs, hgranted⟩, hthere, hfar⟩
        · exact .undeleted ⟨hwrites, hlogs, hgranted⟩ hrefused
      · cases hleft
  · intro hescapes
    cases hescapes with
    | unwritable hwrites => exact .inl ⟨hwrites, rfl⟩
    | refused hwrites hlogs h =>
      rw [logged_eq_logAll hlogs]
      exact .inr ⟨hwrites, hlogging.mpr (.inl ⟨_, rfl, h⟩)⟩
    | overruns h =>
      rw [logged_eq_logAll h.logs]
      exact .inr ⟨h.writes, hlogging.mpr (.inr ⟨h.granted, .inl ⟨rfl, h.there, h.far⟩⟩)⟩
    | undeleted hlines h =>
      rw [logged_eq_logAll hlines.logs]
      exact .inr ⟨hlines.writes, hlogging.mpr (.inr ⟨hlines.granted, .inr ⟨_, rfl, h⟩⟩)⟩

/-- A call from which nothing escapes fails only in strict use. -/
theorem exitCode_of_not_escaped {call : CheckedCall arguments world}
    (h : ∀ e, (run ("describe" :: arguments) world).failure ≠ some (.escaped e)) :
    (run ("describe" :: arguments) world).exitCode = if call.violates then 1 else 0 := by
  rw [call.outcome_eq] at h ⊢
  split at h
  · next hwrites =>
    rw [if_pos hwrites]
    split at h
    · exact absurd rfl (h _)
    · cases call.violates <;> rfl
  · exact absurd rfl (h _)

/-- A call that is not refused anything leaves the session behind its steps. -/
theorem session_of_not_refused {call : CheckedCall arguments world} (hlogs : call.logs = true)
    (h : ∀ e, (run ("describe" :: arguments) world).failure = some (.escaped e) →
      e = .outsideCalendar) :
    (run ("describe" :: arguments) world).session =
      world.session.run (Session.logSteps (some call.dialect) call.descriptors ++
        [.cleanup call.config.logRetentionDays]) := by
  have hescapes (e : Escape) := (h e ∘ (call.failure_eq_escaped_iff_logged e).mpr)
  cases hwrites : call.writes with
  | false => cases hescapes _ (.inl ⟨hwrites, rfl⟩)
  | true =>
    rw [call.session_eq, if_pos hwrites]
    rw [logged_eq_logAll hlogs] at hescapes ⊢
    apply (logsAll _ _ _ _ _).session_eq
    intro e left hleft
    exact hescapes e (.inr ⟨hwrites, left, hleft⟩)

/-- A call that overruns the calendar leaves the lines that it added. -/
theorem session_of_overruns {call : CheckedCall arguments world} (h : call.Overruns) :
    (run ("describe" :: arguments) world).session = call.lined := by
  have hdays := Config.one_le_logRetentionDays call.loads
  have hfails := (call.failure_eq_escaped_iff .outsideCalendar).mpr (.overruns h)
  have hcleanup : call.lined.cleanup call.config.logRetentionDays = .error .outsideCalendar :=
    (Session.cleanup_run_logSteps_eq_error_iff (by omega) _ _ _).mpr ⟨h.there, h.far⟩
  rw [session_of_not_refused h.logs, Session.run_concat, Session.step, ← lined, hcleanup]
  intro e he
  rw [hfails] at he
  cases he
  rfl

/-- Arguments and a world that differ from those of a call in nothing but strict use, logging, the
session, and what of the host has to do with them. -/
structure Varies (call : CheckedCall arguments world) (arguments' : List String)
    (world' : World) : Prop where
  asks : ∃ strict noLog, Asks arguments' { call.request with strict, noLog }
  loads : ∃ logEnabled logRetentionDays,
    Config.load world'.host.room world'.config =
      .ok { call.config with logEnabled, logRetentionDays }
  input : world'.input = world.input
  dialects : world'.host.dialects = world.host.dialects
  canWrite : world'.host.canWrite = world.host.canWrite

/-- A call that varies another one in this way passes its checks with the same output. -/
theorem Varies.output_eq {call : CheckedCall arguments world} {arguments' : List String}
    {world' : World} (h : call.Varies arguments' world') :
    (run ("describe" :: arguments') world').output =
      (run ("describe" :: arguments) world).output := by
  obtain ⟨strict, noLog, hasks⟩ := h.asks
  obtain ⟨logEnabled, logRetentionDays, hloads⟩ := h.loads
  let varied : CheckedCall arguments' world' := {
    request := { call.request with strict, noLog }
    config := { call.config with logEnabled, logRetentionDays }
    sql := call.sql
    description := call.description
    asks := hasks
    loads := hloads
    reads := h.input ▸ call.reads
    describes := h.dialects ▸ call.describes }
  have hwrites : varied.writes = call.writes := by
    rw [writes, writes, h.canWrite]
    rfl
  rw [varied.output_eq, call.output_eq, hwrites]
  rfl

theorem varies_sideOption (call : CheckedCall arguments world) {name : String}
    (h : name ∈ sideOptions) : call.Varies (name :: arguments) world where
  asks := ⟨_, _, call.asks.sideOption h⟩
  loads := ⟨_, _, call.loads⟩
  input := rfl
  dialects := rfl
  canWrite := rfl

/-- However far the logging of a call comes, it adds the lines of the first descriptors. -/
theorem exists_addsLines (call : CheckedCall arguments world) :
    ∃ front, front <+: call.descriptors ∧
      AddsLines call.config.logRetentionDays call.dialect front world.session
        (run ("describe" :: arguments) world).session := by
  rw [call.session_eq, logged]
  split
  · split
    · exact (logsAll _ _ _ _ _).exists_addsLines (Config.one_le_logRetentionDays call.loads)
    · exact ⟨[], List.nil_prefix, addsLines_nil world.session⟩
  · exact ⟨[], List.nil_prefix, addsLines_nil world.session⟩

/-- Logging and strict use go beside the output of a call that passes its checks, in any dialect
and on any host. The output does not depend on them, nor on what is in the journal and what the
disk refuses. Without logging the session stays as it is. Logging adds a line for each descriptor
to the file of the day, and of the other files it deletes those of its directory that are past the
retention time; where the disk refuses something it comes less far, but does nothing else. Unless
something escapes, the exit code tells whether strict use was violated. -/
theorem side_effects (call : CheckedCall arguments world) :
    let outcome := run ("describe" :: arguments) world
    let session := world.session
    (∀ arguments' world', call.Varies arguments' world' →
      (run ("describe" :: arguments') world').output = outcome.output) ∧
    (∀ name ∈ sideOptions, call.Varies (name :: arguments) world) ∧
    (call.logs = false → outcome.session = session) ∧
    (call.logs = true →
      (∀ e, outcome.failure = some (.escaped e) → e = .outsideCalendar) → ∀ directory file,
      outcome.session.journal.lines? directory file =
        if directory = session.directory ∧ file = session.todayFile then
          Journal.extend? (session.journal.lines? directory file)
            (call.descriptors.map (logLine session.clock (some call.dialect)))
        else if (directory = session.directory ∧
              (call.descriptors ≠ [] ∨ session.journal.reaches session.directory = true)) ∧
            (session.clock.date.daysBefore? call.config.logRetentionDays).any
              (Journal.isStale · file) = true then
          none
        else session.journal.lines? directory file) ∧
    (∃ front, front <+: call.descriptors ∧
      AddsLines call.config.logRetentionDays call.dialect front session outcome.session) ∧
    ((∀ e, outcome.failure ≠ some (.escaped e)) →
      outcome.exitCode = if call.violates then 1 else 0) := by
  intro outcome session
  refine ⟨fun _ _ h => h.output_eq, fun _ h => call.varies_sideOption h, ?_, ?_,
    call.exists_addsLines, exitCode_of_not_escaped⟩
  · intro hlogs
    have hsession : outcome.session = _ := call.session_eq
    rw [hsession, logged, hlogs]
    exact ite_self _
  · intro hlogs hgranted directory file
    have hsession : outcome.session = _ := session_of_not_refused hlogs hgranted
    rw [hsession]
    exact Session.lines?_run_logSteps_cleanup (Config.one_le_logRetentionDays call.loads) session
      (some call.dialect) call.descriptors directory file

end CheckedCall

/-- A world at noon of the fifteenth of June 2024, with the given configuration and no journal, on a
host that refuses nothing. -/
def sampleWorld (config : String) : World :=
  ⟨.obliging, .file config.toUTF8, .piped .empty,
    ⟨⟨⟨739052, by decide, by decide⟩, 43200000000⟩, "/work/project", .empty⟩⟩

/-- The call that describes a query of a number. -/
def sampleCall {text : String} (config : Config)
    (h : Config.ofText Toml.standardRoom text = .ok config)
    (hdialect : config.dialect = "clickhouse") : CheckedCall ["SELECT 1"] (sampleWorld text) where
  request := ⟨some "SELECT 1", false, none, .text, none, false, false, false⟩
  config
  sql := "SELECT 1"
  description :=
    ⟨[(describeStatement "SELECT 1").result], (describeStatement "SELECT 1").diagnostics⟩
  asks := ⟨⟨[], ["SELECT 1"]⟩, by decide +kernel, rfl, by decide +kernel⟩
  loads := (Config.load_toUTF8 _ text).trans h
  reads := rfl
  describes := by
    have hknown : Dialects.atHand "clickhouse" = .ok Token.scan := by
      have hname : Text.trim (Dialects.calledName "clickhouse") = "clickhouse" := by
        decide +kernel
      rw [Dialects.atHand, hname]
      rfl
    have heffective (request : DescribeRequest) (h : request.dialect = none) :
        request.effectiveDialect config = "clickhouse" := by
      rw [DescribeRequest.effectiveDialect, h, hdialect]
      rfl
    rw [heffective _ rfl, DescribeRequest.descriptors, if_neg (by decide), describeStatementIn]
    show Except.map _ (Except.map _ (Dialects.atHand "clickhouse")) = _
    rw [hknown]
    rfl

namespace CheckedCall

/-- Nothing is refused to the call that describes a query of a number. What escapes from it is the
failure of the calendar. -/
theorem escapes_sampleCall_iff {text : String} {config : Config}
    (h : Config.ofText Toml.standardRoom text = .ok config)
    (hdialect : config.dialect = "clickhouse") (e : Escape) :
    (sampleCall config h hdialect).Escapes e ↔
      e = .outsideCalendar ∧ config.logEnabled = true ∧ 739052 ≤ config.logRetentionDays := by
  have hwrites : (sampleCall config h hdialect).writes = true := Bool.or_true _
  have hgranted (requests : List DiskRequest) :
      requests.find? (sampleWorld text).host.refuses = none :=
    List.find?_eq_none.mpr fun _ _ => Bool.false_ne_true
  have hlogs : (sampleCall config h hdialect).logs = config.logEnabled := Bool.and_true _
  constructor
  · intro hescapes
    cases hescapes with
    | unwritable h => cases hwrites.symm.trans h
    | refused _ _ h => cases (hgranted _).symm.trans h
    | undeleted _ h => cases (hgranted _).symm.trans h
    | overruns h => exact ⟨rfl, hlogs ▸ h.logs, h.far⟩
  · rintro ⟨rfl, henabled, hfar⟩
    exact .overruns
      ⟨⟨hwrites, hlogs.trans henabled, hgranted _⟩, .inl (List.cons_ne_nil _ _), hfar⟩

/-- A query that is described with logging on has its line in the file of the day. One more option
for strict use leaves the output as it is. -/
theorem side_effects_loggedQuery :
    let world := sampleWorld "[log]\nenabled = true\n"
    let outcome := run ["describe", "SELECT 1"] world
    (run ["describe", "--strict", "SELECT 1"] world).output = outcome.output ∧
      outcome.session.journal.lines? "work-project" "2024-06-15.jsonl" =
        some [logLine world.session.clock (some "clickhouse")
          (describeStatement "SELECT 1").result] ∧
      outcome.exitCode = 0 := by
  intro world outcome
  let call : CheckedCall ["SELECT 1"] world :=
    sampleCall { logEnabled := true } (by decide +kernel) rfl
  obtain ⟨houtput, hvaries, -, hlines, -, hcode⟩ := call.side_effects
  have htoday : "work-project" = world.session.directory ∧
      "2024-06-15.jsonl" = world.session.todayFile := by
    constructor
    · decide +kernel
    · decide +kernel
  have hdialect : call.dialect = "clickhouse" := rfl
  have hdescriptors : call.descriptors = [(describeStatement "SELECT 1").result] := rfl
  have hnothing : ∀ e, outcome.failure ≠ some (.escaped e) := by
    intro e he
    obtain ⟨-, -, hfar⟩ :=
      (escapes_sampleCall_iff _ _ e).mp ((call.failure_eq_escaped_iff e).mp he)
    exact absurd hfar (by decide)
  refine ⟨houtput _ _ (hvaries "--strict" (by decide)), ?_, hcode hnothing⟩
  have hnone : world.session.journal.lines? "work-project" "2024-06-15.jsonl" = none :=
    Journal.lines?_empty _ _
  rw [hlines rfl fun e he => absurd he (hnothing e), if_pos htoday, hnone, hdialect, hdescriptors,
    List.map_singleton]
  rfl

end CheckedCall

/-- With an accepted configuration, what escapes from a call is told: a fault of the input or of the
registry of dialects before there is a description, output that cannot be written, a request that
the disk refuses, or else the calendar, if it is overrun. This last one happens on any host, behind
the output and with all lines in place. All other calls end with an exit code of their own: zero,
two for mistakes in use, and one for statements that strict use does not pass. -/
theorem escapes_iff (arguments : List String) {world : World} {config : Config}
    (h : Config.load world.host.room world.config = .ok config) :
    let outcome := run ("describe" :: arguments) world
    (∀ e, outcome.failure = some (.escaped e) ↔
      EscapesEarly arguments world config e ∨
        ∃ call : CheckedCall arguments world, call.Escapes e) ∧
    (∀ call : CheckedCall arguments world, call.Overruns →
      outcome.failure = some (.escaped .outsideCalendar) ∧ outcome.exitCode = 1 ∧
        outcome.output = call.output ∧ outcome.session = call.lined) ∧
    ((∀ e, outcome.failure ≠ some (.escaped e)) →
      outcome.exitCode = 0 ∨ outcome.exitCode = 2 ∨
        outcome.exitCode = 1 ∧ ∃ call : CheckedCall arguments world, call.violates = true) := by
  intro outcome
  refine ⟨?_, ?_, ?_⟩
  · intro e
    constructor
    · intro hescaped
      rcases checkedCall_or_refrains arguments h with ⟨⟨call⟩⟩ | hrefrains | ⟨early, hearly⟩
      · exact .inr ⟨call, (call.failure_eq_escaped_iff e).mp hescaped⟩
      · exact absurd hescaped (hrefrains.failure_ne_escaped e)
      · have hsame := hescaped.symm.trans (hearly.failure_eq h)
        cases hsame
        exact .inl hearly
    · rintro (hearly | ⟨call, hescapes⟩)
      · exact hearly.failure_eq h
      · exact (call.failure_eq_escaped_iff e).mpr hescapes
  · intro call hoverruns
    have hescaped : outcome.failure = _ :=
      (call.failure_eq_escaped_iff .outsideCalendar).mpr (.overruns hoverruns)
    have houtput : outcome.output = _ := call.output_eq
    rw [if_pos hoverruns.writes] at houtput
    refine ⟨hescaped, ?_, houtput, CheckedCall.session_of_overruns hoverruns⟩
    rw [Outcome.exitCode, hescaped]
  · intro hescapes
    rcases checkedCall_or_refrains arguments h with ⟨⟨call⟩⟩ | hrefrains | ⟨early, hearly⟩
    · have hcode : outcome.exitCode = if call.violates then 1 else 0 :=
        CheckedCall.exitCode_of_not_escaped hescapes
      cases hviolates : call.violates with
      | true => exact .inr (.inr ⟨by rw [hcode, hviolates]; rfl, call, hviolates⟩)
      | false => exact .inl (by rw [hcode, hviolates]; rfl)
    · rcases hrefrains.exitCode with hcode | hcode
      · exact .inl hcode
      · exact .inr (.inl hcode)
    · exact absurd (hearly.failure_eq h) (hescapes early)

/-- A retention time of thousand million days is accepted, and a query that is described with it
ends in a failure without a report on a host that refuses nothing. -/
theorem escapes_vastRetention :
    let world := sampleWorld "[log]\nenabled = true\nretention_days = 1000000000\n"
    let outcome := run ["describe", "SELECT 1"] world
    (∃ config, Config.load world.host.room world.config = .ok config) ∧
      outcome.failure = some (.escaped .outsideCalendar) ∧ outcome.exitCode = 1 := by
  intro world outcome
  let call : CheckedCall ["SELECT 1"] world :=
    sampleCall { logEnabled := true, logRetentionDays := 1000000000 } (by decide +kernel) rfl
  have hescapes : call.Escapes .outsideCalendar :=
    (CheckedCall.escapes_sampleCall_iff _ _ _).mpr ⟨rfl, rfl, by decide⟩
  obtain ⟨hiff, -, -⟩ := escapes_iff ["SELECT 1"] call.loads
  have hescaped : outcome.failure = some (.escaped .outsideCalendar) :=
    (hiff .outsideCalendar).mpr (.inr ⟨call, hescapes⟩)
  refine ⟨⟨_, call.loads⟩, hescaped, ?_⟩
  rw [Outcome.exitCode, hescaped]

end SqlFacts.Command
