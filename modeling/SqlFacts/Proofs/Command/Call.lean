import SqlFacts.Proofs.Command.Arguments
import SqlFacts.Proofs.Command.Logging
import SqlFacts.Proofs.Config.Loading

/-!
# Calls that pass their checks

With a configuration that is loaded, a call of the command comes to no description, or it passes
the checks of its arguments, its input and its dialect. Then its descriptors are written out and
perhaps logged. What escapes before there is a description is a fault of the input or of the
registry of dialects.
-/

namespace SqlFacts

namespace Command

variable {arguments : List String} {world : World}

/-- A call of the command that passes its checks: what its arguments ask for, the configuration,
the text, and the description of the text. -/
structure CheckedCall (arguments : List String) (world : World) where
  request : DescribeRequest
  config : Config
  sql : String
  description : Description (List Descriptor)
  asks : Asks arguments request
  loads : Config.load world.host.room world.config = .ok config
  reads : request.source world.input = .ok sql
  describes : request.descriptors world.host.dialects (request.effectiveDialect config) sql =
    .ok description

/-! ### Calls without a description -/

/-- A request has its text read from the input. -/
def DescribeRequest.ReadsInput (request : DescribeRequest) : Prop :=
  request.fromInput = true ∧ request.sql.getD "" = ""

/-- What escapes from a call before there is a description: the input is read and cannot be, or is
no text, or the registry of dialects breaks. -/
inductive EscapesEarly (arguments : List String) (world : World) (config : Config) :
    Escape → Prop where
  | unreadable {request : DescribeRequest} (hasks : Asks arguments request)
      (hreads : request.ReadsInput) (hinput : world.input = .unreadable) :
      EscapesEarly arguments world config .unreadableInput
  | notText {request : DescribeRequest} {bytes : ByteArray} (hasks : Asks arguments request)
      (hreads : request.ReadsInput) (hinput : world.input = .piped bytes)
      (hbytes : ¬ bytes.IsValidUTF8) : EscapesEarly arguments world config .notText
  | brokenDialect {request : DescribeRequest} {sql : String} (hasks : Asks arguments request)
      (hsource : request.source world.input = .ok sql)
      (hdialect : world.host.dialects (request.effectiveDialect config) = .error .broken) :
      EscapesEarly arguments world config .brokenDialect

namespace DescribeRequest

variable {request : DescribeRequest}

/-- The text to describe is missing by a mistake in use, or by a fault of the input. -/
theorem source_eq_error_cases {input : Input} {failure : Failure}
    (h : request.source input = .error failure) :
    (∃ error, failure = .usage error) ∨
      request.ReadsInput ∧
        (input = .unreadable ∧ failure = .escaped .unreadableInput ∨
          ∃ bytes, input = .piped bytes ∧ ¬ bytes.IsValidUTF8 ∧ failure = .escaped .notText) := by
  rw [source.eq_def] at h
  dsimp only at h
  split at h
  · cases h
    exact .inl ⟨_, rfl⟩
  next hsources =>
  split at h
  · next hinput =>
    have hreads : request.ReadsInput := ⟨hinput, by simpa [hinput] using hsources⟩
    split at h
    · cases h
      exact .inl ⟨_, rfl⟩
    · cases h
      exact .inr ⟨hreads, .inl ⟨rfl, rfl⟩⟩
    · next bytes =>
      split at h
      · next hbytes =>
        cases h
        refine .inr ⟨hreads, .inr ⟨bytes, rfl, ?_, rfl⟩⟩
        intro hvalid
        rw [String.fromUTF8?, dif_pos hvalid] at hbytes
        cases hbytes
      · split at h
        · cases h
          exact .inl ⟨_, rfl⟩
        · cases h
  · split at h
    · cases h
      exact .inl ⟨_, rfl⟩
    · cases h

theorem source_unreadable (h : request.ReadsInput) :
    request.source .unreadable = .error (.escaped .unreadableInput) := by
  rw [source, h.1, h.2]
  rfl

theorem source_notText (h : request.ReadsInput) {bytes : ByteArray}
    (hbytes : ¬ bytes.IsValidUTF8) :
    request.source (.piped bytes) = .error (.escaped .notText) := by
  have hread : String.fromUTF8? bytes = none := dif_neg hbytes
  rw [source, h.1, h.2]
  simp only [hread]
  rfl

/-- There are descriptors if there is a dialect, and the failure of its call is theirs. -/
theorem descriptors_eq_error_iff {dialects : Dialects} {dialect sql : String}
    {failure : DialectFailure} :
    request.descriptors dialects dialect sql = .error failure ↔
      dialects dialect = .error failure := by
  rw [descriptors, describeScriptIn, describeStatementIn]
  cases dialects dialect <;> split <;> simp [Except.map]

end DescribeRequest

/-- What escapes early is the failure of the call. -/
theorem EscapesEarly.failure_eq {config : Config} {e : Escape}
    (h : Config.load world.host.room world.config = .ok config)
    (hescapes : EscapesEarly arguments world config e) :
    (run ("describe" :: arguments) world).failure = some (.escaped e) := by
  cases hescapes with
  | unreadable hasks hreads hinput =>
    rw [hasks.run_eq, describe, h]
    simp only [describeWith, hinput, DescribeRequest.source_unreadable hreads]
    rfl
  | notText hasks hreads hinput hbytes =>
    rw [hasks.run_eq, describe, h]
    simp only [describeWith, hinput, DescribeRequest.source_notText hreads hbytes]
    rfl
  | brokenDialect hasks hsource hdialect =>
    rw [hasks.run_eq, describe, h]
    simp only [describeWith, hsource, DescribeRequest.descriptors_eq_error_iff.mpr hdialect]
    rfl

/-- With a configuration that is loaded, a call passes its checks, comes to no description, or
something escapes from it early. -/
theorem checkedCall_or_refrains (arguments : List String) {world : World} {config : Config}
    (h : Config.load world.host.room world.config = .ok config) :
    Nonempty (CheckedCall arguments world) ∨
      Refrains world (run ("describe" :: arguments) world) ∨
        ∃ e, EscapesEarly arguments world config e := by
  rcases asks_or_refrains arguments world with ⟨request, hasks⟩ | hrefrains
  · rw [hasks.run_eq, describe, h]
    simp only [describeWith]
    cases hsource : request.source world.input with
    | error failure =>
      rcases DescribeRequest.source_eq_error_cases hsource with
        ⟨error, rfl⟩ | ⟨hreads, ⟨hinput, -⟩ | ⟨bytes, hinput, hbytes, -⟩⟩
      · exact .inr (.inl (.usage error))
      · exact .inr (.inr ⟨_, .unreadable hasks hreads hinput⟩)
      · exact .inr (.inr ⟨_, .notText hasks hreads hinput hbytes⟩)
    | ok sql =>
      simp only
      cases hdescription : request.descriptors world.host.dialects
          (request.effectiveDialect config) sql with
      | error failure =>
        cases failure with
        | refused report => exact .inr (.inl (.usage _))
        | broken =>
          have hdialect := DescribeRequest.descriptors_eq_error_iff.mp hdescription
          exact .inr (.inr ⟨_, .brokenDialect hasks hsource hdialect⟩)
      | ok description => exact .inl ⟨request, config, sql, description, hasks, h, hsource,
          hdescription⟩
  · exact .inr (.inl hrefrains)

namespace CheckedCall

/-! ### Calls with a description -/

/-- The dialect that is read in, and that is logged. -/
def dialect (call : CheckedCall arguments world) : String :=
  call.request.effectiveDialect call.config

/-- The parsed descriptors. -/
def descriptors (call : CheckedCall arguments world) : List Descriptor := call.description.result

/-- What is to be written out. -/
def output (call : CheckedCall arguments world) : String :=
  line (Descriptor.writeAll call.descriptors call.request.format
    (call.request.effectiveDatabase call.config) call.request.split)

/-- Tests whether the output can be written. -/
def writes (call : CheckedCall arguments world) : Bool :=
  call.output.isEmpty || world.host.canWrite call.output

/-- Tests whether the descriptors are to be logged. -/
def logs (call : CheckedCall arguments world) : Bool :=
  call.config.logEnabled && !call.request.noLog

/-- Tests whether some descriptor does not pass strict use. -/
def violates (call : CheckedCall arguments world) : Bool :=
  call.request.strict && !call.descriptors.all (·.isRecognized)

/-- The session behind the lines of all descriptors. -/
def lined (call : CheckedCall arguments world) : Session :=
  world.session.run (Session.logSteps (some call.dialect) call.descriptors)

/-- What the call asks of the disk before anything is deleted. -/
def additions (call : CheckedCall arguments world) : List DiskRequest :=
  Command.additions world.session call.descriptors.length

/-- What the call asks of the disk to have deleted. -/
def deletions (call : CheckedCall arguments world) : List DiskRequest :=
  deleteRequests call.lined call.config.logRetentionDays

/-- All descriptors are logged, and the cleanup behind them is begun. -/
structure LogsAllLines (call : CheckedCall arguments world) : Prop where
  writes : call.writes = true
  logs : call.logs = true
  granted : call.additions.find? world.host.refuses = none

/-- The calendar does not reach back as far as the retention time, and a cleanup finds out since
the directory is there by then. -/
structure Overruns (call : CheckedCall arguments world) : Prop extends LogsAllLines call where
  there : call.descriptors ≠ [] ∨ world.session.journal.reaches world.session.directory = true
  far : (world.session.clock.date.ordinal : Int) ≤ call.config.logRetentionDays

/-- What escapes from a call that passes its checks: the output cannot be written, a line cannot be
added or the files not be listed, the calendar is overrun, or a file cannot be deleted. -/
inductive Escapes (call : CheckedCall arguments world) : Escape → Prop where
  | unwritable (h : call.writes = false) : Escapes call .unwritableOutput
  | refused {request : DiskRequest} (hwrites : call.writes = true) (hlogs : call.logs = true)
      (h : call.additions.find? world.host.refuses = some request) :
      Escapes call (.refused request)
  | overruns (h : call.Overruns) : Escapes call .outsideCalendar
  | undeleted {request : DiskRequest} (hlines : call.LogsAllLines)
      (h : call.deletions.find? world.host.refuses = some request) :
      Escapes call (.refused request)

/-- A call that passes its checks writes out and logs. -/
theorem run_eq (call : CheckedCall arguments world) :
    run ("describe" :: arguments) world =
      finish call.request call.config call.dialect world call.description := by
  rw [call.asks.run_eq]
  simp only [describe, call.loads, describeWith, call.reads, call.describes]
  rfl

end CheckedCall

end Command

end SqlFacts
