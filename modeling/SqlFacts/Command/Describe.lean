import SqlFacts.Command.Arguments
import SqlFacts.Command.Logging
import SqlFacts.Statement.Report
import SqlFacts.Text.Basic

/-!
# The command that describes statements

The statement comes from an argument or from the input. Its descriptor is written out, logged if
the user wants statements logged, and in strict use a statement without a kind makes the command
fail after all else is done. What escapes ends the command at once.
-/

namespace SqlFacts.Command

/-- What the arguments of the command ask for. -/
structure DescribeRequest where
  sql : Option String
  fromInput : Bool
  dialect : Option String
  format : Descriptor.OutputFormat
  database : Option String
  split : Bool
  strict : Bool
  noLog : Bool
  deriving DecidableEq, Repr

/-- The options of the command. -/
def describeOptions : List OptionSpec :=
  [⟨"--from-stdin", false⟩, ⟨"--dialect", true⟩, ⟨"--format", true⟩, ⟨"--database", true⟩,
    ⟨"--split", false⟩, ⟨"--strict", false⟩, ⟨"--no-log", false⟩, ⟨"--help", false⟩]

/-- The names of the output formats. -/
def formatNames : List String := ["json", "text"]

namespace DescribeRequest

/-- What sorted arguments ask for. -/
def ofArguments (args : Arguments) : Except UsageError DescribeRequest := do
  let format ← choice args "--format" formatNames "text"
  let extra := args.positional.drop 1
  if !extra.isEmpty then .error (.extraArguments extra)
  else
    return {
      sql := args.positional.head?
      fromInput := args.has "--from-stdin"
      dialect := args.value? "--dialect"
      format := .ofName format
      database := args.value? "--database"
      split := args.has "--split"
      strict := args.has "--strict"
      noLog := args.has "--no-log" }

/-- The text to describe: that of the argument or that of the input, and exactly one of them. -/
def source (request : DescribeRequest) (input : Input) : Except Failure String :=
  let sql := request.sql.getD ""
  if !sql.isEmpty && request.fromInput then .error (.usage .twoSources)
  else if request.fromInput then
    match input with
    | .terminal => .error (.usage .terminalInput)
    | .unreadable => .error (.escaped .unreadableInput)
    | .piped bytes =>
      match String.fromUTF8? bytes with
      | none => .error (.escaped .notText)
      | some content =>
        let text := Text.trim (String.ofList (Text.unifyLineEnds content.toList))
        if text.isEmpty then .error (.usage .emptyInput) else .ok text
  else if sql.isEmpty then .error (.usage .missingSql)
  else .ok sql

/-- The given text, or the other one if it is missing or empty. -/
def orElse (text : Option String) (other : Option String) : Option String :=
  match text with
  | some s => if s.isEmpty then other else some s
  | none => other

/-- The dialect to read in: that of the request, else that of the configuration. -/
def effectiveDialect (request : DescribeRequest) (config : Config) : String :=
  (orElse request.dialect (some config.dialect)).getD ""

/-- The database of statements that name none: that of the request, else that of the
configuration. -/
def effectiveDatabase (request : DescribeRequest) (config : Config) : Option String :=
  orElse request.database config.defaultDatabase

/-- The descriptors of the text, one for each statement if it is to be split. -/
def descriptors (request : DescribeRequest) (dialects : Dialects) (dialect sql : String) :
    Except DialectFailure (Description (List Descriptor)) :=
  if request.split then describeScriptIn dialects dialect sql
  else
    (describeStatementIn dialects dialect sql).map fun description =>
      ⟨[description.result], description.diagnostics⟩

end DescribeRequest

/-- Writes out and logs descriptors, in this order. -/
def finish (request : DescribeRequest) (config : Config) (dialect : String) (world : World)
    (description : Description (List Descriptor)) : Outcome :=
  let list := description.result
  let output := line
    (Descriptor.writeAll list request.format (request.effectiveDatabase config) request.split)
  if !output.isEmpty && !world.host.canWrite output then
    ⟨"", description.diagnostics, world.session, some (.escaped .unwritableOutput)⟩
  else
    let logged :=
      if config.logEnabled && !request.noLog then
        world.host.logAll config dialect world.session list
      else .ok world.session
    match logged with
    | .error (escape, session) =>
      ⟨output, description.diagnostics, session, some (.escaped escape)⟩
    | .ok session =>
      let unrecognized := request.strict && !list.all (·.isRecognized)
      ⟨output, description.diagnostics, session, if unrecognized then some .strict else none⟩

/-- Carries out a request with the given configuration. -/
def describeWith (request : DescribeRequest) (config : Config) (world : World) : Outcome :=
  match request.source world.input with
  | .error failure => .stopped world.session failure
  | .ok sql =>
    let dialect := request.effectiveDialect config
    match request.descriptors world.host.dialects dialect sql with
    | .error (.refused report) => .stopped world.session (.usage (.unknownDialect report))
    | .error .broken => .stopped world.session (.escaped .brokenDialect)
    | .ok description => finish request config dialect world description

/-- Carries out a request: the configuration is loaded first. -/
def describe (request : DescribeRequest) (world : World) : Outcome :=
  match Config.load world.host.room world.config with
  | .error (.refused e) => .stopped world.session (.config e)
  | .error .notText => .stopped world.session (.escaped .notText)
  | .error (.integerTooLong digits) => .stopped world.session (.escaped (.integerTooLong digits))
  | .error .tooDeep => .stopped world.session (.escaped .tooDeep)
  | .ok config => describeWith request config world

/-- The command with its arguments. -/
def runDescribe (arguments : List String) (world : World) : Outcome :=
  match readArguments describeOptions true none arguments with
  | .error e => .stopped world.session (.usage e)
  | .ok args =>
    if args.has "--help" then
      .wrote world.session "Usage: chstatement describe [OPTIONS] [SQL]\n"
    else
      match DescribeRequest.ofArguments args with
      | .error e => .stopped world.session (.usage e)
      | .ok request => describe request world

end SqlFacts.Command
