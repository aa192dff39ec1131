import SqlFacts.Command.Describe

/-!
# The command that lists the kinds of statements

Every kind with its place on the axes, as JSON or as a table.
-/

namespace SqlFacts.Command

/-- The options of the command. -/
def typesOptions : List OptionSpec := [⟨"--format", true⟩, ⟨"--help", false⟩]

/-- A text followed by blanks up to the given width. -/
def leftAligned (width : Nat) (s : String) : String :=
  s ++ String.ofList (List.replicate (width - s.length) ' ')

/-- The row of a kind in the table. -/
def kindRow (kind : Kind) : String :=
  "  " ++ leftAligned 14 kind.value ++ " " ++ leftAligned 8 kind.language.value ++ " " ++
    leftAligned 8 kind.operation.value ++ " " ++
    (if kind.axes.idempotent then "idempotent" else "-")

/-- A kind as a JSON object. -/
def kindJson (kind : Kind) : Json :=
  .object [
    ("statement_type", .text kind.value),
    ("language_type", .text kind.language.value),
    ("operation_type", .text kind.operation.value),
    ("idempotent", .bool kind.axes.idempotent)]

/-- All kinds in the given format. -/
def kindList : Descriptor.OutputFormat → String
  | .json => line (Json.array (Kind.all.map kindJson)).indented
  | .text => String.join (Kind.all.map fun kind => line (kindRow kind))

/-- The command with its arguments. -/
def runTypes (arguments : List String) (world : World) : Outcome :=
  match readArguments typesOptions true none arguments with
  | .error e => .stopped world.session (.usage e)
  | .ok args =>
    if args.has "--help" then .wrote world.session "Usage: chstatement types [OPTIONS]\n"
    else
      match choice args "--format" formatNames "text" with
      | .error e => .stopped world.session (.usage e)
      | .ok format =>
        if args.positional.isEmpty then .wrote world.session (kindList (.ofName format))
        else .stopped world.session (.usage (.extraArguments args.positional))

end SqlFacts.Command
