import SqlFacts.Text.Basic

/-!
# Mistakes in using a command

What can be wrong with the arguments of a command, and the report on each mistake.
-/

namespace SqlFacts.Command

/-- A mistake in the arguments or the input of a command. -/
inductive UsageError where
  | missingCommand
  | unknownCommand (name : String)
  | unknownOption (name : String) (similar : List String)
  | missingValue (option : String)
  | unwantedValue (option : String)
  | badChoice (option value : String) (choices : List String)
  | extraArguments (arguments : List String)
  | missingSql
  | twoSources
  | terminalInput
  | emptyInput
  | unknownDialect (report : String)
  deriving DecidableEq, Repr

/-- The names that may have been meant. -/
def suggestion : List String → String
  | [] => ""
  | [name] => " Did you mean " ++ name ++ "?"
  | names =>
    " (Possible options: " ++ ", ".intercalate (names.mergeSort fun a b => decide (a ≤ b)) ++ ")"

/-- The report on a mistake. -/
def UsageError.message : UsageError → String
  | .missingCommand => "Missing command."
  | .unknownCommand name => "No such command " ++ Text.quoted name ++ "."
  | .unknownOption name similar => "No such option: " ++ name ++ suggestion similar
  | .missingValue option => "Option " ++ Text.quoted option ++ " requires an argument."
  | .unwantedValue option => "Option " ++ Text.quoted option ++ " does not take a value."
  | .badChoice option value choices =>
    "Invalid value for '" ++ option ++ "': " ++ Text.quoted value ++ " is not one of " ++
      ", ".intercalate (choices.map Text.quoted) ++ "."
  | .extraArguments arguments =>
    "Got unexpected extra argument" ++ (if arguments.length = 1 then "" else "s") ++ " (" ++
      " ".intercalate arguments ++ ")"
  | .missingSql => "Missing argument 'SQL'. Provide SQL or use --from-stdin."
  | .twoSources => "Provide SQL as an argument or --from-stdin, not both."
  | .terminalInput => "--from-stdin requires piped input (stdin is a terminal)."
  | .emptyInput => "--from-stdin: stdin was empty."
  | .unknownDialect report => "Invalid value for '--dialect': " ++ report

end SqlFacts.Command
