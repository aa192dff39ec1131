import SqlFacts.Command.Describe
import SqlFacts.Command.Types

/-!
# The command line

The program has a command that describes statements and one that lists their kinds. Options of the
program itself stand in front of the command.
-/

namespace SqlFacts.Command

/-- The name and the version of the program. -/
def versionText : String := "chstatement, version 0.1.0"

/-- The options in front of a command. -/
def programOptions : List OptionSpec := [⟨"--version", false⟩, ⟨"--help", false⟩]

/-- How the program is called. -/
def usageText : String := "Usage: chstatement [OPTIONS] COMMAND [ARGS]..."

/-- Carries out the options of the program in front of other arguments, and goes on with those
arguments if there is no option that has an output of its own. -/
def withProgramOptions (arguments : List String) (world : World) (next : List String → Outcome) :
    Outcome :=
  match readArguments programOptions false none arguments with
  | .error e => .stopped world.session (.usage e)
  | .ok args =>
    if args.has "--version" then .wrote world.session (line versionText)
    else if args.has "--help" then .wrote world.session (line usageText)
    else next args.positional

/-- Runs the command that the first positional argument names. A name that is not known but reads
as an option is taken for one, even behind the end of the options. -/
def runNamed (positional : List String) (world : World) : Outcome :=
  match positional with
  | [] => .stopped world.session (.usage .missingCommand)
  | "describe" :: arguments => runDescribe arguments world
  | "types" :: arguments => runTypes arguments world
  | name :: rest =>
    withProgramOptions (name :: rest) world fun _ =>
      .stopped world.session (.usage (.unknownCommand name))

/-- Runs the program with its arguments. -/
def run (arguments : List String) (world : World) : Outcome :=
  if arguments.isEmpty then .stopped world.session .noArguments
  else withProgramOptions arguments world fun positional => runNamed positional world

end SqlFacts.Command
