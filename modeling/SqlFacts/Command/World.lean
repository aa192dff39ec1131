import SqlFacts.Command.Usage
import SqlFacts.Config
import SqlFacts.Description
import SqlFacts.Session
import SqlFacts.Text.Basic

/-!
# Commands and their surroundings

A command runs on a host, of which nothing is assumed: each dialect may be unknown and each request
to the disk be refused. A failure that the command does not expect escapes from it without a
report. Arguments are texts, and a request that the disk refuses changes nothing.
-/

namespace SqlFacts.Command

/-- What a command reads its input from: a terminal, which it refuses, a stream that cannot be read,
or the bytes of a stream. -/
inductive Input where
  | terminal
  | unreadable
  | piped (bytes : ByteArray)

/-- What a command asks of the disk: to make a directory of the journal, to add a line to a file
with so many lines, to list the files of a directory, or to delete one of them. Whatever keeps the
disk from carrying one out counts as a refusal, such as an entry of that name that is no file, or a
working directory that is gone. -/
inductive DiskRequest where
  | makeDirectory (directory : String)
  | addLine (directory file : String) (lines : Nat)
  | listFiles (directory : String)
  | delete (directory file : String)
  deriving DecidableEq, Repr

/-- What a command runs on: the dialects, the calls that the stack has room for when a configuration
is read, the texts that the encoding of the output can write, and the requests that the disk
refuses. -/
structure Host where
  dialects : Dialects
  room : Nat
  canWrite : String → Bool
  refuses : DiskRequest → Bool

/-- The host with the dialects at hand that refuses nothing. -/
def Host.obliging : Host := ⟨.atHand, Toml.standardRoom, fun _ => true, fun _ => false⟩

/-- The world that a command runs in. -/
structure World where
  host : Host
  config : ConfigFile
  input : Input
  session : Session

/-- A failure that no report is made of. -/
inductive Escape where
  | notText
  | integerTooLong (digits : Nat)
  | tooDeep
  | unreadableInput
  | brokenDialect
  | unwritableOutput
  | refused (request : DiskRequest)
  | outsideCalendar
  deriving DecidableEq, Repr

/-- Why a command did not succeed: a call without any arguments, a mistake in its use, a
configuration that was refused, a failure that no report is made of, or a statement that strict
use does not pass. -/
inductive Failure where
  | noArguments
  | usage (error : UsageError)
  | config (error : ConfigError)
  | escaped (escape : Escape)
  | strict
  deriving DecidableEq, Repr

/-- What a command did: its output, the diagnostics on the way, the session after it, and why it
failed if it did. -/
structure Outcome where
  output : String
  diagnostics : List Diagnostic
  session : Session
  failure : Option Failure

namespace Outcome

/-- The outcome of a command that stopped before it did anything. -/
def stopped (session : Session) (failure : Failure) : Outcome := ⟨"", [], session, some failure⟩

/-- The outcome of a command that only wrote something. -/
def wrote (session : Session) (output : String) : Outcome := ⟨output, [], session, none⟩

/-- The exit code: mistakes in use give two, other failures one. -/
def exitCode (outcome : Outcome) : Nat :=
  match outcome.failure with
  | none => 0
  | some .noArguments | some (.usage _) => 2
  | some _ => 1

/-- The report on a failure, if one is made. -/
def report? (configPath : String) (outcome : Outcome) : Option String :=
  match outcome.failure with
  | some (.usage error) => some error.message
  | some (.config error) => some (error.message configPath)
  | _ => none

/-- The output as it is written where no terminal shows it. -/
def plainOutput (outcome : Outcome) : String := Text.unstyled outcome.output

/-- The report on a failure as it is written where no terminal shows it. -/
def plainReport? (configPath : String) (outcome : Outcome) : Option String :=
  (outcome.report? configPath).map Text.unstyled

end Outcome

/-- A text as output: with the end of a line, unless it is empty. -/
def line (text : String) : String := if text.isEmpty then "" else text ++ "\n"

end SqlFacts.Command
