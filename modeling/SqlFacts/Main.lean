import SqlFacts.Command.Run
import Std.Time.DateTime

/-!
# The program

The outer layer of the command line: it collects the world that a command runs in, runs the
command, and carries out what the outcome says. The configuration and the journal lie in a
directory of the user's home. Of the journal only the current directory is read, and of its files
only the names, since lines are never changed but only added.
-/

namespace SqlFacts.Program

open Command

/-- The directory of the user that holds the configuration and the journal. -/
def userDirectory : IO String := do
  let home := (← IO.getEnv "HOME").getD "."
  return home ++ "/.chstatement"

/-- What stands at the path of a configuration. -/
def readConfig (path : String) : IO ConfigFile := do
  let file := (← IO.currentDir) / path
  if ← file.isDir then return .directory
  else if ← file.pathExists then return .file (← IO.FS.readBinFile file)
  else return .missing

/-- The input, if the arguments ask for it. -/
def readInput (arguments : List String) : IO Input := do
  let stdin ← IO.getStdin
  if !arguments.contains "--from-stdin" then return .piped .empty
  else if ← stdin.isTty then return .terminal
  else return .piped (← stdin.readBinToEnd)

/-- The current time. -/
def readClock : IO Calendar.Instant := do
  let now ← Std.Time.Timestamp.now
  match Calendar.Instant.ofEpoch? (now.toNanosecondsSinceUnixEpoch.val.fdiv 1000) with
  | some instant => return instant
  | none => throw (IO.userError "the clock lies outside the calendar")

/-- The names of the files and of the directories at a path. -/
def readNames (path : String) : IO (List String × List String) := do
  let directory := (← IO.currentDir) / path
  if !(← directory.isDir) then return ([], [])
  else
    let mut files := []
    let mut directories := []
    for entry in ← directory.readDir do
      if ← entry.path.isDir then directories := entry.fileName :: directories
      else files := entry.fileName :: files
    return (files, directories)

/-- The journal below a path, as far as the current directory is concerned. A directory in it passes
for a file, which the disk refuses to change. -/
def readJournal (root name : String) : IO (Journal × List String) := do
  if !(← ((← IO.currentDir) / root).isDir) then return (.empty, [])
  else
    let (_, others) ← readNames root
    let journal := others.foldl (fun journal other => journal.makeDirectory other)
      (Journal.empty.makeDirectory "")
    let (files, inner) ← readNames (root ++ "/" ++ name)
    return ((files ++ inner).foldl (fun journal file => journal.touch name file) journal, inner)

/-- The host, given the current directory of the journal and the directories in it. -/
def hostOf (name : String) (inner : List String) : Host :=
  { Host.obliging with
    refuses := fun
      | .addLine directory file _ | .delete directory file =>
        directory == name && inner.contains file
      | _ => false }

/-- Adds lines to a file, which is made if it is missing. -/
def appendLines (path : String) (lines : List String) : IO Unit :=
  IO.FS.withFile path .append fun handle => lines.forM fun line => handle.putStr (line ++ "\n")

/-- Carries out the changes of the journal in the current directory. -/
def writeJournal (root name : String) (before after : Journal) : IO Unit := do
  let directory := root ++ "/" ++ name
  let old := (before.directories.get? name).getD .empty
  match after.directories.get? name with
  | none =>
    old.keys.forM fun file => IO.FS.removeFile (directory ++ "/" ++ file)
    if before.directories.contains name then IO.FS.removeDir directory
  | some new =>
    IO.FS.createDirAll directory
    new.entries.forM fun (file, lines) => do
      if !lines.isEmpty then appendLines (directory ++ "/" ++ file) lines
    old.keys.forM fun file => do
      if !new.contains file then IO.FS.removeFile (directory ++ "/" ++ file)

/-- Runs the program with its arguments and gives its exit code. -/
def run (arguments : List String) : IO UInt32 := do
  let directory ← userDirectory
  let configPath := directory ++ "/config.toml"
  let logRoot := directory ++ "/logs"
  let workingDirectory := (← IO.currentDir).toString
  let name := Journal.directoryName workingDirectory
  let (journal, inner) ← readJournal logRoot name
  let session : Session := ⟨← readClock, workingDirectory, journal⟩
  let world : World :=
    ⟨hostOf name inner, ← readConfig configPath, ← readInput arguments, session⟩
  let outcome := Command.run arguments world
  let stdout ← IO.getStdout
  stdout.putStr (if ← stdout.isTty then outcome.output else outcome.plainOutput)
  if outcome.session.journal.directories ≠ journal.directories then
    writeJournal logRoot name journal outcome.session.journal
  for diagnostic in outcome.diagnostics do
    if diagnostic.isWarning then IO.eprintln diagnostic.text
  if outcome.failure = some .noArguments then IO.eprintln Command.usageText
  let stderr ← IO.getStderr
  let report? :=
    if ← stderr.isTty then outcome.report? configPath else outcome.plainReport? configPath
  if let some report := report? then stderr.putStrLn ("Error: " ++ report)
  return outcome.exitCode.toUInt32

end SqlFacts.Program

/-- Runs the program. -/
def main (arguments : List String) : IO UInt32 := SqlFacts.Program.run arguments
