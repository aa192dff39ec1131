import SqlFacts.Calendar.Instant
import SqlFacts.OrderedMap

/-!
# Journals

Statements are logged by project and by day. Each project has a directory named after its working
directory, and in it a file of lines for each day. Files of days past the retention time are
deleted, and a directory that is left empty goes with them. The directory without a name is the
root that the others lie in, save one: the name of two points leads out of the root, to the
directory that the root itself lies in.
-/

namespace SqlFacts

open Calendar (Date Instant)

/-- The files of a directory, with their lines. -/
abbrev LogDirectory := OrderedMap (List String)

/-- The directories of logged statements by name; the root has the empty name. -/
structure Journal where
  directories : OrderedMap LogDirectory

/-- A limit of retention lies outside the calendar. -/
inductive RetentionError where
  | outsideCalendar
  deriving DecidableEq, Repr

namespace Journal

/-- The journal before anything is logged: not even the root exists. -/
def empty : Journal := ⟨.empty⟩

/-- The name of the project in a working directory: the parts of the path, joined by hyphens. -/
def projectName (workingDirectory : String) : String :=
  String.ofList ((workingDirectory.toList.map fun c => if c == '/' then '-' else c).dropWhile
    (· == '-'))

/-- The name of the directory for a working directory: that of the project. A single point means
the root itself. -/
def directoryName (workingDirectory : String) : String :=
  let name := projectName workingDirectory
  if name = "." then "" else name

/-- The name that leads from the root to the directory around it. -/
def parentName : String := ".."

/-- The extension of the files of a journal. -/
def fileExtension : String := ".jsonl"

/-- The name of the file for a day. The year has as many digits as it needs. -/
def fileName (day : Date) : String := day.textWithYear 1 ++ fileExtension

/-- The name of a file without its last extension. A point at either end of the name begins no
extension. -/
def stem (name : String) : String :=
  let cs := name.toList
  let extension := cs.reverse.takeWhile (· != '.')
  let front := cs.take (cs.length - extension.length - 1)
  if extension.isEmpty || front.isEmpty then name else String.ofList front

/-- The last part of a path that is not the current directory. -/
def lastPart (path : String) : String :=
  (((path.splitOn "/").filter fun part => part != "" && part != ".").getLast?).getD ""

/-- The day that a file covers, if its name without the extension is a date. -/
def day? (name : String) : Option Date := Date.ofIso? (stem name)

/-- Tests whether a name has the extension of the files of a journal. -/
def isLogName (name : String) : Bool := fileExtension.toList.isSuffixOf name.toList

/-- Tests whether a file covers a day before the given one. -/
def isStale (limit : Date) (name : String) : Bool :=
  isLogName name && (day? name).any (·.isBefore limit)

/-- Makes a directory, and the root that it lies in. -/
def makeDirectory (journal : Journal) (directory : String) : Journal :=
  let make (directories : OrderedMap LogDirectory) (name : String) : OrderedMap LogDirectory :=
    if directories.contains name then directories else directories.insert name .empty
  ⟨make (make journal.directories "") directory⟩

/-- Adds lines to a file of a directory; both are made if they are missing. -/
def append (journal : Journal) (directory file : String) (lines : List String) : Journal :=
  let made := journal.makeDirectory directory
  let files := (made.directories.get? directory).getD .empty
  ⟨made.directories.insert directory
    (files.insert file ((files.get? file).getD [] ++ lines))⟩

/-- Makes an empty file in a directory, unless there is one of that name. -/
def touch (journal : Journal) (directory file : String) : Journal :=
  journal.append directory file []

/-- The lines of a file, if there is one. -/
def lines? (journal : Journal) (directory file : String) : Option (List String) :=
  (journal.directories.get? directory).bind (·.get? file)

/-- Tests whether a directory lies in the root. -/
def isInRoot (directory : String) : Bool := !directory.isEmpty && directory != parentName

/-- The files of a directory, if it is there. The directory around the root always is, but the way
to it leads through the root. -/
def filesOf? (journal : Journal) (directory : String) : Option LogDirectory :=
  if directory = parentName then
    (journal.directories.get? "").map fun _ => (journal.directories.get? directory).getD .empty
  else journal.directories.get? directory

/-- Tests whether a directory is there. -/
def reaches (journal : Journal) (directory : String) : Bool :=
  (journal.filesOf? directory).isSome

/-- Tests whether a directory holds nothing. The root holds directories, and the directory around
it holds the root. -/
def isVacant (journal : Journal) (directory : String) : Bool :=
  directory != parentName && (journal.directories.get? directory).all (·.isEmpty) &&
    !(directory.isEmpty && journal.directories.keys.any isInRoot)

/-- Deletes a directory if it holds nothing. -/
def removeIfEmpty (journal : Journal) (directory : String) : Journal :=
  if journal.isVacant directory then ⟨journal.directories.erase directory⟩ else journal

/-- Deletes the files of a directory that cover days before the retention time, and the directory
if it is left empty. The result is the number of deleted files and what is left. A missing
directory has nothing to delete, whatever the time. -/
def cleanup (journal : Journal) (directory : String) (today : Date) (retentionDays : Int) :
    Except RetentionError (Nat × Journal) :=
  match journal.filesOf? directory with
  | none => .ok (0, journal)
  | some files =>
    match today.daysBefore? retentionDays with
    | none => .error .outsideCalendar
    | some limit =>
      let kept := files.filter fun name _ => !isStale limit name
      let left : Journal := ⟨journal.directories.insert directory kept⟩
      .ok (files.entries.length - kept.entries.length, left.removeIfEmpty directory)

/-- The files that a cleanup of a directory deletes, in order. -/
def staleFiles (journal : Journal) (directory : String) (today : Date) (retentionDays : Int) :
    List String :=
  match journal.filesOf? directory, today.daysBefore? retentionDays with
  | some files, some limit => files.keys.filter (isStale limit)
  | _, _ => []

/-- Deletes some files of a directory. -/
def deleteFiles (journal : Journal) (directory : String) (names : List String) : Journal :=
  let files := (journal.filesOf? directory).getD .empty
  ⟨journal.directories.insert directory (files.filter fun name _ => !names.contains name)⟩

/-- The path of a directory. -/
def directoryPath (directory : String) : String :=
  if directory.isEmpty then "logs/" else "logs/" ++ directory ++ "/"

/-- The root and the directories in it, with their files. -/
def rootEntries (journal : Journal) : List (String × LogDirectory) :=
  journal.directories.entries.filter (·.1 != parentName)

/-- The path and the lines of every file in the root and the directories in it. -/
def files (journal : Journal) : List (String × List String) :=
  journal.rootEntries.flatMap fun (directory, files) =>
    files.entries.map fun (name, lines) => (directoryPath directory ++ name, lines)

/-- The root and every directory in it, and every file with the number of its lines, in the order of
their paths. -/
def listing (journal : Journal) : List (String × Option Nat) :=
  let directories := journal.rootEntries.map fun (name, _) => (directoryPath name, none)
  let files := journal.files.map fun (path, lines) => (path, some lines.length)
  (directories ++ files).mergeSort fun a b => decide (a.1 ≤ b.1)

end Journal

end SqlFacts
