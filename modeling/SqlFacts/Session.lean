import SqlFacts.Journal
import SqlFacts.Json
import SqlFacts.Statement.Descriptor

/-!
# Logging sessions

Statements are logged at some time and in some working directory. A session holds both, together
with the journal that is written to.
-/

namespace SqlFacts

open Calendar (Instant)

/-- The time, the working directory and the journal. -/
structure Session where
  clock : Instant
  workingDirectory : String
  journal : Journal

/-- The number of days for which files are kept unless another number is given. -/
def defaultRetentionDays : Int := 30

/-- What is logged for a descriptor. -/
def logEntry (clock : Instant) (dialect : Option String) (d : Descriptor) : List (String × Json) :=
  [("ts", .text clock.isoText),
    ("dialect", .ofOption dialect),
    ("sql", .text d.sql),
    ("statement_type", .text d.kind.value),
    ("language_type", .text d.language.value),
    ("operation_type", .text d.operation.value),
    ("cluster", .ofOption d.cluster),
    ("database", .ofOption d.database),
    ("table", .text d.table),
    ("format", .ofOption d.format),
    ("outfile", .ofOption d.outfile),
    ("recognized", .bool d.isRecognized),
    ("query", .bool d.isQuery),
    ("mutation", .bool d.isMutation),
    ("idempotent", .bool d.isIdempotent),
    ("settings", .object (d.settings.entries.map fun entry => (entry.1, .text entry.2)))]

/-- The line that is logged for a descriptor. -/
def logLine (clock : Instant) (dialect : Option String) (d : Descriptor) : String :=
  (Json.object (logEntry clock dialect d)).compact

/-- A line holds the entry and nothing else: each field with its name, in order. -/
theorem logLine_eq (clock : Instant) (dialect : Option String) (d : Descriptor) :
    logLine clock dialect d =
      "\x7b" ++ ", ".intercalate ((logEntry clock dialect d).map fun field =>
        Json.writtenText field.1 ++ ": " ++ field.2.compact) ++ "\x7d" := by
  rw [logLine, Json.compact, Json.compactMembers_eq_map]

namespace Session

/-- The directory of the journal that belongs to the working directory. -/
def directory (session : Session) : String := Journal.directoryName session.workingDirectory

/-- The file of the current day. -/
def todayFile (session : Session) : String := Journal.fileName session.clock.date

/-- Logs a descriptor under the current day. -/
def log (session : Session) (dialect : Option String) (d : Descriptor) : Session :=
  let line := logLine session.clock dialect d
  { session with
    journal := session.journal.append session.directory session.todayFile [line] }

/-- Deletes what is past the retention time in the current directory. -/
def cleanup (session : Session) (retentionDays : Int) : Except RetentionError (Nat × Session) :=
  (session.journal.cleanup session.directory session.clock.date retentionDays).map
    fun (count, journal) => (count, { session with journal })

/-- The session with the directory of the journal made. -/
def makeDirectory (session : Session) : Session :=
  { session with journal := session.journal.makeDirectory session.directory }

/-- The number of lines in the file of the current day. -/
def todayLines (session : Session) : Nat :=
  ((session.journal.lines? session.directory session.todayFile).getD []).length

/-- The files that a cleanup deletes, in order. -/
def staleFiles (session : Session) (retentionDays : Int) : List String :=
  session.journal.staleFiles session.directory session.clock.date retentionDays

/-- Deletes some files of the current directory. -/
def deleteFiles (session : Session) (names : List String) : Session :=
  { session with journal := session.journal.deleteFiles session.directory names }

/-- Makes an empty file in the current directory. -/
def touch (session : Session) (file : String) : Session :=
  { session with journal := session.journal.touch session.directory file }

end Session

end SqlFacts
