import SqlFacts.Json
import SqlFacts.Statement.Descriptor

/-!
# Written descriptors

Three written forms of a descriptor: a JSON object, a few lines for a reader, and a line of all
fields with the text of the statement below it. Several descriptors are written together as a JSON
array or as paragraphs.
-/

namespace SqlFacts.Descriptor

/-- The descriptor as a JSON object, with the database that it works on for a caller with the given
fallback. -/
def toJson (d : Descriptor) (fallback : Option String) : Json :=
  .object [
    ("sql", .text d.sql),
    ("statement_type", .text d.kind.value),
    ("language_type", .text d.language.value),
    ("operation_type", .text d.operation.value),
    ("recognized", .bool d.isRecognized),
    ("query", .bool d.isQuery),
    ("mutation", .bool d.isMutation),
    ("idempotent", .bool d.isIdempotent),
    ("cluster", .ofOption d.cluster),
    ("database", .ofOption d.database),
    ("effective_database", .text (d.databaseOr fallback)),
    ("table", .text d.table),
    ("input", .ofOption d.input),
    ("format", .ofOption d.format),
    ("outfile", .ofOption d.outfile),
    ("parameters", .array (d.parameters.map .number)),
    ("positions", .object (d.positions.entries.map fun entry => (entry.1, .number entry.2))),
    ("settings", .object (d.settings.entries.map fun entry => (entry.1, .text entry.2)))]

/-- The names of the flags that hold of a statement, in brackets. -/
def flagsText (d : Descriptor) : String :=
  let flags := [("query", d.isQuery), ("mutation", d.isMutation), ("idempotent", d.isIdempotent)]
  let names := (flags.filter (·.2)).map (·.1)
  if names.isEmpty then "" else " [" ++ ", ".intercalate names ++ "]"

/-- A line for a field that is present. -/
def fieldLine (label : String) : Option String → List String
  | none => []
  | some value => ["  " ++ label ++ ": " ++ value]

/-- The lines that describe a statement to a reader. Formats and files are left out when empty. -/
def reportLines (d : Descriptor) (fallback : Option String) : List String :=
  [d.kind.name ++ " (" ++ d.language.name ++ "/" ++ d.operation.name ++ ")" ++ d.flagsText,
    "  target: " ++ d.databaseOr fallback ++ "." ++ d.table] ++
    fieldLine "cluster" d.cluster ++
    fieldLine "input" d.input ++
    fieldLine "format" (d.format.filter (!·.isEmpty)) ++
    fieldLine "outfile" (d.outfile.filter (!·.isEmpty)) ++
    (if d.parameters.isEmpty then []
      else ["  parameters: " ++ ", ".intercalate (d.parameters.map toString)]) ++
    (if d.settings.isEmpty then []
      else
        ["  settings: " ++
          ", ".intercalate (d.settings.entries.map fun entry => entry.1 ++ "=" ++ entry.2)]) ++
    (if d.isRecognized then []
      else ["  = note: statement not recognized; treat as a non-retryable mutation"])

/-- The description of a statement for a reader. -/
def report (d : Descriptor) (fallback : Option String) : String :=
  "\n".intercalate (d.reportLines fallback)

/-- A text that may be missing, as a field of a summary. -/
def summaryField (text : Option String) : String := text.getD "None"

/-- A map as a field of a summary. -/
def summaryMap (entries : List (String × String)) : String :=
  "\x7b" ++ ", ".intercalate (entries.map fun entry => Text.quoted entry.1 ++ ": " ++ entry.2) ++
    "\x7d"

/-- All fields of a descriptor on one line, and the text of the statement below it. -/
def summary (d : Descriptor) : String :=
  "[" ++ d.kind.name ++ "] cluster=" ++ summaryField d.cluster ++
    ", database=" ++ summaryField d.database ++ ", table=" ++ d.table ++
    ", input=" ++ summaryField d.input ++ ", format=" ++ summaryField d.format ++
    ", outfile=" ++ summaryField d.outfile ++
    ", parameters=[" ++ ", ".intercalate (d.parameters.map toString) ++ "]" ++
    ", positions=" ++
      summaryMap (d.positions.entries.map fun entry => (entry.1, toString entry.2)) ++
    ", settings=" ++
      summaryMap (d.settings.entries.map fun entry => (entry.1, Text.quoted entry.2)) ++
    "\nSQL:\n" ++ d.sql

/-- The form in which descriptors are written out. -/
inductive OutputFormat where
  | text
  | json
  deriving DecidableEq, Repr

/-- The output format of the given name; every name but `json` stands for text. -/
def OutputFormat.ofName (name : String) : OutputFormat := if name = "json" then .json else .text

/-- Descriptors written out together. A single one is a JSON object of its own unless a list was
asked for. -/
def writeAll (descriptors : List Descriptor) (format : OutputFormat) (fallback : Option String)
    (asList : Bool) : String :=
  match format, descriptors with
  | .text, _ => "\n\n".intercalate (descriptors.map (·.report fallback))
  | .json, [d] => if asList then (Json.array [d.toJson fallback]).indented
      else (d.toJson fallback).indented
  | .json, _ => (Json.array (descriptors.map (·.toJson fallback))).indented

end SqlFacts.Descriptor
