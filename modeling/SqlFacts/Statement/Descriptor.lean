import SqlFacts.OrderedMap
import SqlFacts.Statement.Keyword
import SqlFacts.Statement.Kind
import SqlFacts.Statement.SettingValue
import SqlFacts.Text.UpperCase

/-!
# Statement descriptors

What is known about one statement, in the form in which it is handed on. A descriptor is built
permissively: what is missing becomes a default, so a statement that was understood only in part
can still be sent. Two descriptors are the same when all their fields are, the maps without
regard to order.
-/

namespace SqlFacts

/-- What is known about one statement. -/
structure Descriptor where
  sql : String
  kind : Kind
  cluster : Option String
  database : Option String
  table : String
  input : Option String
  format : Option String
  outfile : Option String
  parameters : List Int
  positions : OrderedMap Int
  settings : OrderedMap String

/-- What a descriptor is built from. Everything but the text may be missing, and so may the names
and values of positions and settings. -/
structure DescriptorFields where
  sql : String
  kind : Option Kind := none
  cluster : Option String := none
  database : Option String := none
  table : Option String := none
  input : Option String := none
  format : Option String := none
  outfile : Option String := none
  parameters : List Int := []
  positions : List (Option String × Option Int) := []
  settings : List (Option String × SettingValue) := []

namespace Descriptor

/-- The database of statements that name none. -/
def defaultDatabase : String := "system"

/-- The table of statements that name none. -/
def defaultTable : String := "unknown"

/-- The given table, or the default one if it is missing or empty. -/
def tableOrDefault : Option String → String
  | none => defaultTable
  | some table => if table.isEmpty then defaultTable else table

@[simp] theorem tableOrDefault_none : tableOrDefault none = "unknown" := rfl

/-- A table of a name stays, and the empty one becomes the default one. -/
theorem tableOrDefault_some (table : String) :
    tableOrDefault (some table) = if table = "" then "unknown" else table := by
  simp only [tableOrDefault, defaultTable, String.isEmpty_iff]

/-- The map of named values: the last value of a name counts, and a name whose last value is
missing drops out. -/
def presentEntries {α β : Type} (value : α → Option β) (entries : List (Option String × α)) :
    OrderedMap β :=
  (OrderedMap.ofList (entries.filterMap fun entry => entry.1.map (·, entry.2))).filterMap value

/-- The descriptor of the given fields. -/
def ofFields (fields : DescriptorFields) : Descriptor where
  sql := fields.sql
  kind := fields.kind.getD .unknown
  cluster := fields.cluster
  database := fields.database
  table := tableOrDefault fields.table
  input := fields.input
  format := fields.format
  outfile := fields.outfile
  parameters := fields.parameters
  positions := presentEntries id fields.positions
  settings := presentEntries SettingValue.text? fields.settings

/-- The fields that a descriptor is built from again. -/
def toFields (d : Descriptor) : DescriptorFields where
  sql := d.sql
  kind := some d.kind
  cluster := d.cluster
  database := d.database
  table := some d.table
  input := d.input
  format := d.format
  outfile := d.outfile
  parameters := d.parameters
  positions := d.positions.entries.map fun entry => (some entry.1, some entry.2)
  settings := d.settings.entries.map fun entry => (some entry.1, .text entry.2)

/-- The descriptor of a text that nothing is known about. -/
def unknown (sql : String) : Descriptor := ofFields { sql }

/-- Tests whether two descriptors say the same. -/
def same (a b : Descriptor) : Bool :=
  a.sql == b.sql && a.kind == b.kind && a.cluster == b.cluster && a.database == b.database &&
    a.table == b.table && a.input == b.input && a.format == b.format && a.outfile == b.outfile &&
    a.parameters == b.parameters && a.positions.sameEntries b.positions &&
    a.settings.sameEntries b.settings

/-- The number of different descriptors in a list. -/
def countDistinct : List Descriptor → Nat
  | [] => 0
  | d :: ds => if ds.any d.same then countDistinct ds else countDistinct ds + 1

/-- The part of the language of the statement. -/
def language (d : Descriptor) : Language := d.kind.language

/-- The effect of the statement on data. -/
def operation (d : Descriptor) : Operation := d.kind.operation

/-- Tests whether the statement has a kind. -/
def isRecognized (d : Descriptor) : Bool := d.kind != .unknown

/-- Tests for a statement that defines data. -/
def isDdl (d : Descriptor) : Bool := d.language == .ddl

/-- Tests for a statement that works on rows. -/
def isDml (d : Descriptor) : Bool := d.language == .dml

/-- Tests whether a text is present and not empty. -/
def isGiven (text : Option String) : Bool := text.any (!·.isEmpty)

/-- Tests whether a format is given. -/
def hasFormat (d : Descriptor) : Bool := isGiven d.format

/-- Tests whether an output file is given. -/
def hasOutfile (d : Descriptor) : Bool := isGiven d.outfile

/-- Tests whether settings are given. -/
def hasSettings (d : Descriptor) : Bool := !d.settings.isEmpty

/-- Tests whether the place of a tracked keyword is known. -/
def hasKeyword (d : Descriptor) (keyword : Keyword) : Bool := d.positions.contains keyword.name

/-- Tests for totals behind the groups. -/
def hasWithTotals (d : Descriptor) : Bool := d.hasKeyword .totals

/-- Tests for inline rows. -/
def hasValues (d : Descriptor) : Bool := d.hasKeyword .values

/-- Tests for a statement that reads and yields a result. An output file turns a query into a
side effect. -/
def isQuery (d : Descriptor) : Bool := d.operation == .read && !d.hasOutfile

/-- Tests for a statement that changes something. -/
def isMutation (d : Descriptor) : Bool := d.operation == .write || d.hasOutfile

/-- Tests whether the statement can safely be run again. A definition or removal of an object can
if a guard was found; the guard counts even with an output file. -/
def isIdempotent (d : Descriptor) : Bool :=
  (d.kind.axes.idempotent && !d.hasOutfile) ||
    (d.kind.isGuarded && (d.hasKeyword .exists || d.hasKeyword .replace))

/-- The database of the statement, else the given one, else the default one. -/
def databaseOr (d : Descriptor) (fallback : Option String) : String :=
  (d.database.or fallback).getD defaultDatabase

/-- The recorded offset of a keyword, in whatever case it is given. -/
def position? (d : Descriptor) (keyword : Option String) : Option Int :=
  keyword.bind fun keyword =>
    if keyword.isEmpty then none else d.positions.get? (Text.upper keyword)

/-- Tests whether the offset of a keyword is recorded. -/
def containsKeyword (d : Descriptor) (keyword : Option String) : Bool :=
  (d.position? keyword).isSome

/-- The recorded offset of a keyword, or `-1`. -/
def startPosition (d : Descriptor) (keyword : Option String) : Int :=
  (d.position? keyword).getD (-1)

/-- The offset behind a keyword of the given length, or `-1`. -/
def endPosition (d : Descriptor) (keyword : Option String) : Int :=
  let start := d.startPosition keyword
  if start = -1 then -1 else start + (keyword.map String.length).getD 0

end Descriptor

end SqlFacts
