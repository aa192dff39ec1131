import SqlFacts.Text.Basic
import SqlFacts.Toml.Document

/-!
# Configuration

The settings of a user: the dialect, the database of statements that name none, and whether and
for how long statements are logged. They are read from a TOML file; what it does not say has a
default, and what it says wrongly is refused, the first wrong thing in a fixed order.
-/

namespace SqlFacts

/-- The settings of a user. -/
structure Config where
  dialect : String := "clickhouse"
  defaultDatabase : Option String := none
  logEnabled : Bool := false
  logRetentionDays : Int := 30
  deriving DecidableEq, Repr

/-- The type that a setting must have. -/
inductive SettingType where
  | integer
  | text
  | boolean
  deriving DecidableEq, Repr

/-- What is wrong with a configuration. -/
inductive ConfigError where
  | unreadable
  | notATable (name : String)
  | wrongType (key : String) (expected : SettingType)
  | retentionTooSmall
  deriving DecidableEq, Repr

/-- Why no configuration was loaded. Bytes that are no text, integers of too many digits and values
that are nested too deep are failures of reading, not of the configuration. -/
inductive ConfigFailure where
  | refused (error : ConfigError)
  | notText
  | integerTooLong (digits : Nat)
  | tooDeep
  deriving DecidableEq, Repr

namespace SettingType

/-- The name of a type in reports. -/
def name : SettingType → String
  | .integer => "int"
  | .text => "str"
  | .boolean => "bool"

end SettingType

/-- The report on a configuration at the given path. -/
def ConfigError.message (path : String) : ConfigError → String
  | .unreadable => "cannot read " ++ path
  | .notATable name => path ++ ": [" ++ name ++ "] must be a table"
  | .wrongType key expected => path ++ ": '" ++ key ++ "' must be of type " ++ expected.name
  | .retentionTooSmall => path ++ ": 'retention_days' must be at least 1"

/-- The report on an integer of too many digits. -/
def tooLongMessage (digits : Nat) : String :=
  "Exceeds the limit (" ++ toString Toml.maxIntegerDigits ++
    " digits) for integer string conversion: value has " ++ toString digits ++
    " digits; use sys.set_int_max_str_digits() to increase the limit"

/-- What stands at the path of a configuration. -/
inductive ConfigFile where
  | missing
  | directory
  | file (bytes : ByteArray)

namespace Config

open Toml (Table Value)

/-- A table of a document; without it the table is empty. -/
def tableAt (name : String) (document : Table) : Except ConfigError Table :=
  match document.lookup name with
  | none => .ok []
  | some (.table entries) => .ok entries
  | some _ => .error (.notATable name)

/-- An integer of a table. -/
def integerAt (key : String) (table : Table) : Except ConfigError (Option Int) :=
  match table.lookup key with
  | none => .ok none
  | some (.integer n) => .ok (some n)
  | some _ => .error (.wrongType key .integer)

/-- A text of a table. -/
def textAt (key : String) (table : Table) : Except ConfigError (Option String) :=
  match table.lookup key with
  | none => .ok none
  | some (.text s) => .ok (some s)
  | some _ => .error (.wrongType key .text)

/-- A truth value of a table. -/
def booleanAt (key : String) (table : Table) : Except ConfigError (Option Bool) :=
  match table.lookup key with
  | none => .ok none
  | some (.boolean b) => .ok (some b)
  | some _ => .error (.wrongType key .boolean)

/-- The configuration that a document describes. -/
def ofDocument (document : Table) : Except ConfigError Config := do
  let parser ← tableAt "parser" document
  let log ← tableAt "log" document
  let defaults : Config := {}
  let retention := (← integerAt "retention_days" log).getD defaults.logRetentionDays
  if retention < 1 then .error .retentionTooSmall
  else do
    let dialect ← textAt "dialect" parser
    let database ← textAt "default_database" parser
    let enabled ← booleanAt "enabled" log
    return {
      dialect := dialect.getD defaults.dialect
      defaultDatabase := database
      logEnabled := enabled.getD defaults.logEnabled
      logRetentionDays := retention }

/-- The configuration that a text describes, read with room for so many calls. -/
def ofText (room : Nat) (s : String) : Except ConfigFailure Config :=
  match Toml.parse room (Text.unifyLineEnds s.toList) with
  | .error .malformed => .error (.refused .unreadable)
  | .error (.integerTooLong digits) => .error (.integerTooLong digits)
  | .error .tooDeep => .error .tooDeep
  | .ok document => (ofDocument document).mapError .refused

/-- The configuration at a path, read with room for so many calls; without a file it is the default
one. -/
def load (room : Nat) : ConfigFile → Except ConfigFailure Config
  | .missing => .ok {}
  | .directory => .error (.refused .unreadable)
  | .file bytes =>
    match String.fromUTF8? bytes with
    | none => .error .notText
    | some s => ofText room s

end Config

end SqlFacts
