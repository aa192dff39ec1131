import Mathlib.Data.List.Nodup
import SqlFacts.Config

/-!
# Well-typed documents

A document is accepted exactly if what it says in its two tables has the right types and the
retention time is a day at least. Then each setting has the value that the document gives it, or
its default. A document that is not accepted has faults, which are looked for in a fixed order, and
the first one is reported.
-/

namespace SqlFacts

open Toml (Table Value)

/-! ### Values by type -/

namespace Toml.Value

/-- The entries of a table; other values have none. -/
def entries : Value → Table
  | .table entries => entries
  | _ => []

/-- Tests for a table. -/
def isTable : Value → Bool
  | .table _ => true
  | _ => false

/-- The text that a value is, if it is one. -/
def text? : Value → Option String
  | .text s => some s
  | _ => none

/-- The integer that a value is, if it is one. -/
def integer? : Value → Option Int
  | .integer n => some n
  | _ => none

/-- The truth value that a value is, if it is one. -/
def boolean? : Value → Option Bool
  | .boolean b => some b
  | _ => none

/-- Tests for a value of a type that a setting may have. Truth values are no integers. -/
def hasType (value : Value) : SettingType → Bool
  | .integer => value.integer?.isSome
  | .text => value.text?.isSome
  | .boolean => value.boolean?.isSome

section Tests

variable {value : Value}

theorem isTable_iff : value.isTable = true ↔ ∃ entries, value = .table entries := by
  cases value <;> simp [isTable]

theorem hasType_text_iff : value.hasType .text = true ↔ ∃ s, value = .text s := by
  cases value <;> simp [hasType, text?]

theorem hasType_boolean_iff : value.hasType .boolean = true ↔ ∃ b, value = .boolean b := by
  cases value <;> simp [hasType, boolean?]

end Tests

end Toml.Value

namespace Config

/-- The value of a setting: the entry of a key in the table of a name, if both are there. -/
def settingAt? (name key : String) (document : Table) : Option Value :=
  (document.lookup name).bind fun value => value.entries.lookup key

/-! ### Documents and their faults -/

/-- A document whose tables are tables and whose settings have their types. What it does not say
is of no account, and what else it says is not looked at. -/
structure WellTyped (document : Table) : Prop where
  parser : ∀ value, document.lookup "parser" = some value → ∃ entries, value = .table entries
  log : ∀ value, document.lookup "log" = some value → ∃ entries, value = .table entries
  retention : ∀ value, settingAt? "log" "retention_days" document = some value →
    ∃ n, value = .integer n ∧ 1 ≤ n
  dialect : ∀ value, settingAt? "parser" "dialect" document = some value → ∃ s, value = .text s
  database : ∀ value, settingAt? "parser" "default_database" document = some value →
    ∃ s, value = .text s
  enabled : ∀ value, settingAt? "log" "enabled" document = some value → ∃ b, value = .boolean b

/-- The settings that a document gives, with the defaults of those that it does not give. -/
def given (document : Table) : Config where
  dialect := ((settingAt? "parser" "dialect" document).bind Value.text?).getD "clickhouse"
  defaultDatabase := (settingAt? "parser" "default_database" document).bind Value.text?
  logEnabled := ((settingAt? "log" "enabled" document).bind Value.boolean?).getD false
  logRetentionDays := ((settingAt? "log" "retention_days" document).bind Value.integer?).getD 30

/-- The faults that are looked for in a document, in the order of the search, each with a test for
whether the document has it. -/
def faultTests (document : Table) : List (ConfigError × Bool) :=
  let mistyped (name key : String) (type : SettingType) : ConfigError × Bool :=
    (.wrongType key type, (settingAt? name key document).any (!·.hasType type))
  [(.notATable "parser", (document.lookup "parser").any (!·.isTable)),
    (.notATable "log", (document.lookup "log").any (!·.isTable)),
    mistyped "log" "retention_days" .integer,
    (.retentionTooSmall,
      ((settingAt? "log" "retention_days" document).bind Value.integer?).any (· < 1)),
    mistyped "parser" "dialect" .text,
    mistyped "parser" "default_database" .text,
    mistyped "log" "enabled" .boolean]

/-- The faults of a document, in the order of the search. -/
def faults (document : Table) : List ConfigError :=
  ((faultTests document).filter (·.2)).map (·.1)

/-! ### Readers of one entry -/

section Readers

variable {name key : String} {document table : Table}

theorem tableAt_eq : tableAt name document =
    if (document.lookup name).any (!·.isTable) then .error (.notATable name)
    else .ok (((document.lookup name).map Value.entries).getD []) := by
  rw [tableAt]
  cases document.lookup name with
  | none => rfl
  | some value => cases value <;> rfl

theorem integerAt_eq : integerAt key table =
    if (table.lookup key).any (!·.hasType .integer) then .error (.wrongType key .integer)
    else .ok ((table.lookup key).bind Value.integer?) := by
  rw [integerAt]
  cases table.lookup key with
  | none => rfl
  | some value => cases value <;> rfl

theorem textAt_eq : textAt key table =
    if (table.lookup key).any (!·.hasType .text) then .error (.wrongType key .text)
    else .ok ((table.lookup key).bind Value.text?) := by
  rw [textAt]
  cases table.lookup key with
  | none => rfl
  | some value => cases value <;> rfl

theorem booleanAt_eq : booleanAt key table =
    if (table.lookup key).any (!·.hasType .boolean) then .error (.wrongType key .boolean)
    else .ok ((table.lookup key).bind Value.boolean?) := by
  rw [booleanAt]
  cases table.lookup key with
  | none => rfl
  | some value => cases value <;> rfl

/-- A setting is an entry of its table. -/
theorem lookup_entries : (((document.lookup name).map Value.entries).getD []).lookup key =
    settingAt? name key document := by
  rw [settingAt?]
  cases document.lookup name <;> rfl

end Readers

/-! ### The outcome of a document -/

/-- A check that is passed is followed by what comes next. -/
theorem check_bind {α β : Type} (failed : Bool) (error : ConfigError) (a : α)
    (next : α → Except ConfigError β) :
    ((if failed then .error error else .ok a) >>= next) =
      if failed then .error error else next a := by
  cases failed <;> rfl

/-- The retention time is too small exactly if it is given and too small. -/
theorem getD_lt_one_iff (retention : Option Int) :
    retention.getD 30 < 1 ↔ retention.any (· < 1) = true := by
  cases retention <;> simp

/-- A configuration, unless there are faults: then the first of them is reported. -/
def unlessFaulty (config : Config) : List ConfigError → Except ConfigError Config
  | [] => .ok config
  | error :: _ => .error error

theorem unlessFaulty_cons (config : Config) (test : ConfigError × Bool)
    (tests : List (ConfigError × Bool)) :
    unlessFaulty config (((test :: tests).filter (·.2)).map (·.1)) =
      if test.2 then .error test.1 else unlessFaulty config ((tests.filter (·.2)).map (·.1)) := by
  obtain ⟨error, failed⟩ := test
  cases failed <;> rfl

/-- A document is refused for its first fault, and gives its configuration if it has none. -/
theorem ofDocument_eq (document : Table) :
    ofDocument document = unlessFaulty (given document) (faults document) := by
  simp only [faults, faultTests, unlessFaulty_cons]
  simp only [ofDocument, tableAt_eq, integerAt_eq, textAt_eq, booleanAt_eq, check_bind,
    lookup_entries, getD_lt_one_iff]
  rfl

theorem ofDocument_eq_error_iff {document : Table} {error : ConfigError} :
    ofDocument document = .error error ↔ (faults document).head? = some error := by
  rw [ofDocument_eq]
  cases faults document <;> simp [unlessFaulty]

theorem ofDocument_eq_ok_iff {document : Table} {config : Config} :
    ofDocument document = .ok config ↔ faults document = [] ∧ config = given document := by
  rw [ofDocument_eq]
  cases faults document <;> simp [unlessFaulty, eq_comm]

/-- A test is failed by no value that is there exactly if each such value passes it. -/
theorem not_any_not_iff {value : Option Value} {test : Value → Bool} :
    ¬ value.any (!test ·) = true ↔ ∀ v, value = some v → test v = true := by
  cases value <;> simp

/-- The retention time of a document without a fault in it is an integer of at least one. -/
theorem retention_iff {document : Table} :
    ((∀ value, settingAt? "log" "retention_days" document = some value →
        value.hasType .integer = true) ∧
      ¬ ((settingAt? "log" "retention_days" document).bind Value.integer?).any (· < 1) = true) ↔
    ∀ value, settingAt? "log" "retention_days" document = some value →
      ∃ n, value = .integer n ∧ 1 ≤ n := by
  cases settingAt? "log" "retention_days" document with
  | none => simp
  | some value => cases value <;> simp [Value.hasType, Value.integer?]

/-- A document is well typed exactly if it has no faults. -/
theorem faults_eq_nil_iff {document : Table} : faults document = [] ↔ WellTyped document := by
  simp only [faults, faultTests, List.map_eq_nil_iff, List.filter_eq_nil_iff, List.forall_mem_cons,
    not_any_not_iff]
  constructor
  · rintro ⟨hparser, hlog, htype, hrange, hdialect, hdatabase, henabled, -⟩
    constructor
    case parser => exact fun value hvalue => Value.isTable_iff.mp (hparser value hvalue)
    case log => exact fun value hvalue => Value.isTable_iff.mp (hlog value hvalue)
    case retention => exact retention_iff.mp ⟨htype, hrange⟩
    case dialect => exact fun value hvalue => Value.hasType_text_iff.mp (hdialect value hvalue)
    case database => exact fun value hvalue => Value.hasType_text_iff.mp (hdatabase value hvalue)
    case enabled => exact fun value hvalue => Value.hasType_boolean_iff.mp (henabled value hvalue)
  · intro h
    have hretention := retention_iff.mpr h.retention
    refine ⟨?_, ?_, hretention.1, hretention.2, ?_, ?_, ?_, List.forall_mem_nil _⟩
    · exact fun value hvalue => Value.isTable_iff.mpr (h.parser value hvalue)
    · exact fun value hvalue => Value.isTable_iff.mpr (h.log value hvalue)
    · exact fun value hvalue => Value.hasType_text_iff.mpr (h.dialect value hvalue)
    · exact fun value hvalue => Value.hasType_text_iff.mpr (h.database value hvalue)
    · exact fun value hvalue => Value.hasType_boolean_iff.mpr (h.enabled value hvalue)

/-- The retention time of a well-typed document is a day at least. -/
theorem one_le_given {document : Table} (h : WellTyped document) :
    1 ≤ (given document).logRetentionDays := by
  cases hsetting : settingAt? "log" "retention_days" document with
  | none =>
    simp only [given, hsetting]
    decide
  | some value =>
    obtain ⟨n, rfl, hn⟩ := h.retention value hsetting
    simpa only [given, hsetting, Option.bind_some, Value.integer?, Option.getD_some] using hn

/-! ### Reports -/

/-- All that is looked for in a document, in the order of the search. -/
def searched : List ConfigError :=
  [.notATable "parser", .notATable "log", .wrongType "retention_days" .integer, .retentionTooSmall,
    .wrongType "dialect" .text, .wrongType "default_database" .text, .wrongType "enabled" .boolean]

/-- The faults of a document are among those looked for, in the order of the search. -/
theorem faults_sublist (document : Table) : (faults document).Sublist searched :=
  List.filter_sublist.map _

/-- A report on a document begins with the path. -/
theorem message_eq (path : String) {error : ConfigError} (h : error ∈ searched) :
    error.message path = path ++ error.message "" := by
  cases error <;> simp_all [ConfigError.message, String.append_assoc, searched]

/-- No two faults have the same report. -/
theorem nodup_messages (path : String) : (searched.map (ConfigError.message path)).Nodup := by
  have hpath : searched.map (ConfigError.message path) =
      (searched.map (ConfigError.message "")).map (path ++ ·) := by
    rw [List.map_map]
    exact List.map_congr_left fun error herror => message_eq path herror
  have hnodup : (searched.map (ConfigError.message "")).Nodup := by decide +kernel
  have hinjective : Function.Injective (path ++ ·) := by
    intro report other h
    exact (String.append_right_inj path).mp h
  rw [hpath]
  exact hnodup.map hinjective

end Config

end SqlFacts
