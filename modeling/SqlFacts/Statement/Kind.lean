import SqlFacts.Text.Basic

/-!
# Kinds of statements

Every statement has a kind, and every kind a place on two axes, the part of the language and the
effect on data, together with whether running it twice is the same as running it once.
-/

namespace SqlFacts

/-- The part of the language that a statement belongs to. -/
inductive Language where
  | unknown
  | dcl
  | ddl
  | dml
  | tcl
  deriving DecidableEq, Repr

/-- What a statement does to data. -/
inductive Operation where
  | unknown
  | read
  | write
  deriving DecidableEq, Repr

/-- The kind of a statement. -/
inductive Kind where
  | unknown
  | alter
  | alterDelete
  | alterUpdate
  | attach
  | check
  | create
  | delete
  | describe
  | detach
  | drop
  | exists
  | explain
  | grant
  | insert
  | kill
  | optimize
  | rename
  | revoke
  | select
  | set
  | show
  | system
  | truncate
  | update
  | use
  | watch
  | transaction
  deriving DecidableEq, Repr

namespace Language

/-- The name of a part of the language in capitals. -/
def name : Language → String
  | .unknown => "UNKNOWN"
  | .dcl => "DCL"
  | .ddl => "DDL"
  | .dml => "DML"
  | .tcl => "TCL"

/-- The value that stands for a part of the language in data. -/
def value : Language → String
  | .unknown => "unknown"
  | .dcl => "dcl"
  | .ddl => "ddl"
  | .dml => "dml"
  | .tcl => "tcl"

end Language

namespace Operation

/-- The name of an effect in capitals. -/
def name : Operation → String
  | .unknown => "UNKNOWN"
  | .read => "READ"
  | .write => "WRITE"

/-- The value that stands for an effect in data. -/
def value : Operation → String
  | .unknown => "unknown"
  | .read => "read"
  | .write => "write"

end Operation

/-- The place of a kind on the two axes, and its safety under repetition. -/
structure Axes where
  language : Language
  operation : Operation
  idempotent : Bool
  deriving DecidableEq, Repr

/-- A value names no kind. -/
structure UnknownKind where
  value : String
  deriving DecidableEq, Repr

/-- The report on a value that names no kind. -/
def UnknownKind.message (e : UnknownKind) : String :=
  Text.quoted e.value ++ " is not a valid StatementType"

namespace Kind

/-- Every kind, in the order in which kinds are listed. -/
def all : List Kind :=
  [.unknown, .alter, .alterDelete, .alterUpdate, .attach, .check, .create, .delete, .describe,
    .detach, .drop, .exists, .explain, .grant, .insert, .kill, .optimize, .rename, .revoke,
    .select, .set, .show, .system, .truncate, .update, .use, .watch, .transaction]

/-- The name of a kind in capitals. -/
def name : Kind → String
  | .unknown => "UNKNOWN"
  | .alter => "ALTER"
  | .alterDelete => "ALTER_DELETE"
  | .alterUpdate => "ALTER_UPDATE"
  | .attach => "ATTACH"
  | .check => "CHECK"
  | .create => "CREATE"
  | .delete => "DELETE"
  | .describe => "DESCRIBE"
  | .detach => "DETACH"
  | .drop => "DROP"
  | .exists => "EXISTS"
  | .explain => "EXPLAIN"
  | .grant => "GRANT"
  | .insert => "INSERT"
  | .kill => "KILL"
  | .optimize => "OPTIMIZE"
  | .rename => "RENAME"
  | .revoke => "REVOKE"
  | .select => "SELECT"
  | .set => "SET"
  | .show => "SHOW"
  | .system => "SYSTEM"
  | .truncate => "TRUNCATE"
  | .update => "UPDATE"
  | .use => "USE"
  | .watch => "WATCH"
  | .transaction => "TRANSACTION"

/-- The value that stands for a kind in data. -/
def value : Kind → String
  | .unknown => "unknown"
  | .alter => "alter"
  | .alterDelete => "alter_delete"
  | .alterUpdate => "alter_update"
  | .attach => "attach"
  | .check => "check"
  | .create => "create"
  | .delete => "delete"
  | .describe => "describe"
  | .detach => "detach"
  | .drop => "drop"
  | .exists => "exists"
  | .explain => "explain"
  | .grant => "grant"
  | .insert => "insert"
  | .kill => "kill"
  | .optimize => "optimize"
  | .rename => "rename"
  | .revoke => "revoke"
  | .select => "select"
  | .set => "set"
  | .show => "show"
  | .system => "system"
  | .truncate => "truncate"
  | .update => "update"
  | .use => "use"
  | .watch => "watch"
  | .transaction => "transaction"

/-- The kind that a value stands for. -/
def ofValue (value : String) : Except UnknownKind Kind :=
  match all.find? (·.value == value) with
  | some kind => .ok kind
  | none => .error ⟨value⟩

/-- The place of each kind on the axes. -/
def axes : Kind → Axes
  | .unknown => ⟨.unknown, .unknown, false⟩
  | .alter => ⟨.ddl, .unknown, false⟩
  | .alterDelete => ⟨.ddl, .write, false⟩
  | .alterUpdate => ⟨.ddl, .write, false⟩
  | .attach => ⟨.ddl, .unknown, false⟩
  | .check => ⟨.ddl, .unknown, true⟩
  | .create => ⟨.ddl, .unknown, false⟩
  | .delete => ⟨.dml, .write, false⟩
  | .describe => ⟨.ddl, .read, true⟩
  | .detach => ⟨.ddl, .unknown, false⟩
  | .drop => ⟨.ddl, .unknown, false⟩
  | .exists => ⟨.dml, .read, true⟩
  | .explain => ⟨.ddl, .read, true⟩
  | .grant => ⟨.dcl, .unknown, true⟩
  | .insert => ⟨.dml, .write, false⟩
  | .kill => ⟨.dcl, .unknown, false⟩
  | .optimize => ⟨.ddl, .unknown, false⟩
  | .rename => ⟨.ddl, .unknown, false⟩
  | .revoke => ⟨.dcl, .unknown, true⟩
  | .select => ⟨.dml, .read, true⟩
  | .set => ⟨.dcl, .unknown, true⟩
  | .show => ⟨.ddl, .read, true⟩
  | .system => ⟨.ddl, .unknown, false⟩
  | .truncate => ⟨.ddl, .unknown, true⟩
  | .update => ⟨.dml, .write, false⟩
  | .use => ⟨.ddl, .unknown, true⟩
  | .watch => ⟨.ddl, .unknown, true⟩
  | .transaction => ⟨.tcl, .write, true⟩

/-- The part of the language of a kind. -/
def language (kind : Kind) : Language := kind.axes.language

/-- The effect on data of a kind. -/
def operation (kind : Kind) : Operation := kind.axes.operation

/-- The kinds whose repetition is safe only under a guard such as `IF EXISTS` or `OR REPLACE`. -/
def isGuarded : Kind → Bool
  | .attach | .create | .detach | .drop => true
  | _ => false

/-- The list of kinds is complete. -/
theorem mem_all (kind : Kind) : kind ∈ all := by cases kind <;> decide

/-- A kind is found again by its value. -/
theorem ofValue_value (kind : Kind) : ofValue kind.value = .ok kind := by cases kind <;> rfl

/-- No two kinds have one name. -/
theorem value_inj {a b : Kind} : a.value = b.value ↔ a = b := by
  constructor
  · intro h
    have hread := congrArg ofValue h
    rw [ofValue_value, ofValue_value] at hread
    exact Except.ok.inj hread
  · exact congrArg value

end Kind

end SqlFacts
