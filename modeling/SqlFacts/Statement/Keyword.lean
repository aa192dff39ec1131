/-!
# Tracked keywords

The keywords whose first place in a statement is recorded. Some are asked for by the predicates of
a descriptor; the others let a caller find a clause without reading the text again.
-/

namespace SqlFacts

/-- A keyword whose place in a statement is recorded. -/
inductive Keyword where
  | cluster
  | database
  | exists
  | format
  | «from»
  | infile
  | insert
  | into
  | limit
  | outfile
  | replace
  | select
  | settings
  | table
  | totals
  | values
  | «where»
  | «with»
  deriving DecidableEq, Repr

namespace Keyword

/-- Every tracked keyword. -/
def all : List Keyword :=
  [.cluster, .database, .exists, .format, .from, .infile, .insert, .into, .limit, .outfile,
    .replace, .select, .settings, .table, .totals, .values, .where, .with]

/-- The keyword as it is written, in capitals. -/
def name : Keyword → String
  | .cluster => "CLUSTER"
  | .database => "DATABASE"
  | .exists => "EXISTS"
  | .format => "FORMAT"
  | .from => "FROM"
  | .infile => "INFILE"
  | .insert => "INSERT"
  | .into => "INTO"
  | .limit => "LIMIT"
  | .outfile => "OUTFILE"
  | .replace => "REPLACE"
  | .select => "SELECT"
  | .settings => "SETTINGS"
  | .table => "TABLE"
  | .totals => "TOTALS"
  | .values => "VALUES"
  | .where => "WHERE"
  | .with => "WITH"

/-- The keyword with the given name. -/
def ofName? (name : String) : Option Keyword := all.find? (·.name == name)

/-- A keyword is found again by its name. -/
theorem ofName?_name (keyword : Keyword) : ofName? keyword.name = some keyword := by
  cases keyword <;> rfl

/-- A keyword that was found has the name that was asked for. -/
theorem name_of_ofName? {name : String} {keyword : Keyword} (h : ofName? name = some keyword) :
    keyword.name = name := by
  simpa using List.find?_some h

/-- Different keywords have different names. -/
theorem name_inj {a b : Keyword} (h : a.name = b.name) : a = b := by
  have := ofName?_name a
  rw [h, ofName?_name] at this
  exact (Option.some.inj this).symm

end Keyword

end SqlFacts
