/-!
# TOML values

Values of TOML and the tables that hold them. Fractions and points in time are kept as they are
written. Tables are opened along a path of keys, which makes the tables that are missing.
-/

namespace SqlFacts.Toml

/-- A value of a TOML document. -/
inductive Value where
  | text (value : String)
  | integer (value : Int)
  | fraction (written : String)
  | boolean (value : Bool)
  | moment (written : String)
  | array (items : List Value)
  | table (entries : List (String × Value))

/-- The entries of a table, in the order in which they were made. -/
abbrev Table := List (String × Value)

/-- A path of keys into a table. -/
abbrev Path := List String

namespace Value

/-- Tests for a value that holds other values. -/
def isContainer : Value → Bool
  | .array _ | .table _ => true
  | _ => false

end Value

namespace Table

/-- Gives a key a value: in its place if it has one, at the end otherwise. -/
def put (key : String) (value : Value) : Table → Table
  | [] => [(key, value)]
  | (k, v) :: rest => if k = key then (k, value) :: rest else (k, v) :: put key value rest

/-- Changes the table at the end of a path. Missing tables on the way are made; where the path
meets an array it goes on in the last table of it, if that is allowed. There is no result if the
path meets another value, or if the change has none. -/
def openAt (throughArrays : Bool) (edit : Table → Option Table) : Path → Table → Option Table
  | [], table => edit table
  | key :: path, table =>
    match table.lookup key with
    | none => (openAt throughArrays edit path []).map fun inner => put key (.table inner) table
    | some (.table inner) =>
      (openAt throughArrays edit path inner).map fun inner => put key (.table inner) table
    | some (.array items) =>
      match throughArrays, items.getLast? with
      | true, some (.table inner) =>
        (openAt throughArrays edit path inner).map fun inner =>
          put key (.array (items.dropLast ++ [.table inner])) table
      | _, _ => none
    | some _ => none

/-- Adds an entry whose key must be new. -/
def add? (key : String) (value : Value) (table : Table) : Option Table :=
  if (table.lookup key).isSome then none else some (put key value table)

/-- Adds an empty table to the array of a key, which is made if it is missing. -/
def addToArray? (key : String) (table : Table) : Option Table :=
  match table.lookup key with
  | none => some (put key (.array [.table []]) table)
  | some (.array items) => some (put key (.array (items ++ [.table []])) table)
  | some _ => none

end Table

end SqlFacts.Toml
