import SqlFacts.Lexeme.Script
import SqlFacts.Facts.Verb

/-!
# Targets

The cluster, the database and the table that a statement works on. Where the name stands depends
on the kind of the statement: behind the object word of a definition, behind `FROM` or `INTO`, or
directly behind the verb. Subqueries and calls of table functions name no table.
-/

namespace SqlFacts

open Lexeme

/-- The database and the table of an object. -/
structure Location where
  database : Option String
  table : Option String
  deriving DecidableEq, Repr

/-- What a statement works on. -/
structure Target where
  cluster : Option String
  location : Location
  deriving DecidableEq, Repr

namespace Location

/-- No object. -/
def none : Location := ⟨.none, .none⟩

/-- The table of a name, with the database in front of it. -/
def ofName : Option DottedName → Location
  | .none => none
  | .some name => ⟨name.qualifier?, name.last?⟩

/-- The location whose database is what was read as a table. -/
def asDatabase (location : Location) : Location := ⟨location.table, .none⟩

end Location

/-- The words that say what sort of object a statement works on. -/
def objectWords : List String := ["TABLE", "VIEW", "DICTIONARY", "DATABASE"]

/-- The words that may stand in front of an object word. -/
def preludeWords : List String :=
  ["OR", "REPLACE", "TEMPORARY", "MATERIALIZED", "LIVE", "WINDOW"]

/-- The words of a guard between an object word and the name. -/
def guardWords : List String := ["IF", "NOT", "EXISTS"]

/-- The number of lexemes in front of the object word that a list begins with, behind a prelude
such as `OR REPLACE`. -/
def objectWordOffset? (lexemes : List Lexeme) : Option Nat :=
  if startsWith (isWord objectWords) (skipWords preludeWords lexemes) then
    some (countWords preludeWords lexemes)
  else none

/-- The index of the object word behind the leading verb, as in `DROP TABLE`,
`CREATE OR REPLACE VIEW`, `INSERT INTO TABLE` and `SHOW CREATE DATABASE`. -/
def objectWordIndex? (lexemes : List Lexeme) (head : Option Nat) : Option Nat :=
  head.bind fun head =>
    let rest := lexemes.drop (head + 1)
    let joined := if startsWith (isWord ["INTO", "CREATE"]) rest then 1 else 0
    (objectWordOffset? (rest.drop joined)).map (head + 1 + joined + ·)

/-- The object in front of a list: a prelude, an object word, a guard and a name. Without an
object word there is no object, unless the word is optional. -/
def objectLocation (wordOptional : Bool) (lexemes : List Lexeme) : Location :=
  match skipWords preludeWords lexemes with
  | [] => .none
  | word :: rest =>
    if word.isWord objectWords then
      let location := Location.ofName (dottedName? (skipWords guardWords rest))
      if word.isWord ["DATABASE"] then location.asDatabase else location
    else if wordOptional then Location.ofName (dottedName? (word :: rest))
    else .none

/-- The object named directly behind the first of the given words. -/
def locationAfter (words : List String) (limit : Int) (lexemes : List Lexeme) : Location :=
  match afterWord? words limit lexemes with
  | none => .none
  | some rest => Location.ofName (objectName? rest)

/-- The object of an `INSERT`: behind `INTO`, where a column list may follow the name. -/
def insertLocation (limit : Int) (lexemes : List Lexeme) : Location :=
  match afterWord? ["INTO"] limit lexemes with
  | none => .none
  | some rest =>
    let rest := skipWords ["TABLE"] rest
    if startsWith (isWord ["FUNCTION"]) rest then .none else Location.ofName (dottedName? rest)

/-- The object of a `SHOW`, behind the verb: that of `SHOW CREATE`, or the database behind `FROM`
or `IN`. -/
def showLocation (limit : Int) (rest : List Lexeme) : Location :=
  if startsWith (isWord ["CREATE"]) rest then objectLocation true (rest.drop 1)
  else (locationAfter ["FROM", "IN"] limit rest).asDatabase

/-- The object of a statement of the given kind that begins with the given verb. -/
def Location.ofBeginning (kind : Kind) (verb : Lexeme) (rest : List Lexeme) : Location :=
  match kind with
  | .select => locationAfter ["FROM"] verb.depth (verb :: rest)
  | .delete => locationAfter ["FROM"] verb.depth rest
  | .insert => insertLocation verb.depth (verb :: rest)
  | .alter | .alterDelete | .alterUpdate | .attach | .check | .create | .detach | .drop |
    .optimize | .rename => objectLocation false rest
  | .describe | .exists | .truncate => objectLocation true rest
  | .update | .watch => Location.ofName (objectName? rest)
  | .use => (Location.ofName (objectName? rest)).asDatabase
  | .show => showLocation verb.depth rest
  | .explain | .grant | .kill | .revoke | .set | .system | .transaction | .unknown => .none

/-- The object of a statement with the given leading word. -/
def Location.ofStatement (lexemes : List Lexeme) (kind : Kind) (head : Option Nat) : Location :=
  match head.map lexemes.drop with
  | some (verb :: rest) => Location.ofBeginning kind verb rest
  | _ => .none

/-- The cluster of an `ON CLUSTER name` clause in front of a list. -/
def clusterHere? (limit : Int) : List Lexeme → Option String
  | on :: cluster :: name :: _ =>
    if on.isWordWithin ["ON"] limit && cluster.isWord ["CLUSTER"] &&
        (name.isIdentifier || name.isString) then some name.text
    else none
  | _ => none

/-- The cluster of the first `ON CLUSTER name` clause whose `ON` is nested no deeper than the
limit. -/
def cluster? (limit : Int) (lexemes : List Lexeme) : Option String :=
  firstSome (clusterHere? limit) lexemes

/-- What a statement with the given leading word works on. -/
def Target.ofStatement (lexemes : List Lexeme) (kind : Kind) (head : Option Nat) : Target :=
  ⟨cluster? (bodyDepth lexemes head) lexemes, Location.ofStatement lexemes kind head⟩

end SqlFacts
