import SqlFacts.Lexeme.Reading
import SqlFacts.Statement.Kind

/-!
# Kinds by leading word

The kind of a statement is told by its leading word. Two words need a look further: `START` only
begins a transaction in front of `TRANSACTION`, and an `ALTER` whose command is `DELETE` or
`UPDATE` changes rows. A statement without a known leading word is of unknown kind.
-/

namespace SqlFacts

open Lexeme

/-- The kind that a leading word announces by itself. -/
def Kind.ofVerb (verb : String) : Kind :=
  match verb with
  | "ALTER" => .alter
  | "ATTACH" => .attach
  | "BEGIN" => .transaction
  | "CHECK" => .check
  | "COMMIT" => .transaction
  | "CREATE" => .create
  | "DELETE" => .delete
  | "DESC" => .describe
  | "DESCRIBE" => .describe
  | "DETACH" => .detach
  | "DROP" => .drop
  | "EXISTS" => .exists
  | "EXPLAIN" => .explain
  | "GRANT" => .grant
  | "INSERT" => .insert
  | "KILL" => .kill
  | "OPTIMIZE" => .optimize
  | "RENAME" => .rename
  | "REVOKE" => .revoke
  | "ROLLBACK" => .transaction
  | "SELECT" => .select
  | "SET" => .set
  | "SHOW" => .show
  | "SYSTEM" => .system
  | "TRUNCATE" => .truncate
  | "UPDATE" => .update
  | "USE" => .use
  | "WATCH" => .watch
  | "WITH" => .select
  | _ => .unknown

/-- What is left behind an `ON CLUSTER name` clause, if one stands in front. -/
def skipCluster : List Lexeme → List Lexeme
  | on :: cluster :: name :: rest =>
    if on.isWord ["ON"] && cluster.isWord ["CLUSTER"] then rest else on :: cluster :: name :: rest
  | lexemes => lexemes

/-- The kind of an `ALTER`, told by the command behind the altered name. -/
def Kind.ofAlteration (lexemes : List Lexeme) : Kind :=
  match dottedName? (skipWords ["TABLE", "TEMPORARY"] lexemes) with
  | none => .alter
  | some name =>
    let command := skipCluster name.rest
    if startsWith (isWord ["DELETE"]) command then .alterDelete
    else if startsWith (isWord ["UPDATE"]) command then .alterUpdate
    else .alter

/-- The kind of the statement that begins with the given lexemes. -/
def Kind.ofBeginning : List Lexeme → Kind
  | [] => .unknown
  | verb :: rest =>
    if verb.capitals = "START" then
      if startsWith (isWord ["TRANSACTION"]) rest then .transaction else .unknown
    else
      match Kind.ofVerb verb.capitals with
      | .alter => Kind.ofAlteration rest
      | kind => kind

/-- The kind of a statement with the given leading word. -/
def Kind.ofStatement (lexemes : List Lexeme) : (head : Option Nat) → Kind
  | none => .unknown
  | some head => Kind.ofBeginning (lexemes.drop head)

end SqlFacts
