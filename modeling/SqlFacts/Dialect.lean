import SqlFacts.Text.Similarity
import SqlFacts.Token.Scan

/-!
# Dialects

Each dialect of SQL has its own way to cut a text into tokens. Which dialects there are is not
settled here: whoever describes statements brings a registry that answers the call of a dialect,
and everything about descriptions holds for any registry. The one at hand knows the dialect of
ClickHouse and the base dialect, which has no name and cuts the statements that both accept alike.
A dialect is called by its name, behind which settings may stand after commas; none of them has an
influence on how the text is cut.
-/

namespace SqlFacts

/-- Why a call finds no dialect: it is refused with a report, or the registry itself breaks. -/
inductive DialectFailure where
  | refused (report : String)
  | broken
  deriving DecidableEq, Repr

/-- A registry of dialects: what the call of a dialect finds. -/
abbrev Dialects := String → Except DialectFailure Tokenizer

namespace Dialects

/-- The names of the dialects at hand that have one. -/
def names : List String := ["clickhouse"]

/-- The name in the call of a dialect: what stands in front of the settings. -/
def calledName (call : String) : String := String.ofList (call.toList.takeWhile (· != ','))

/-- The report on a name that no dialect has. It goes on with the closest known name, if one is
close. -/
def unknownReport (name : String) : String :=
  let suggestion :=
    match Text.closeNames name names with
    | [] => ""
    | closest :: _ => " Did you mean " ++ closest ++ "?"
  "Unknown dialect '" ++ name ++ "'." ++ suggestion

/-- The registry at hand. Blanks around a name do not count, and without a name the base dialect is
meant. -/
def atHand : Dialects := fun call =>
  let name := calledName call
  let trimmed := Text.trim name
  if trimmed.isEmpty || names.contains trimmed then .ok Token.scan
  else .error (.refused (unknownReport name))

end Dialects

end SqlFacts
