import SqlFacts.Dialect
import SqlFacts.Facts.Basic
import SqlFacts.Lexeme.OfTokens
import SqlFacts.Statement.Descriptor

/-!
# Describing statements and scripts

From a text to descriptors: the text is cut into lexemes and these into statements, and the facts
about each statement make its descriptor. Describing never fails once it is settled how to cut. A
text that cannot be cut is left without a kind, and a diagnostic tells of it.
-/

namespace SqlFacts

/-- What is remarked while statements are described. -/
inductive Diagnostic where
  | unreadableStatement
  | unreadableScript
  | scriptSplit (count : Nat)
  deriving DecidableEq, Repr

namespace Diagnostic

/-- The text of a diagnostic, with its severity in front. -/
def text : Diagnostic → String
  | .unreadableStatement => "WARNING could not tokenize statement, leaving it unclassified"
  | .unreadableScript => "WARNING could not tokenize script, leaving it unclassified"
  | .scriptSplit count => "DEBUG split script into " ++ toString count ++ " statements"

/-- Tests whether a diagnostic is a warning. -/
def isWarning : Diagnostic → Bool
  | .unreadableStatement | .unreadableScript => true
  | .scriptSplit _ => false

end Diagnostic

/-- Descriptors, with the diagnostics that arose on the way to them. -/
structure Description (α : Type) where
  result : α
  diagnostics : List Diagnostic

/-- The descriptor that holds the facts about a text. -/
def Descriptor.ofFacts (sql : String) (facts : Facts) : Descriptor where
  sql
  kind := facts.kind
  cluster := facts.target.cluster
  database := facts.target.location.database
  table := tableOrDefault facts.target.location.table
  input := facts.input
  format := facts.format
  outfile := facts.outfile
  parameters := facts.parameters.map Int.ofNat
  positions := .ofList (facts.positions.map fun entry => (entry.1.name, (entry.2 : Int)))
  settings := facts.settings

/-- The descriptor of the first statement of a text with the given lexemes. -/
def Descriptor.ofLexemes (sql : String) (lexemes : List Lexeme) : Descriptor :=
  .ofFacts sql (.ofLexemes sql ((Lexeme.statements lexemes).headD []))

/-- Describes the first statement of a text that is cut in the given way. -/
def describeStatementBy (tokenize : Tokenizer) (sql : String) : Description Descriptor :=
  match Lexeme.lexBy tokenize sql with
  | .error _ => ⟨.unknown sql, [.unreadableStatement]⟩
  | .ok lexemes => ⟨.ofLexemes sql lexemes, []⟩

/-- Describes the first statement of a text. -/
def describeStatement (sql : String) : Description Descriptor := describeStatementBy Token.scan sql

/-- The text of a script from the first to the last lexeme of a statement. -/
def statementText (script : List Char) (statement : List Lexeme) : String :=
  match statement.head?, statement.getLast? with
  | some first, some last => Text.sliceText script first.start last.stop
  | _, _ => ""

/-- Describes every statement of a script that is cut in the given way, each from its own text. -/
def describeScriptBy (tokenize : Tokenizer) (sql : String) : Description (List Descriptor) :=
  match Lexeme.lexBy tokenize sql with
  | .error _ =>
    let descriptors := if (Text.trim sql).isEmpty then [] else [Descriptor.unknown sql]
    ⟨descriptors, [.unreadableScript]⟩
  | .ok lexemes =>
    let texts := (Lexeme.statements lexemes).map (statementText sql.toList)
    let described := texts.map (describeStatementBy tokenize)
    ⟨described.map (·.result),
      described.flatMap (·.diagnostics) ++ [.scriptSplit described.length]⟩

/-- Describes every statement of a script, each from its own text. -/
def describeScript (sql : String) : Description (List Descriptor) := describeScriptBy Token.scan sql

/-- Describes the first statement of a text of the called dialect. -/
def describeStatementIn (dialects : Dialects) (dialect sql : String) :
    Except DialectFailure (Description Descriptor) :=
  (dialects dialect).map fun tokenize => describeStatementBy tokenize sql

/-- Describes every statement of a script of the called dialect. -/
def describeScriptIn (dialects : Dialects) (dialect sql : String) :
    Except DialectFailure (Description (List Descriptor)) :=
  (dialects dialect).map fun tokenize => describeScriptBy tokenize sql

section Equations

variable {sql : String}

theorem describeStatement_of_lex_error {e : TokenError} (h : Lexeme.lex sql = .error e) :
    describeStatement sql = ⟨.unknown sql, [.unreadableStatement]⟩ := by
  rw [describeStatement, describeStatementBy, ← Lexeme.lex, h]

theorem describeStatement_of_lex_ok {lexemes : List Lexeme} (h : Lexeme.lex sql = .ok lexemes) :
    describeStatement sql = ⟨.ofLexemes sql lexemes, []⟩ := by
  rw [describeStatement, describeStatementBy, ← Lexeme.lex, h]

end Equations

end SqlFacts
