import SqlFacts.Facts.Target
import SqlFacts.Statement.Keyword

/-!
# Positions of keywords

The first place of each tracked keyword at or above the depth of the statement. A word is passed
over where it is a column, or where its neighbours show that it is not used as the keyword.
-/

namespace SqlFacts

open Lexeme

/-- Tests whether a word between the given neighbours is used as a name, as in
`SELECT database, table FROM t`. -/
def isColumnName (previous next : Option Lexeme) : Bool :=
  previous.any (isSymbol ".") ||
    next.any fun lx =>
      lx.isWord ["AS", Keyword.from.name] || lx.isSymbol "," || lx.isSymbol "=" || lx.isSymbol "."

/-- Tests whether a keyword between the given neighbours is used as one. `TOTALS` stands behind
`WITH`, `REPLACE` behind `OR` or at the very front, `EXISTS` not in front of a subquery, `TABLE`
and `DATABASE` as the object word, and `VALUES` in the data part of an insertion. -/
def Keyword.isUsed (isObjectWord inData : Bool) (previous next : Option Lexeme) :
    Keyword → Bool
  | .totals => previous.any (isWord [Keyword.with.name])
  | .replace => previous.all (isWord ["OR"])
  | .exists => !next.any (isSymbol "(")
  | .table | .database => isObjectWord
  | .values => inData
  | _ => true

/-- The tracked keyword that a lexeme reads as, if it is a word nested no deeper than the
limit. -/
def keywordWithin? (limit : Int) (lx : Lexeme) : Option Keyword :=
  if lx.kind == .word && lx.depth ≤ limit then Keyword.ofName? lx.capitals else none

/-- What a scan for keywords knows at a lexeme: its index, the lexeme in front of it, whether it
may lie in the data part of an insertion, and the keywords found so far. -/
structure ScanState where
  index : Nat
  previous : Option Lexeme
  inData : Bool
  found : List Keyword

/-- The first places of the keywords not found so far. Behind a `SELECT` follows a query, not the
data of an insertion. -/
def positionsFrom (limit : Int) (objectWord : Option Nat) : ScanState → List Lexeme →
    List (Keyword × Nat)
  | _, [] => []
  | state, lx :: rest =>
    let after : ScanState := ⟨state.index + 1, some lx, state.inData, state.found⟩
    match keywordWithin? limit lx with
    | none => positionsFrom limit objectWord after rest
    | some keyword =>
      let after := { after with inData := state.inData && keyword != .select }
      let next := rest.head?
      if !state.found.contains keyword && !isColumnName state.previous next &&
          keyword.isUsed (objectWord == some state.index) after.inData state.previous next then
        (keyword, lx.start) ::
          positionsFrom limit objectWord { after with found := keyword :: state.found } rest
      else positionsFrom limit objectWord after rest

/-- The first places of the tracked keywords in a statement with the given leading word, in the
order of the statement. -/
def keywordPositions (lexemes : List Lexeme) (kind : Kind) (head : Option Nat) :
    List (Keyword × Nat) :=
  positionsFrom (bodyDepth lexemes head) (objectWordIndex? lexemes head)
    ⟨0, none, kind == .insert, []⟩ lexemes

end SqlFacts
