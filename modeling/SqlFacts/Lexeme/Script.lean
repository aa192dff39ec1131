import SqlFacts.Lexeme.Basic

/-!
# Statements of a script

A script is cut into statements at the semicolons outside all parentheses; empty statements are
dropped. A statement is introduced by its leading word, which may stand behind opening
parentheses, and its body lies at the depth of that word.
-/

namespace SqlFacts.Lexeme

/-- Tests for a semicolon outside all parentheses. -/
def endsStatement (lx : Lexeme) : Bool := lx.depth == 0 && lx.isSymbol ";"

/-- The lexemes up to each end of a statement, with empty groups. -/
def pieces : List Lexeme → List (List Lexeme)
  | [] => [[]]
  | lx :: rest =>
    if lx.endsStatement then [] :: pieces rest
    else
      match pieces rest with
      | [] => [[lx]]
      | piece :: others => (lx :: piece) :: others

/-- The statements of a script. -/
def statements (lexemes : List Lexeme) : List (List Lexeme) :=
  (pieces lexemes).filter (!·.isEmpty)

/-- The index of the leading word of a statement. -/
def leadingWord? : List Lexeme → Option Nat
  | [] => none
  | lx :: rest =>
    if lx.kind = .word then some 0
    else if lx.isSymbol "(" then (leadingWord? rest).map (· + 1)
    else none

/-- The depth of the body of a statement with the given leading word. -/
def bodyDepth (lexemes : List Lexeme) (head : Option Nat) : Int :=
  ((head.bind (lexemes[·]?)).map depth).getD 0

/-- No piece is missing: there is always one. -/
theorem pieces_ne_nil (lexemes : List Lexeme) : pieces lexemes ≠ [] := by
  cases lexemes with
  | nil => simp [pieces]
  | cons lx rest =>
    simp only [pieces]
    split
    · simp
    · split <;> simp

end SqlFacts.Lexeme
