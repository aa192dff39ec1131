import SqlFacts.Proofs.Lexeme.Statements
import SqlFacts.Proofs.Token.QuestionMark

/-!
# Placeholders and question marks

A placeholder is a question mark that is a token of its own. So the placeholders of a statement are
the question marks outside literals, quoted identifiers and comments, save for those that an
operator goes on behind: the cast of a placeholder, and two placeholders side by side, are lost.
-/

namespace SqlFacts

open Lexeme

/-- The only placeholder of a token is a mark of its own. -/
theorem placeholders_ofToken (source : List Char) (depth : Int) (token : Token) :
    placeholders (ofToken source depth token) = if token.isMark then [token.start] else [] := by
  unfold ofToken
  dsimp only
  split
  · next hkind => simp [placeholders, Token.isMark, Token.isQuoted, hkind]
  · next hkind => simp [placeholders, Token.isMark, Token.isQuoted, hkind]
  · next hkind => simp [placeholders, Token.isMark, hkind]
  · next hstring hidentifier hnumber =>
    have hmark : token.isMark = (token.text == "?") := by
      simp [Token.isMark, Token.isQuoted, bne, beq_eq_false_iff_ne.mpr hstring,
        beq_eq_false_iff_ne.mpr hidentifier, beq_eq_false_iff_ne.mpr hnumber]
    rw [hmark]
    by_cases htext : token.text = "?"
    · simp [htext, placeholders]
    · rw [if_neg htext, beq_eq_false_iff_ne.mpr htext]
      split
      · rfl
      · next words _ =>
        simp [placeholders, List.filter_map, Function.comp_def]

/-- The placeholders of two runs of lexemes follow each other. -/
theorem placeholders_append (front back : List Lexeme) :
    placeholders (front ++ back) = placeholders front ++ placeholders back := by
  rw [placeholders, List.filter_append, List.map_append]
  rfl

/-- The placeholders of a run of tokens are the marks among them. -/
theorem placeholders_ofTokensAt (source : List Char) (depth : Int) (tokens : List Token) :
    placeholders (ofTokensAt source depth tokens) =
      (tokens.filter Token.isMark).map Token.start := by
  induction tokens generalizing depth with
  | nil => rfl
  | cons token tokens ih =>
    rw [ofTokensAt, placeholders_append, placeholders_ofToken, ih, List.filter_cons]
    split
    · rfl
    · rfl

/-- No placeholder lies outside the only statement of a text. -/
theorem placeholders_headD_statements {lexemes : List Lexeme}
    (h : (statements lexemes).length ≤ 1) :
    placeholders ((statements lexemes).headD []) = placeholders lexemes := by
  have hflatten : (statements lexemes).headD [] = (statements lexemes).flatten := by
    match hstatements : statements lexemes with
    | [] => rfl
    | [statement] => exact (List.append_nil statement).symm
    | _ :: _ :: _ =>
      rw [hstatements] at h
      exact absurd h (by simp)
  rw [hflatten, flatten_statements, placeholders, List.filter_filter, placeholders]
  congr 1
  apply List.filter_congr
  intro lx _
  by_cases hkind : lx.kind = .parameter
  · simp [endsStatement, isSymbol, hkind]
  · simp [hkind]

/-- The parameters of a text with one statement are its question marks outside literals, quoted
identifiers and comments that no operator goes on behind, in ascending order. They are all its
question marks there exactly if none of its tokens is such an operator. -/
theorem parameters_eq_openMarks_iff {sql : String} {tokens : List Token}
    (hscan : Token.scan sql = .ok tokens)
    (hsingle : (statements (ofTokens sql tokens)).length ≤ 1) :
    let parameters := (describeStatement sql).result.parameters
    let marks := Token.openMarks sql.toList tokens
    parameters.Pairwise (· < ·) ∧
      parameters = (marks.filter (!Token.isFused tokens ·)).map Int.ofNat ∧
      (parameters = marks.map Int.ofNat ↔ ∀ token ∈ tokens, token.fusesMark = false) := by
  intro parameters marks
  have hlex : lex sql = .ok (ofTokens sql tokens) := by
    rw [lex, lexBy, hscan]
    rfl
  have hparameters : parameters = (marks.filter (!Token.isFused tokens ·)).map Int.ofNat := by
    rw [← Token.map_start_filter_isMark hscan, ← placeholders_ofTokensAt sql.toList 0,
      ← ofTokens, ← placeholders_headD_statements hsingle]
    simp only [parameters, describeStatement_of_lex_ok hlex]
    rfl
  have hinjective : Function.Injective Int.ofNat := fun _ _ => Int.ofNat.inj
  refine ⟨?_, hparameters, ?_⟩
  · have hmarks : (marks.filter (!Token.isFused tokens ·)).Pairwise (· < ·) :=
      (List.pairwise_lt_range.filter _).filter _
    rw [hparameters]
    exact hmarks.map _ fun _ _ => Int.ofNat_lt.mpr
  · rw [hparameters, hinjective.list_map.eq_iff]
    exact Token.filter_isFused_eq_iff hscan

/-- The tokens of a query with the cast of a placeholder. -/
def castTokens : List Token :=
  [⟨.other, "SELECT", 0, 6⟩, ⟨.other, "?::", 7, 10⟩, ⟨.other, "Int32", 10, 15⟩]

/-- The placeholder in front of a cast is lost. -/
theorem parameters_of_cast :
    let sql := "SELECT ?::Int32"
    Token.scan sql = .ok castTokens ∧ (statements (ofTokens sql castTokens)).length ≤ 1 ∧
      Token.openMarks sql.toList castTokens = [7] ∧
      (describeStatement sql).result.parameters = [] := by
  intro sql
  have hscan : Token.scan sql = .ok castTokens := Token.scan_eq_ok (by decide +kernel)
  have hsingle : (statements (ofTokens sql castTokens)).length ≤ 1 := by decide +kernel
  obtain ⟨-, hparameters, -⟩ := parameters_eq_openMarks_iff hscan hsingle
  refine ⟨hscan, hsingle, by decide +kernel, ?_⟩
  rw [hparameters]
  decide +kernel

end SqlFacts
