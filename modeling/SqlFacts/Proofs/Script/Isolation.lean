import SqlFacts.Proofs.Script.InPlace

/-!
# Statements on their own

A script is cut at the ends of its statements, so scripts that are joined by such an end have the
statements of the one and then those of the other. What is known about a statement is read from its
own lexemes, and from the text between the first and the last of them. The main statement puts the
two together: the descriptor of a text depends on its first statement alone, whatever stands in
front of the statement or behind it.
-/

namespace SqlFacts

open Lexeme

section Own

variable {sql sql' : String} {statement : List Lexeme}

/-- Lexemes in order are those of a text of their own, moved to where they begin. -/
theorem exists_map_move {lo hi : Nat} (h : Span.Ascending lo hi (statement.map span)) :
    ∃ own : List Lexeme, statement = own.map (move (hull statement).start) := by
  let back (lx : Lexeme) : Lexeme :=
    { lx with
      start := lx.start - (hull statement).start
      stop := lx.stop - (hull statement).start }
  refine ⟨statement.map back, ?_⟩
  rw [List.map_map]
  refine (List.map_id statement).symm.trans (List.map_congr_left fun lx hlx => ?_)
  have hbegins := (hull_covers h hlx).1
  have hproper := (h.bounds (List.mem_map_of_mem hlx)).2.1
  simp only [span] at hbegins hproper
  simp only [id_eq, Function.comp_apply, move, back]
  rw [Nat.sub_add_cancel hbegins, Nat.sub_add_cancel (by omega)]

/-- What is known about a statement is read from its lexemes and the text that they reach over. -/
theorem ofLexemes_congr (h : Span.Ascending 0 sql.toList.length (statement.map span))
    (h' : Span.Ascending 0 sql'.toList.length (statement.map span))
    (htext : statementText sql'.toList statement = statementText sql.toList statement) :
    Facts.ofLexemes sql' statement = Facts.ofLexemes sql statement := by
  by_cases hne : statement = []
  · subst hne
    rfl
  obtain ⟨own, hown⟩ := exists_map_move h
  obtain ⟨-, hproper, hstop⟩ := hull_bounds h hne
  have hstop' := (hull_bounds h' hne).2.2
  have hends : ∀ lx ∈ own.map (move (hull statement).start), lx.stop ≤ (hull statement).stop := by
    rw [← hown]
    exact fun lx hlx => (hull_covers h hlx).2
  have hinside : ∀ lx ∈ own, lx.stop ≤ (statementText sql.toList statement).toList.length := by
    intro lx hlx
    have hend := hends _ (List.mem_map_of_mem hlx)
    rw [length_statementText hne hstop]
    simp only [move] at hend
    omega
  -- Both texts hold the text of the statement, and the facts are those of that text, moved.
  have hmoved := ofLexemes_map_move
    (fun start stop hin => slice_statementText hne hproper hstop hin) hinside
  have hslice' : ∀ start stop, stop ≤ (statementText sql.toList statement).toList.length →
      Text.slice sql'.toList (start + (hull statement).start) (stop + (hull statement).start) =
        Text.slice (statementText sql.toList statement).toList start stop := by
    rw [← htext]
    exact fun start stop hin => slice_statementText hne hproper hstop' hin
  have hmoved' := ofLexemes_map_move hslice' hinside
  rw [← hown] at hmoved hmoved'
  exact hmoved'.trans hmoved.symm

end Own

/-- The first statement of a text lies in order inside the text. -/
theorem headD_statements_ascending {sql : String} {lexemes : List Lexeme}
    (h : lex sql = .ok lexemes) :
    Span.Ascending 0 sql.toList.length (((statements lexemes).headD []).map span) :=
  (lex_ascending h).sublist ((headD_statements_sublist lexemes).map span)

/-- Scripts that are joined by the end of a statement have the statements of both. No statement is
empty or holds an end, and together they are the script without its ends. So the descriptor of a
text depends on the first statement alone: texts that begin with the same statement, and have the
same text where it stands, are described alike, save that each descriptor holds its own text. -/
theorem statements_isolated :
    (∀ (front back : List Lexeme) (ending : Lexeme), ending.endsStatement = true →
      statements (front ++ ending :: back) = statements front ++ statements back) ∧
    (∀ lexemes : List Lexeme,
      (∀ statement ∈ statements lexemes,
        statement ≠ [] ∧ ∀ lx ∈ statement, lx.endsStatement = false) ∧
      (statements lexemes).flatten = lexemes.filter (!·.endsStatement)) ∧
    ∀ (sql sql' : String) (lexemes lexemes' : List Lexeme),
      lex sql = .ok lexemes → lex sql' = .ok lexemes' →
      let statement := (statements lexemes).headD []
      (statements lexemes').headD [] = statement →
      statementText sql'.toList statement = statementText sql.toList statement →
        (describeStatement sql').result = { (describeStatement sql).result with sql := sql' } := by
  refine ⟨fun front back ending => statements_append_of_ends front back, fun lexemes => ?_, ?_⟩
  · refine ⟨fun statement hmem => ⟨ne_nil_of_mem_statements hmem, fun lx hlx => ?_⟩,
      flatten_statements lexemes⟩
    exact Bool.eq_false_iff.mpr (not_endsStatement_of_mem hmem hlx)
  · intro sql sql' lexemes lexemes' hlex hlex' statement hsame htext
    have hascending : Span.Ascending 0 sql.toList.length (statement.map span) :=
      headD_statements_ascending hlex
    have hascending' : Span.Ascending 0 sql'.toList.length (statement.map span) :=
      hsame ▸ headD_statements_ascending hlex'
    rw [result_describeStatement hlex, result_describeStatement hlex', hsame,
      ofLexemes_congr hascending hascending' htext]
    rfl

/-- The lexemes of a query with a setting, behind two characters of other text. -/
def computedSetting : List Lexeme :=
  [⟨.word, "SELECT", 2, 8, 0⟩, ⟨.parameter, "?", 9, 10, 0⟩, ⟨.word, "SETTINGS", 11, 19, 0⟩,
    ⟨.word, "a", 20, 21, 0⟩, ⟨.symbol, "=", 22, 23, 0⟩, ⟨.number, "1", 24, 25, 0⟩,
    ⟨.symbol, "+", 26, 27, 0⟩, ⟨.number, "1", 28, 29, 0⟩]

/-- The lexemes of a removal behind the query, in a group that is left open. -/
def openRemoval : List Lexeme :=
  [⟨.word, "DROP", 31, 35, 0⟩, ⟨.symbol, "(", 36, 37, 0⟩, ⟨.word, "t", 37, 38, 1⟩]

/-- A query has the same descriptor behind an empty statement and in front of an open group. -/
theorem statements_isolated_computedSetting :
    let sql := "; SELECT ? SETTINGS a = 1 + 1"
    let sql' := "  SELECT ? SETTINGS a = 1 + 1; DROP (t"
    let ending : Lexeme := ⟨.symbol, ";", 29, 30, 0⟩
    lex sql = .ok (⟨.symbol, ";", 0, 1, 0⟩ :: computedSetting) ∧
      lex sql' = .ok (computedSetting ++ ending :: openRemoval) ∧
      statements (computedSetting ++ ending :: openRemoval) =
        statements computedSetting ++ statements openRemoval ∧
      (describeStatement sql').result = { (describeStatement sql).result with sql := sql' } ∧
      (describeStatement sql').result.settings.entries = [("a", "1 + 1")] := by
  intro sql sql' ending
  have hlex : lex sql = .ok (⟨.symbol, ";", 0, 1, 0⟩ :: computedSetting) :=
    Token.eq_ok_of_toOption (by decide +kernel)
  have hlex' : lex sql' = .ok (computedSetting ++ ending :: openRemoval) :=
    Token.eq_ok_of_toOption (by decide +kernel)
  obtain ⟨happend, -, hdescribed⟩ := statements_isolated
  refine ⟨hlex, hlex', happend computedSetting openRemoval ending (by decide),
    hdescribed sql sql' _ _ hlex hlex' (by decide +kernel) (by decide +kernel), ?_⟩
  rw [describeStatement_of_lex_ok hlex']
  decide +kernel

end SqlFacts
