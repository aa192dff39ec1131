import SqlFacts.Proofs.Facts.Positions
import SqlFacts.Proofs.Facts.Settings
import SqlFacts.Proofs.Lexeme.Statements

/-!
# Settings and the place of their clause

Two scans look for the word `SETTINGS`. The one for places passes over it where it is the name of a
column; the one for settings stops at the first. So the settings of a statement are those of the
clause whose place is recorded, unless a column called `settings` stands in front of it. The main
statement says exactly when the two agree, and that what is lost is the whole clause: the settings
are empty unless an assignment follows the column.
-/

namespace SqlFacts

open Lexeme

/-- The lexemes of a statement around the word `SETTINGS` at a place: those in front of it and those
of its clause behind it. No other lexeme begins at the place, and wherever the word stands in front
it is the name of a column. -/
structure SettingsClause (statement : List Lexeme) (limit place : Int) (before : List Lexeme)
    (word : Lexeme) (clause : List Lexeme) : Prop where
  split : statement = before ++ word :: clause
  start : (word.start : Int) = place
  isWordWithin : word.isWordWithin [Keyword.settings.name] limit = true
  alone : ∀ lx ∈ before ++ clause, (lx.start : Int) ≠ place
  isColumnName : ∀ front lx back, before = front ++ lx :: back →
    lx.isWordWithin [Keyword.settings.name] limit = true →
      isColumnName front.getLast? (back ++ word :: clause).head? = true

/-- The word `SETTINGS` is used as a keyword wherever it is no name of a column. -/
theorem usedAt_settings_iff {limit : Int} {objectWord : Option Nat} {insertion : Bool}
    {before after : List Lexeme} {lx : Lexeme} :
    Keyword.settings.usedAt limit objectWord insertion before lx after = true ↔
      lx.isWordWithin [Keyword.settings.name] limit = true ∧
        isColumnName before.getLast? after.head? = false :=
  usedAt_iff_of_isUsed fun _ _ _ _ => rfl

section Clause

variable {statement before clause : List Lexeme} {word : Lexeme} {limit place : Int}

namespace SettingsClause

variable (h : SettingsClause statement limit place before word clause)

include h

/-- The clause is what stands behind the lexeme at the place. -/
theorem clause_eq : clause = (seek (fun lx => (lx.start : Int) == place) statement).drop 1 := by
  have hbefore : ∀ lx ∈ before, (!((lx.start : Int) == place)) = true := by
    intro lx hlx
    rw [beq_eq_false_iff_ne.mpr (h.alone lx (List.mem_append_left _ hlx))]
    rfl
  have hword : ¬ (!((word.start : Int) == place)) = true := by
    rw [h.start, beq_self_eq_true]
    exact Bool.false_ne_true
  have hseek : seek (fun lx => (lx.start : Int) == place) statement = word :: clause := by
    rw [h.split, seek, List.dropWhile_append_of_pos hbefore]
    exact List.dropWhile_cons_of_neg hword
  rw [hseek]
  rfl

/-- The settings are read behind the first word `SETTINGS` in front of the clause, and from the
clause if there is none. -/
theorem settings_ofLexemes (sql : String) (hkind : (Facts.ofLexemes sql statement).kind ≠ .set)
    (hlimit : limit = bodyDepth statement (leadingWord? statement)) :
    (Facts.ofLexemes sql statement).settings =
      .ofList (assignments sql.toList
        (((afterWord? [Keyword.settings.name] limit before).map (· ++ word :: clause)).getD
          clause)) := by
  have hsettings : (Facts.ofLexemes sql statement).settings =
      .ofList (assignments sql.toList (settingsLexemes statement
        (Facts.ofLexemes sql statement).kind (leadingWord? statement))) := rfl
  rw [hsettings, settingsLexemes_of_ne_set hkind, ← hlimit, h.split, afterWord?_append,
    afterWord?_cons_of_pos h.isWordWithin]
  cases afterWord? [Keyword.settings.name] limit before <;> rfl

end SettingsClause

/-- The recorded place of `SETTINGS` is that of a clause. -/
theorem exists_settingsClause {sql : String} (hascending : statement.Pairwise (·.start < ·.start))
    (hplace : (Descriptor.ofFacts sql (Facts.ofLexemes sql statement)).positions.get?
      Keyword.settings.name = some place) :
    ∃ before word clause, SettingsClause statement (bodyDepth statement (leadingWord? statement))
      place before word clause := by
  rw [get?_positions_ofLexemes] at hplace
  obtain ⟨word, hfirst, rfl⟩ := Option.map_eq_some_iff.mp hplace
  obtain ⟨before, clause, hsplit, hused, hunused⟩ := firstUse?_eq_some_iff.mp hfirst
  rw [List.nil_append, usedAt_settings_iff] at hused
  refine ⟨before, word, clause, hsplit, rfl, hused.1, ?_, ?_⟩
  · intro lx hlx
    show (lx.start : Int) ≠ (word.start : Int)
    rw [hsplit, List.pairwise_append, List.pairwise_cons] at hascending
    obtain ⟨-, ⟨hbehind, -⟩, hahead⟩ := hascending
    rcases List.mem_append.mp hlx with hlx | hlx
    · have := hahead lx hlx word List.mem_cons_self
      omega
    · have := hbehind lx hlx
      omega
  · intro front lx back hbefore hword
    have hnot := hunused front lx back hbefore
    rw [List.nil_append, usedAt_settings_iff, not_and, Bool.not_eq_false] at hnot
    exact hnot hword

end Clause

/-- The settings of a statement that is no `SET` are those of the clause whose place is recorded
exactly if nothing else is read behind a column called `settings` in front of it. Behind such a
column they are empty unless an assignment follows it. -/
theorem settings_eq_clause_iff {sql : String} {place : Int}
    (hkind : (describeStatement sql).result.kind ≠ .set)
    (hplace : (describeStatement sql).result.positions.get? Keyword.settings.name = some place) :
    ∃ lexemes before word clause, lex sql = .ok lexemes ∧
      let statement := (statements lexemes).headD []
      let limit := bodyDepth statement (leadingWord? statement)
      let settings := (describeStatement sql).result.settings
      let read (list : List Lexeme) := OrderedMap.ofList (assignments sql.toList list)
      let behindColumn? := afterWord? [Keyword.settings.name] limit before
      SettingsClause statement limit place before word clause ∧
        (settings = read clause ↔
          ∀ rest, behindColumn? = some rest → read (rest ++ word :: clause) = read clause) ∧
        ∀ rest, behindColumn? = some rest →
          beginsAssignment (rest ++ word :: clause) = false → settings = .empty := by
  cases hlex : lex sql with
  | error e =>
    simp only [describeStatement_of_lex_error hlex] at hplace
    cases hplace
  | ok lexemes =>
    simp only [describeStatement_of_lex_ok hlex] at hkind hplace ⊢
    obtain ⟨before, word, clause, hclause⟩ :=
      exists_settingsClause (pairwise_start_headD_statements hlex) hplace
    have hsettings := hclause.settings_ofLexemes sql hkind rfl
    refine ⟨lexemes, before, word, clause, rfl, hclause, ?_, ?_⟩
    · rw [Descriptor.ofLexemes, Descriptor.ofFacts, hsettings]
      cases afterWord? [Keyword.settings.name] _ before with
      | none => simp
      | some rest => simp
    · intro rest hrest hnone
      rw [Descriptor.ofLexemes, Descriptor.ofFacts, hsettings, hrest, Option.map_some,
        Option.getD_some, assignments_of_not_begins hnone]
      rfl

/-- The lexemes of a query with a column called `settings` and a setting. -/
def settingsColumnQuery : List Lexeme :=
  [⟨.word, "SELECT", 0, 6, 0⟩, ⟨.word, "settings", 7, 15, 0⟩, ⟨.symbol, ",", 15, 16, 0⟩,
    ⟨.word, "a", 17, 18, 0⟩, ⟨.word, "FROM", 19, 23, 0⟩, ⟨.word, "t", 24, 25, 0⟩,
    ⟨.word, "SETTINGS", 26, 34, 0⟩, ⟨.word, "max_threads", 35, 46, 0⟩, ⟨.symbol, "=", 47, 48, 0⟩,
    ⟨.number, "1", 49, 50, 0⟩]

/-- A column called `settings` hides the clause. -/
theorem settings_settingsColumnQuery :
    let sql := "SELECT settings, a FROM t SETTINGS max_threads = 1"
    (describeStatement sql).result.kind ≠ .set ∧
      (describeStatement sql).result.positions.get? Keyword.settings.name = some 26 ∧
      (describeStatement sql).result.settings = .empty ∧
      ∃ before word clause, SettingsClause settingsColumnQuery 0 26 before word clause ∧
        assignments sql.toList clause = [("max_threads", "1")] := by
  intro sql
  have hlex : lex sql = .ok settingsColumnQuery := Token.eq_ok_of_toOption (by decide +kernel)
  have hdescribed : (describeStatement sql).result.kind ≠ .set ∧
      (describeStatement sql).result.positions.get? Keyword.settings.name = some 26 ∧
      (describeStatement sql).result.settings = .empty := by
    rw [describeStatement_of_lex_ok hlex]
    decide +kernel
  obtain ⟨hkind, hplace, hempty⟩ := hdescribed
  obtain ⟨lexemes, before, word, clause, hlexemes, hclause, -⟩ :=
    settings_eq_clause_iff hkind hplace
  cases Except.ok.inj (hlexemes.symm.trans hlex)
  have hstatement : (statements settingsColumnQuery).headD [] = settingsColumnQuery := by
    decide +kernel
  rw [hstatement] at hclause
  refine ⟨hkind, hplace, hempty, before, word, clause, hclause, ?_⟩
  rw [hclause.clause_eq]
  decide +kernel

end SqlFacts
