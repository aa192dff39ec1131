import SqlFacts.Proofs.Aligned.Facts
import SqlFacts.Proofs.Facts.Settings
import SqlFacts.Proofs.Lexeme.Statements

/-!
# Statements described in place

A statement of a script is cut out and read again from its own text. If the text is cut into the
same tokens, then this gives what is read from the script itself, with offsets from the start of
the statement: groups left open in front do not count, and every reader moves along.
-/

namespace SqlFacts

open Lexeme Difference

/-- Describes a statement of a script by the lexemes that it has there, with offsets from the start
of its text. -/
def describeInPlace (script : String) (statement : List Lexeme) : Descriptor :=
  let whole := Descriptor.ofFacts script (.ofLexemes script statement)
  let start : Int := (hull statement).start
  { whole with
    sql := statementText script.toList statement
    parameters := whole.parameters.map (· - start)
    positions := whole.positions.map (· - start) }

/-! ### Moved lexemes -/

theorem aligned_map_move (distance : Nat) (limit : Int) (lexemes : List Lexeme) :
    (Difference.moved distance limit).Aligned lexemes (lexemes.map (move distance)) := by
  induction lexemes with
  | nil => exact .nil
  | cons lx lexemes ih =>
    refine .cons ⟨rfl, rfl, rfl, ?_, fun _ => rfl, fun _ => rfl, rfl⟩ ih
    exact (Int.add_zero lx.depth).symm

/-- What moved lexemes reach over is moved. -/
theorem hull_map_move (distance : Nat) {lexemes : List Lexeme} (h : lexemes ≠ []) :
    hull (lexemes.map (move distance)) =
      ⟨(hull lexemes).start + distance, (hull lexemes).stop + distance⟩ := by
  simp only [hull, List.head?_map, List.getLast?_map, List.head?_eq_some_head h,
    List.getLast?_eq_some_getLast h]
  rfl

/-- Facts that are alike for moved lexemes differ in offsets only, if the settings are equal. -/
theorem Difference.FactsAlike.eq_of_moved {distance : Nat} {limit : Int} {facts facts' : Facts}
    (h : (Difference.moved distance limit).FactsAlike facts facts')
    (hsettings : facts'.settings = facts.settings) :
    facts' = { facts with
      parameters := facts.parameters.map (· + distance)
      positions := facts.positions.map fun entry => (entry.1, entry.2 + distance) } := by
  have heq := h.eq rfl
  rw [hsettings, show facts.depth + (Difference.moved distance limit).rise = facts.depth from
    Int.add_zero _] at heq
  exact heq

/-! ### Moved facts -/

section Facts

variable {sql sql' : String} {distance : Nat} {lexemes : List Lexeme}

/-- What is known about the lexemes of a part of a text is known about the same lexemes in the
whole, save that offsets are moved. -/
theorem ofLexemes_map_move (hslice : ∀ start stop, stop ≤ sql.toList.length →
      Text.slice sql'.toList (start + distance) (stop + distance) =
        Text.slice sql.toList start stop)
    (hinside : ∀ lx ∈ lexemes, lx.stop ≤ sql.toList.length) :
    Facts.ofLexemes sql' (lexemes.map (move distance)) =
      let facts := Facts.ofLexemes sql lexemes
      { facts with
        parameters := facts.parameters.map (· + distance)
        positions := facts.positions.map fun entry => (entry.1, entry.2 + distance) } := by
  have halike := (aligned_map_move distance (bodyDepth lexemes (leadingWord? lexemes))
    lexemes).facts id rfl (fun _ => rfl) sql sql'
  refine halike.eq_of_moved ?_
  have hhead : leadingWord? (lexemes.map (move distance)) = leadingWord? lexemes := halike.head
  have hkind : Kind.ofStatement (lexemes.map (move distance))
      (leadingWord? (lexemes.map (move distance))) =
      Kind.ofStatement lexemes (leadingWord? lexemes) := halike.kind
  show readSettings sql' (lexemes.map (move distance)) _ _ = readSettings sql lexemes _ _
  rw [hkind, hhead]
  exact readSettings_map_move hslice rfl rfl hinside _ _

end Facts

/-- Offsets that were moved away from the start of a text are moved back. -/
theorem ofFacts_moved (sql sql' : String) (distance : Nat) {facts : Facts}
    (hnodup : (facts.positions.map Prod.fst).Nodup) :
    let whole := Descriptor.ofFacts sql' { facts with
      parameters := facts.parameters.map (· + distance)
      positions := facts.positions.map fun entry => (entry.1, entry.2 + distance) }
    { whole with
      sql := sql
      parameters := whole.parameters.map (· - (distance : Int))
      positions := whole.positions.map (· - (distance : Int)) } = Descriptor.ofFacts sql facts := by
  intro whole
  have hparameters : whole.parameters.map (· - (distance : Int)) =
      (Descriptor.ofFacts sql facts).parameters := by
    simp only [whole, Descriptor.ofFacts, List.map_map]
    apply List.map_congr_left
    intro offset _
    simp
  have hpositions : whole.positions.map (· - (distance : Int)) =
      (Descriptor.ofFacts sql facts).positions := by
    apply OrderedMap.ext
    rw [OrderedMap.entries_map, entries_positions_ofFacts sql hnodup,
      entries_positions_ofFacts sql']
    · simp only [List.map_map]
      apply List.map_congr_left
      intro entry _
      simp
    · rw [List.map_map]
      exact hnodup
  rw [hparameters, hpositions]
  rfl

/-! ### Statements cut out of a script -/

section Cut

variable {script : String} {tokens own inner : List Token} {i : Nat}
  {statement lexemes : List Lexeme}

/-- The text of a statement has the length of what its lexemes reach over. -/
theorem length_statementText (hne : statement ≠ [])
    (hstop : (hull statement).stop ≤ script.toList.length) :
    (statementText script.toList statement).toList.length =
      (hull statement).stop - (hull statement).start := by
  rw [statementText_eq hne, Text.sliceText, String.toList_ofList, Text.length_slice hstop]

/-- The text of a statement is a part of the script, from the start of the statement on. -/
theorem slice_statementText (hne : statement ≠ [])
    (hproper : (hull statement).start < (hull statement).stop)
    (hstop : (hull statement).stop ≤ script.toList.length) {start stop : Nat}
    (h : stop ≤ (statementText script.toList statement).toList.length) :
    Text.slice script.toList (start + (hull statement).start) (stop + (hull statement).start) =
      Text.slice (statementText script.toList statement).toList start stop := by
  rw [length_statementText hne hstop] at h
  rw [statementText_eq hne, Text.sliceText, String.toList_ofList, Text.slice_slice (by omega),
    Nat.add_comm start, Nat.add_comm stop]

/-- The lexemes of a text that make up a statement elsewhere, moved, are one statement. -/
theorem statements_of_map_move (hmem : statement ∈ statements lexemes) {distance : Nat}
    {others : List Lexeme} (hmoved : statement = others.map (move distance)) :
    statements others = [others] := by
  apply statements_eq_singleton
  · rintro rfl
    exact ne_nil_of_mem_statements hmem hmoved
  · intro lx hlx hends
    have hmoves : lx.move distance ∈ statement := by
      rw [hmoved]
      exact List.mem_map_of_mem hlx
    exact not_endsStatement_of_mem hmem hmoves hends

/-- Lexemes that are the statement, moved to the start of its text, reach over all of the text. -/
theorem statementText_of_map_move (hne : statement ≠ [])
    (hstop : (hull statement).stop ≤ script.toList.length)
    (hmoved : statement = lexemes.map (move (hull statement).start)) :
    statementText (statementText script.toList statement).toList lexemes =
      statementText script.toList statement := by
  have hlexemes : lexemes ≠ [] := by
    rintro rfl
    exact hne hmoved
  have hhull := (congrArg hull hmoved).trans (hull_map_move (hull statement).start hlexemes)
  have hstart : (hull lexemes).start = 0 := by
    have := congrArg Span.start hhull
    simp only at this
    omega
  have hend : (hull lexemes).stop = (statementText script.toList statement).toList.length := by
    have := congrArg Span.stop hhull
    rw [length_statementText hne hstop]
    simp only at this
    omega
  rw [statementText_eq hlexemes, hstart, hend]
  simp [Text.sliceText, Text.slice]

/-- A text is described as its lexemes are, moved, in the script that it is a part of. -/
theorem describeStatement_of_map_move {text : String} (htext : lex text = .ok lexemes)
    (hsingle : statements lexemes = [lexemes])
    (hmoved : statement = lexemes.map (move (hull statement).start))
    (hcut : text = statementText script.toList statement)
    (hslice : ∀ start stop, stop ≤ text.toList.length →
      Text.slice script.toList (start + (hull statement).start) (stop + (hull statement).start) =
        Text.slice text.toList start stop)
    (hinside : ∀ lx ∈ lexemes, lx.stop ≤ text.toList.length) :
    (describeStatement text).result = describeInPlace script statement := by
  have hfacts : Facts.ofLexemes script statement = _ :=
    (congrArg (Facts.ofLexemes script) hmoved).trans (ofLexemes_map_move hslice hinside)
  have hnodup : ((Facts.ofLexemes text lexemes).positions.map Prod.fst).Nodup :=
    nodup_keys_keywordPositions _ _ _
  simp only [describeStatement_of_lex_ok htext, Descriptor.ofLexemes, hsingle, List.headD_cons]
  rw [describeInPlace, hfacts, ← hcut, ← ofFacts_moved text script (hull statement).start hnodup]

/-- If the text of a statement of a script is cut into the tokens of the statement, moved to its
start, then the descriptor of the text is the one that the lexemes in the script give, with offsets
from the start of the statement. The text is one statement, and described likewise as a script. -/
theorem describeScript_in_place (hscan : Token.scan script = .ok tokens)
    (hstatement : (statements (ofTokens script tokens))[i]? = some statement)
    (hown : (Token.statements script.toList tokens)[i]? = some own)
    (hinner : Token.scan (statementText script.toList statement) = .ok inner)
    (hsame : inner.map (Token.move (hull statement).start) = own) :
    let text := statementText script.toList statement
    (describeScript script).result[i]? = some (describeInPlace script statement) ∧
      (∃ lexemes, lex text = .ok lexemes ∧ statements lexemes = [lexemes]) ∧
        (describeScript text).result = [describeInPlace script statement] := by
  intro text
  have hmem : statement ∈ statements (ofTokens script tokens) := List.mem_of_getElem? hstatement
  have hne := ne_nil_of_mem_statements hmem
  obtain ⟨-, hproper, hstop⟩ :=
    (hull_statements_ascending hscan).bounds (List.mem_map_of_mem hmem)
  have hslice (start stop : Nat) (h : stop ≤ text.toList.length) :
      Text.slice script.toList (start + (hull statement).start) (stop + (hull statement).start) =
        Text.slice text.toList start stop := slice_statementText hne hproper hstop h
  have hinside := Token.scan_ascending hinner
  -- The lexemes of the statement are those of its tokens, which are the moved tokens of the text.
  have hlexemes : statement = ofTokensAt script.toList 0 own := by
    rw [Token.statements_ofTokens fun t ht => Token.scan_leftParen hscan ht, List.getElem?_map,
      hown] at hstatement
    exact (Option.some.inj hstatement).symm
  have hmoved : statement = (ofTokens text inner).map (move (hull statement).start) := by
    rw [ofTokens, ← ofTokensAt_move, hsame]
    · exact hlexemes
    · intro token htoken
      exact hslice _ _ (hinside.bounds (List.mem_map_of_mem htoken)).2.2
  have hlexText : lex text = .ok (ofTokens text inner) := by
    rw [lex, lexBy, hinner]
    rfl
  have hlexScript : lex script = .ok (ofTokens script tokens) := by
    rw [lex, lexBy, hscan]
    rfl
  have hsingle := statements_of_map_move hmem hmoved
  have hdescribed : (describeStatement text).result = describeInPlace script statement :=
    describeStatement_of_map_move hlexText hsingle hmoved rfl hslice fun lx hlx =>
      ((ofTokensAt_ascending hinside (Nat.le_refl _) 0).bounds (List.mem_map_of_mem hlx)).2.2
  refine ⟨?_, ⟨_, hlexText, hsingle⟩, ?_⟩
  · rw [describeScript_result hlexScript, List.getElem?_map, hstatement]
    exact congrArg some hdescribed
  · have hwhole : statementText text.toList (ofTokens text inner) = text :=
      statementText_of_map_move hne hstop hmoved
    rw [describeScript_result hlexText, hsingle, List.map_singleton, hwhole, hdescribed]

end Cut

/-- The second statement of a script, with a statement in front and a placeholder. -/
def laterStatement : List Lexeme := [⟨.word, "SELECT", 7, 13, 0⟩, ⟨.parameter, "?", 14, 15, 0⟩]

/-- The placeholder of a later statement has its offset in the text of the statement. -/
theorem describeScript_second_in_place :
    (describeScript "USE a; SELECT ?").result[1]? =
        some (describeInPlace "USE a; SELECT ?" laterStatement) ∧
      (describeInPlace "USE a; SELECT ?" laterStatement).parameters = [7] := by
  have hscan : Token.scan "USE a; SELECT ?" = .ok
      [⟨.other, "USE", 0, 3⟩, ⟨.other, "a", 4, 5⟩, ⟨.other, ";", 5, 6⟩,
        ⟨.other, "SELECT", 7, 13⟩, ⟨.other, "?", 14, 15⟩] :=
    Token.scan_eq_ok (by decide +kernel)
  have hinner : Token.scan (statementText "USE a; SELECT ?".toList laterStatement) = .ok
      [⟨.other, "SELECT", 0, 6⟩, ⟨.other, "?", 7, 8⟩] :=
    Token.scan_eq_ok (by decide +kernel)
  have hplace := describeScript_in_place (i := 1) hscan (by decide +kernel) (by decide +kernel)
    hinner rfl
  exact ⟨hplace.1, by decide +kernel⟩

end SqlFacts
