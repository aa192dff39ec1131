import Mathlib.Data.List.Flatten
import SqlFacts.Description
import SqlFacts.Proofs.Lexeme.Order

/-!
# Statements and their tokens

The lexemes of a statement are those of a run of tokens, read from depth zero on: behind a
semicolon that ends a statement no group is open, whatever was left open or closed too often in
front of it. The spans of the statements of a script follow each other.
-/

namespace SqlFacts

open Lexeme

namespace Lexeme

/-! ### Cutting at the ends of statements -/

/-- A lexeme ends the first piece or belongs to it. -/
theorem pieces_cons (lx : Lexeme) (rest : List Lexeme) :
    pieces (lx :: rest) =
      if lx.endsStatement then [] :: pieces rest else (pieces rest).modifyHead (lx :: ·) := by
  rw [pieces]
  split
  · rfl
  · cases hrest : pieces rest with
    | nil => exact absurd hrest (pieces_ne_nil rest)
    | cons piece others => rfl

/-- Lexemes that end no statement belong to the first piece. -/
theorem pieces_append {lexemes : List Lexeme} (h : ∀ lx ∈ lexemes, ¬ lx.endsStatement = true)
    (rest : List Lexeme) : pieces (lexemes ++ rest) = (pieces rest).modifyHead (lexemes ++ ·) := by
  induction lexemes with
  | nil =>
    rw [List.nil_append]
    cases pieces rest <;> rfl
  | cons lx lexemes ih =>
    rw [List.cons_append, pieces_cons, if_neg (h lx List.mem_cons_self),
      ih fun l hl => h l (List.mem_cons_of_mem _ hl)]
    cases pieces rest <;> rfl

/-- The end of a statement cuts a script in two. -/
theorem pieces_append_of_ends (front back : List Lexeme) {ending : Lexeme}
    (h : ending.endsStatement = true) :
    pieces (front ++ ending :: back) = pieces front ++ pieces back := by
  induction front with
  | nil =>
    rw [List.nil_append, pieces_cons, if_pos h]
    rfl
  | cons lx front ih =>
    rw [List.cons_append, pieces_cons, pieces_cons, ih]
    cases hfront : pieces front with
    | nil => exact absurd hfront (pieces_ne_nil front)
    | cons piece others =>
      split
      · rfl
      · rfl

/-- The statements of two scripts follow each other across the end of a statement. -/
theorem statements_append_of_ends (front back : List Lexeme) {ending : Lexeme}
    (h : ending.endsStatement = true) :
    statements (front ++ ending :: back) = statements front ++ statements back := by
  rw [statements, pieces_append_of_ends front back h, List.filter_append]
  rfl

/-- The pieces hold all lexemes but the ends of statements. -/
theorem flatten_pieces (lexemes : List Lexeme) :
    (pieces lexemes).flatten = lexemes.filter (!·.endsStatement) := by
  induction lexemes with
  | nil => rfl
  | cons lx rest ih =>
    rw [pieces_cons, List.filter_cons]
    by_cases h : lx.endsStatement = true
    · simpa [h] using ih
    · cases hrest : pieces rest with
      | nil => exact absurd hrest (pieces_ne_nil rest)
      | cons piece others =>
        rw [hrest] at ih
        simpa [h] using ih

/-- The statements hold all lexemes but their ends. -/
theorem flatten_statements (lexemes : List Lexeme) :
    (statements lexemes).flatten = lexemes.filter (!·.endsStatement) := by
  rw [statements, List.flatten_filter_not_isEmpty, flatten_pieces]

/-- No statement is empty. -/
theorem ne_nil_of_mem_statements {lexemes statement : List Lexeme}
    (h : statement ∈ statements lexemes) : statement ≠ [] := by
  have := (List.mem_filter.mp h).2
  simpa using this

/-- No lexeme of a statement ends it. -/
theorem not_endsStatement_of_mem {lexemes statement : List Lexeme}
    (h : statement ∈ statements lexemes) {lx : Lexeme} (hlx : lx ∈ statement) :
    ¬ lx.endsStatement = true := by
  have hmem : lx ∈ (statements lexemes).flatten := List.mem_flatten.mpr ⟨statement, h, hlx⟩
  rw [flatten_statements] at hmem
  simpa using (List.mem_filter.mp hmem).2

/-- Lexemes that end no statement make up one statement. -/
theorem statements_eq_singleton {lexemes : List Lexeme} (hne : lexemes ≠ [])
    (h : ∀ lx ∈ lexemes, ¬ lx.endsStatement = true) : statements lexemes = [lexemes] := by
  have hpieces := pieces_append h []
  rw [List.append_nil] at hpieces
  simp [statements, hpieces, pieces, hne]

/-! ### Spans of statements -/

/-- The part of a text from the first to the last of some lexemes. -/
def hull (lexemes : List Lexeme) : Span :=
  ⟨(lexemes.head?.map start).getD 0, (lexemes.getLast?.map stop).getD 0⟩

/-- The text of a statement is what its lexemes reach over. -/
theorem statementText_eq {script : List Char} {statement : List Lexeme} (h : statement ≠ []) :
    statementText script statement =
      Text.sliceText script (hull statement).start (hull statement).stop := by
  simp [statementText, hull, List.head?_eq_some_head h, List.getLast?_eq_some_getLast h]

section Hull

variable {lo hi : Nat} {lexemes : List Lexeme}

/-- Lexemes in order lie inside what they reach over. -/
theorem hull_covers (h : Span.Ascending lo hi (lexemes.map span)) {lx : Lexeme}
    (hlx : lx ∈ lexemes) : (hull lexemes).Covers lx.span := by
  have hne := List.ne_nil_of_mem hlx
  constructor
  · obtain ⟨first, rest, rfl⟩ := List.exists_cons_of_ne_nil hne
    obtain ⟨_, proper, behind⟩ := h
    rcases List.mem_cons.mp hlx with rfl | hlx
    · exact Nat.le_refl _
    · have := (behind.bounds (List.mem_map_of_mem hlx)).1
      simp only [hull, List.head?_cons, Option.map_some, Option.getD_some]
      simp only [span] at proper this ⊢
      omega
  · rw [← List.dropLast_append_getLast hne, List.map_append] at h
    obtain ⟨mid, front, last⟩ := h.of_append
    rw [← List.dropLast_append_getLast hne] at hlx
    simp only [hull, List.getLast?_eq_some_getLast hne, Option.map_some, Option.getD_some]
    obtain ⟨above, proper, _⟩ := last
    rcases List.mem_append.mp hlx with hlx | hlx
    · have := (front.bounds (List.mem_map_of_mem hlx)).2.2
      simp only [span] at above proper this ⊢
      omega
    · rw [List.mem_singleton.mp hlx]
      exact Nat.le_refl _

/-- What lexemes in order reach over is not empty and lies between the same offsets. -/
theorem hull_bounds (h : Span.Ascending lo hi (lexemes.map span)) (hne : lexemes ≠ []) :
    lo ≤ (hull lexemes).start ∧ (hull lexemes).start < (hull lexemes).stop ∧
      (hull lexemes).stop ≤ hi := by
  have hfirst := h.bounds (List.mem_map_of_mem (List.head_mem hne))
  have hlast := h.bounds (List.mem_map_of_mem (List.getLast_mem hne))
  have hcover := (hull_covers h (List.getLast_mem hne)).1
  simp only [hull, List.head?_eq_some_head hne, List.getLast?_eq_some_getLast hne,
    Option.map_some, Option.getD_some, span] at *
  omega

/-- Groups of lexemes in order reach over spans in order. -/
theorem hull_ascending {groups : List (List Lexeme)} (hne : ∀ g ∈ groups, g ≠ [])
    (h : Span.Ascending lo hi (groups.flatten.map span)) :
    Span.Ascending lo hi (groups.map hull) := by
  induction groups generalizing lo with
  | nil => exact h
  | cons group groups ih =>
    rw [List.flatten_cons, List.map_append] at h
    obtain ⟨mid, first, rest⟩ := h.of_append
    obtain ⟨above, proper, below⟩ := hull_bounds first (hne group List.mem_cons_self)
    exact ⟨above, proper,
      (ih (fun g hg => hne g (List.mem_cons_of_mem _ hg)) rest).mono below (Nat.le_refl _)⟩

end Hull

end Lexeme

namespace Token

/-! ### Tokens of a statement -/

/-- The tokens up to each end of a statement, with empty groups, from the given depth on. -/
def pieces (source : List Char) : (depth : Int) → List Token → List (List Token)
  | _, [] => [[]]
  | depth, token :: tokens =>
    let others := pieces source (depthBehind depth token) tokens
    if (ofToken source (depthAt depth token) token).any endsStatement then [] :: others
    else others.modifyHead (token :: ·)

/-- The tokens of each statement of a script. -/
def statements (source : List Char) (tokens : List Token) : List (List Token) :=
  (pieces source 0 tokens).filter (!·.isEmpty)

/-- Every token that opens a group covers an opening parenthesis. -/
def ParensOpen (source : List Char) (tokens : List Token) : Prop :=
  ∀ token ∈ tokens, token.kind = .leftParen → Text.slice source token.start token.stop = ['(']

/-- A token that ends a statement is a lexeme of its own, and no group is open behind it. -/
theorem separator_cases {source : List Char} {depth : Int} {token : Token}
    (hparen : token.kind = .leftParen → Text.slice source token.start token.stop = ['('])
    (h : (ofToken source (depthAt depth token) token).any endsStatement = true) :
    ∃ lx, ofToken source (depthAt depth token) token = [lx] ∧ lx.endsStatement = true ∧
      lx.span = token.span ∧ depthAt depth token = 0 ∧ depthBehind depth token = 0 := by
  obtain ⟨lx, hlx, hends⟩ := List.any_eq_true.mp h
  have hparts := hends
  simp only [endsStatement, isSymbol, Bool.and_eq_true, beq_iff_eq] at hparts
  obtain ⟨hdepth, hkind, htext⟩ := hparts
  obtain ⟨hsingle, hspan⟩ := ofToken_eq_singleton hlx (by simp [hkind])
  have hzero : depthAt depth token = 0 := by rw [← depth_of_mem_ofToken hlx, hdepth]
  refine ⟨lx, hsingle, hends, hspan, hzero, ?_⟩
  have hleft : token.kind ≠ .leftParen := by
    intro hleft
    rw [text_of_mem_ofToken hlx (.inl hkind), Text.sliceText, hparen hleft] at htext
    exact absurd htext (by decide)
  rw [depthBehind, if_neg hleft, hzero]

/-- The pieces of a script, as lexemes, are those of its tokens: the first at the given depth and
each later one from depth zero on. -/
theorem pieces_ofTokensAt {source : List Char} {tokens : List Token}
    (hparens : ParensOpen source tokens) (depth : Int) :
    ∃ first others, pieces source depth tokens = first :: others ∧
      Lexeme.pieces (ofTokensAt source depth tokens) =
        ofTokensAt source depth first :: others.map (ofTokensAt source 0) := by
  induction tokens generalizing depth with
  | nil => exact ⟨[], [], rfl, rfl⟩
  | cons token tokens ih =>
    obtain ⟨first, others, htokens, hlexemes⟩ :=
      ih (fun t ht => hparens t (List.mem_cons_of_mem _ ht)) (depthBehind depth token)
    by_cases hsep : (ofToken source (depthAt depth token) token).any endsStatement = true
    · obtain ⟨lx, hsingle, hends, -, -, hbehind⟩ :=
        separator_cases (hparens token List.mem_cons_self) hsep
      refine ⟨[], first :: others, by simp only [pieces, hsep, if_true, htokens], ?_⟩
      rw [ofTokensAt, ofTokensAt, hsingle, List.singleton_append, pieces_cons, if_pos hends,
        hlexemes, hbehind, List.map_cons]
    · refine ⟨token :: first, others, ?_, ?_⟩
      · simp only [pieces, hsep, htokens]
        rfl
      · rw [ofTokensAt, pieces_append (by simpa using hsep), hlexemes]
        rfl

/-- The lexemes of each statement are those of its tokens, from depth zero on. -/
theorem statements_ofTokens {sql : String} {tokens : List Token}
    (hparens : ParensOpen sql.toList tokens) :
    Lexeme.statements (ofTokens sql tokens) =
      (statements sql.toList tokens).map (ofTokensAt sql.toList 0) := by
  obtain ⟨first, others, htokens, hlexemes⟩ := pieces_ofTokensAt hparens 0
  have hempty (group : List Token) :
      (ofTokensAt sql.toList 0 group).isEmpty = group.isEmpty := by
    cases group with
    | nil => rfl
    | cons token group => simp [ofTokensAt, ofToken_ne_nil]
  rw [Lexeme.statements, statements, ofTokens, hlexemes, htokens, ← List.map_cons, List.filter_map]
  congr 2
  funext group
  simp [hempty]

private theorem pieces_infix (source : List Char) (depth : Int) (tokens : List Token) :
    ∃ first others, pieces source depth tokens = first :: others ∧ first <+: tokens ∧
      ∀ other ∈ others, other <:+: tokens := by
  induction tokens generalizing depth with
  | nil => exact ⟨[], [], rfl, List.prefix_refl _, by simp⟩
  | cons token tokens ih =>
    obtain ⟨first, others, hpieces, hfirst, hothers⟩ := ih (depthBehind depth token)
    have within (group : List Token) (h : group <:+: tokens) : group <:+: token :: tokens :=
      h.trans (List.suffix_cons _ _).isInfix
    simp only [pieces, hpieces]
    split
    · refine ⟨[], first :: others, rfl, List.nil_prefix, ?_⟩
      intro other hother
      rcases List.mem_cons.mp hother with rfl | hother
      · exact within _ hfirst.isInfix
      · exact within _ (hothers other hother)
    · exact ⟨token :: first, others, rfl, (List.prefix_cons_inj token).mpr hfirst,
        fun other hother => within _ (hothers other hother)⟩

/-- The tokens of a piece stand together in the script. -/
theorem infix_of_mem_pieces {source : List Char} {depth : Int} {tokens group : List Token}
    (h : group ∈ pieces source depth tokens) : group <:+: tokens := by
  obtain ⟨first, others, hpieces, hfirst, hothers⟩ := pieces_infix source depth tokens
  rw [hpieces] at h
  rcases List.mem_cons.mp h with rfl | h
  · exact hfirst.isInfix
  · exact hothers group h

/-- Every token belongs to a piece or ends a statement. -/
theorem mem_pieces_or_separator {source : List Char} {tokens : List Token}
    (hparens : ParensOpen source tokens) (depth : Int) {token : Token} (ht : token ∈ tokens) :
    (∃ group ∈ pieces source depth tokens, token ∈ group) ∨
      ∃ lx ∈ ofTokensAt source depth tokens, lx.endsStatement = true ∧ lx.span = token.span := by
  induction tokens generalizing depth with
  | nil => cases ht
  | cons first tokens ih =>
    obtain ⟨group, others, hgroups, -⟩ :=
      pieces_ofTokensAt (fun t h => hparens t (List.mem_cons_of_mem _ h)) (depthBehind depth first)
    have hlater (h : token ∈ tokens) :=
      ih (fun t h => hparens t (List.mem_cons_of_mem _ h)) (depthBehind depth first) h
    simp only [pieces, ofTokensAt, hgroups] at hlater ⊢
    by_cases hsep : (ofToken source (depthAt depth first) first).any endsStatement = true
    · rw [if_pos hsep]
      rcases List.mem_cons.mp ht with rfl | ht
      · obtain ⟨lx, hsingle, hends, hspan, -⟩ :=
          separator_cases (hparens token List.mem_cons_self) hsep
        exact .inr ⟨lx, by simp [hsingle], hends, hspan⟩
      · rcases hlater ht with ⟨g, hg, hmem⟩ | ⟨lx, hlx, hends⟩
        · exact .inl ⟨g, List.mem_cons_of_mem _ hg, hmem⟩
        · exact .inr ⟨lx, List.mem_append_right _ hlx, hends⟩
    · rw [if_neg hsep]
      rcases List.mem_cons.mp ht with rfl | ht
      · exact .inl ⟨token :: group, List.mem_cons_self, List.mem_cons_self⟩
      · rcases hlater ht with ⟨g, hg, hmem⟩ | ⟨lx, hlx, hends⟩
        · rcases List.mem_cons.mp hg with rfl | hg
          · exact .inl ⟨first :: g, List.mem_cons_self, List.mem_cons_of_mem _ hmem⟩
          · exact .inl ⟨g, List.mem_cons_of_mem _ hg, hmem⟩
        · exact .inr ⟨lx, List.mem_append_right _ hlx, hends⟩

end Token

/-! ### Descriptors of statements -/

/-- Each statement of a readable script is described from its own text. -/
theorem describeScript_result {script : String} {lexemes : List Lexeme}
    (h : Lexeme.lex script = .ok lexemes) :
    (describeScript script).result =
      (statements lexemes).map fun g =>
        (describeStatement (statementText script.toList g)).result := by
  rw [describeScript, describeScriptBy, ← Lexeme.lex, h]
  simp only [List.map_map]
  rfl

/-- A descriptor holds the text that it describes. -/
theorem sql_describeStatement (sql : String) : (describeStatement sql).result.sql = sql := by
  rw [describeStatement, describeStatementBy]
  split <;> rfl

/-- The descriptor of a readable text holds the facts about its first statement. -/
theorem result_describeStatement {sql : String} {lexemes : List Lexeme}
    (h : Lexeme.lex sql = .ok lexemes) :
    (describeStatement sql).result =
      .ofFacts sql (Facts.ofLexemes sql ((statements lexemes).headD [])) := by
  rw [describeStatement_of_lex_ok h]
  rfl

/-- A text with a kind is readable. -/
theorem exists_lex_of_kind {sql : String} (h : (describeStatement sql).result.kind ≠ .unknown) :
    ∃ lexemes, Lexeme.lex sql = .ok lexemes := by
  cases hlex : Lexeme.lex sql with
  | error e =>
    rw [describeStatement_of_lex_error hlex] at h
    exact absurd rfl h
  | ok lexemes => exact ⟨lexemes, rfl⟩

/-- The statements of a readable script reach over spans in order inside the script. -/
theorem hull_statements_ascending {script : String} {tokens : List Token}
    (hscan : Token.scan script = .ok tokens) :
    Span.Ascending 0 script.toList.length ((statements (ofTokens script tokens)).map hull) := by
  refine hull_ascending (fun g hg => ne_nil_of_mem_statements hg) ?_
  rw [flatten_statements]
  exact (ofTokensAt_ascending (Token.scan_ascending hscan) (Nat.le_refl _) 0).sublist
    (List.filter_sublist.map span)

/-- The lexemes of the first statement of a text are some of those of the text. -/
theorem headD_statements_sublist (lexemes : List Lexeme) :
    ((statements lexemes).headD []).Sublist lexemes := by
  cases hstatements : statements lexemes with
  | nil => exact List.nil_sublist lexemes
  | cons statement others =>
    have hflatten := List.sublist_flatten_of_mem (hstatements ▸ List.mem_cons_self)
    rw [flatten_statements] at hflatten
    exact hflatten.trans List.filter_sublist

/-- The lexemes of the first statement of a text begin at ascending offsets. -/
theorem pairwise_start_headD_statements {sql : String} {lexemes : List Lexeme}
    (h : Lexeme.lex sql = .ok lexemes) :
    ((statements lexemes).headD []).Pairwise (·.start < ·.start) := by
  have hsublist := (headD_statements_sublist lexemes).map span
  have hstarts := ((lex_ascending h).sublist hsublist).pairwise_start
  rw [List.map_map, List.pairwise_map] at hstarts
  exact hstarts

end SqlFacts
