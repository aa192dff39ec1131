import SqlFacts.Proofs.Facts.Nested
import SqlFacts.Proofs.Facts.OpenAssignment
import SqlFacts.Proofs.Lexeme.Statements

/-!
# Settings of parenthesised statements

A statement may stand in parentheses, with a `FORMAT` clause behind them. The main statement says
exactly what becomes of its settings: they are kept, save that the value of an assignment which the
end of the statement leaves open takes up the closing parenthesis and all the rest of the text.
-/

namespace SqlFacts

open Lexeme

namespace Lexeme

/-- The closing parenthesis of a statement of the given length. -/
def closingParen (length : Nat) : Lexeme := ⟨.symbol, ")", length + 1, length + 2, 0⟩

/-- The lexemes of a statement of the given length in parentheses, with others behind them. -/
def enclose (length : Nat) (lexemes trailing : List Lexeme) : List Lexeme :=
  ⟨.symbol, "(", 0, 1, 0⟩ :: (lexemes.map nest ++ closingParen length :: trailing)

/-- Tests for nothing or a `FORMAT name` clause outside all parentheses. -/
def isFormatClause : List Lexeme → Bool
  | [] => true
  | [format, name] =>
    format.isWord [Keyword.format.name] && name.isIdentifier && format.depth == 0 && name.depth == 0
  | _ => false

end Lexeme

/-- The assignment that the end of a statement leaves open. -/
def openSetting? (lexemes : List Lexeme) : Option (String × List Lexeme) :=
  let head := leadingWord? lexemes
  let list := settingsLexemes lexemes (Kind.ofStatement lexemes head) head
  list.head?.bind fun first => openAssignment? first.depth 0 list

/-! ### Reading a statement in parentheses -/

section Reading

variable {lexemes trailing : List Lexeme} {length head : Nat}

/-- A word of a statement is one inside the parentheses. -/
theorem isWordWithin_nest (words : List String) (limit : Int) (lx : Lexeme) :
    lx.nest.isWordWithin words (limit + 1) = lx.isWordWithin words limit := by
  have hdepth : decide (lx.depth + 1 ≤ limit + 1) = decide (lx.depth ≤ limit) := by
    rw [decide_eq_decide, Int.add_le_add_iff_right]
  show (decide (lx.depth + 1 ≤ limit + 1) && _) = _
  rw [hdepth]
  rfl

/-- A leading word is one of the words of the statement. -/
theorem lt_length_of_leadingWord? (h : leadingWord? lexemes = some head) :
    head < lexemes.length := by
  obtain ⟨verb, rest, hdrop, -⟩ := Difference.drop_of_leadingWord? h
  by_contra hlength
  rw [List.drop_eq_nil_of_le (Nat.le_of_not_lt hlength)] at hdrop
  cases hdrop

theorem leadingWord?_map_nest (lexemes : List Lexeme) :
    leadingWord? (lexemes.map nest) = leadingWord? lexemes := by
  induction lexemes with
  | nil => rfl
  | cons lx rest ih =>
    rw [List.map_cons, leadingWord?, leadingWord?, ih]
    rfl

/-- The leading word stands behind one more parenthesis. -/
theorem leadingWord?_enclose (h : leadingWord? lexemes = some head) :
    leadingWord? (enclose length lexemes trailing) = some (head + 1) := by
  have hnest : leadingWord? (lexemes.map nest ++ []) = some head := by
    rw [List.append_nil, leadingWord?_map_nest, h]
  have hfront : head < (lexemes.map nest).length := by
    rw [List.length_map]
    exact lt_length_of_leadingWord? h
  have hbehind : leadingWord? (lexemes.map nest ++ closingParen length :: trailing) = some head :=
    leadingWord?_append hnest hfront
  rw [enclose, leadingWord?, hbehind]
  rfl

/-- What follows the leading word follows it inside the parentheses. -/
theorem drop_enclose {index : Nat} (h : index ≤ lexemes.length) :
    (enclose length lexemes trailing).drop (index + 1) =
      (lexemes.drop index).map nest ++ closingParen length :: trailing := by
  rw [enclose, List.drop_succ_cons, List.drop_append_of_le_length (by rwa [List.length_map]),
    List.map_drop]

/-- Only `SET` announces a list of assignments. -/
theorem ofVerb_eq_set_iff (verb : String) : Kind.ofVerb verb = .set ↔ verb = "SET" := by
  constructor
  · intro h
    unfold Kind.ofVerb at h
    split at h <;> first | rfl | cases h
  · rintro rfl
    rfl

/-- Only statements that begin with `SET` are lists of assignments. -/
theorem ofBeginning_eq_set_iff (verb : Lexeme) (rest : List Lexeme) :
    Kind.ofBeginning (verb :: rest) = .set ↔ verb.capitals = "SET" := by
  by_cases halter : verb.capitals = "ALTER"
  · have hkind := ofBeginning_of_alter halter rest
    rw [halter]
    constructor
    · intro hset
      rw [hset] at hkind
      exact absurd hkind (by decide)
    · exact fun h => absurd h (by decide)
  · rw [Kind.ofBeginning]
    split
    · next hstart =>
      rw [hstart]
      split <;> decide
    · rw [← ofVerb_eq_set_iff]
      split
      · next hverb => exact absurd (Difference.eq_alter_of_ofVerb hverb) halter
      · rfl

/-- The body of a statement lies one group deeper inside the parentheses. -/
theorem bodyDepth_enclose (h : head < lexemes.length) :
    bodyDepth (enclose length lexemes trailing) (some (head + 1)) =
      bodyDepth lexemes (some head) + 1 := by
  have hget : (enclose length lexemes trailing)[head + 1]? = lexemes[head]?.map nest := by
    rw [← List.head?_drop, drop_enclose (Nat.le_of_lt h), List.head?_append, List.head?_map,
      List.head?_drop, List.getElem?_eq_getElem h]
    rfl
  rw [bodyDepth, bodyDepth, Option.bind_some, Option.bind_some, hget, List.getElem?_eq_getElem h]
  rfl

/-- What stands behind the parentheses lies outside them. -/
theorem depth_of_isFormatClause (htrailing : isFormatClause trailing = true) (length : Nat) :
    ∀ lx ∈ closingParen length :: trailing, lx.depth = 0 := by
  match trailing with
  | [] => simp [closingParen]
  | [format, name] =>
    simp only [isFormatClause, Bool.and_eq_true, beq_iff_eq] at htrailing
    simp [closingParen, htrailing]

/-- A clause behind the parentheses consists of identifiers. -/
theorem isIdentifier_of_isFormatClause (htrailing : isFormatClause trailing = true) {lx : Lexeme}
    (hlx : lx ∈ trailing) : lx.isIdentifier = true := by
  match trailing with
  | [] => cases hlx
  | [format, name] =>
    simp only [isFormatClause, isWord, Bool.and_eq_true, beq_iff_eq] at htrailing
    rcases List.mem_cons.mp hlx with rfl | hlx
    · rw [isIdentifier, htrailing.1.1.1.1]
      rfl
    · rw [List.mem_singleton.mp hlx]
      exact htrailing.1.1.2

/-- No settings are read behind the closing parenthesis. -/
theorem afterWord?_closingParen (htrailing : isFormatClause trailing = true) (limit : Int) :
    (afterWord? [Keyword.settings.name] limit (closingParen length :: trailing)).getD [] = [] := by
  have hparen : (closingParen length).Quiet limit := .inl rfl
  rw [afterWord?_cons_of_neg (hparen.isWordWithin _)]
  match trailing with
  | [] => rfl
  | [format, name] =>
    have hformat : format.isWordWithin [Keyword.settings.name] limit = false := by
      simp only [isFormatClause, Bool.and_eq_true] at htrailing
      exact isWordWithin_eq_false (isWord_of_disjoint htrailing.1.1.1 (by decide)) limit
    rw [afterWord?_cons_of_neg hformat]
    -- The name of the format may be the word `SETTINGS`, but nothing stands behind it.
    by_cases hname : name.isWordWithin [Keyword.settings.name] limit = true
    · rw [afterWord?_cons_of_pos hname]
      rfl
    · rw [afterWord?_cons_of_neg (Bool.eq_false_iff.mpr hname)]
      rfl

/-- A statement is a list of assignments inside the parentheses if it is one outside. -/
theorem ofStatement_enclose_eq_set_iff (hhead : leadingWord? lexemes = some head) :
    Kind.ofStatement (enclose length lexemes trailing) (some (head + 1)) = .set ↔
      Kind.ofStatement lexemes (some head) = .set := by
  have hlength := lt_length_of_leadingWord? hhead
  obtain ⟨verb, rest, hdrop, -⟩ := Difference.drop_of_leadingWord? hhead
  have hdrop' : (enclose length lexemes trailing).drop (head + 1) =
      verb.nest :: (rest.map nest ++ closingParen length :: trailing) := by
    rw [drop_enclose (Nat.le_of_lt hlength), hdrop]
    rfl
  rw [Kind.ofStatement, Kind.ofStatement, hdrop, hdrop', ofBeginning_eq_set_iff,
    ofBeginning_eq_set_iff]
  rfl

/-- The settings are read from the same lexemes inside the parentheses, with the closing one and
what stands behind it at their end. -/
theorem assignments_settingsLexemes_enclose (source : List Char)
    (htrailing : isFormatClause trailing = true) (hhead : leadingWord? lexemes = some head) :
    let wrapped := enclose length lexemes trailing
    assignments source (settingsLexemes wrapped (Kind.ofStatement wrapped (some (head + 1)))
        (some (head + 1))) =
      assignments source
        ((settingsLexemes lexemes (Kind.ofStatement lexemes (some head)) (some head)).map nest ++
          closingParen length :: trailing) := by
  intro wrapped
  have hlength := lt_length_of_leadingWord? hhead
  have hkind : Kind.ofStatement wrapped (some (head + 1)) = .set ↔
      Kind.ofStatement lexemes (some head) = .set := ofStatement_enclose_eq_set_iff hhead
  by_cases hset : Kind.ofStatement lexemes (some head) = .set
  · rw [hset, hkind.mpr hset, settingsLexemes, settingsLexemes, drop_enclose hlength]
  · have hopening : (⟨.symbol, "(", 0, 1, 0⟩ : Lexeme).Quiet
        (bodyDepth lexemes (some head) + 1) := .inl rfl
    have hwrapped : wrapped = ⟨.symbol, "(", 0, 1, 0⟩ ::
        (lexemes.map nest ++ closingParen length :: trailing) := rfl
    rw [settingsLexemes_of_ne_set hset, settingsLexemes_of_ne_set (mt hkind.mp hset),
      bodyDepth_enclose hlength, hwrapped, afterWord?_cons_of_neg (hopening.isWordWithin _),
      afterWord?_append, afterWord?_map (isWordWithin_nest _ _)]
    cases afterWord? [Keyword.settings.name] (bodyDepth lexemes (some head)) lexemes with
    | some list => rfl
    | none =>
      have hnone : beginsAssignment ([].map nest ++ closingParen length :: trailing) = false :=
        beginsAssignment_nest_append rfl trailing []
      rw [Option.map_none, Option.map_none, Option.none_or, afterWord?_closingParen htrailing,
        Option.getD_none, assignments_of_not_begins hnone]
      rfl

end Reading

/-! ### Settings of a statement in parentheses -/

section Statement

variable {sql : String} {lexemes trailing : List Lexeme}

/-- Lexemes of which none ends a statement are described all together. -/
theorem ofLexemes_of_one (h : ∀ lx ∈ lexemes, lx.endsStatement = false) (text : String) :
    Descriptor.ofLexemes text lexemes = .ofFacts text (Facts.ofLexemes text lexemes) := by
  cases lexemes with
  | nil => rfl
  | cons lx rest =>
    rw [Descriptor.ofLexemes, statements_eq_singleton (List.cons_ne_nil lx rest) fun l hl =>
      Bool.eq_false_iff.mp (h l hl)]
    rfl

/-- Settings are the assignments in front of the lexemes that they are read from. -/
theorem settings_ofFacts (text : String) :
    (Descriptor.ofFacts text (Facts.ofLexemes text lexemes)).settings =
      .ofList (assignments text.toList (settingsLexemes lexemes
        (Kind.ofStatement lexemes (leadingWord? lexemes)) (leadingWord? lexemes))) := rfl

/-- A recognized statement has a leading word. -/
theorem exists_leadingWord? {text : String}
    (h : (Descriptor.ofFacts text (Facts.ofLexemes text lexemes)).isRecognized = true) :
    ∃ head, leadingWord? lexemes = some head := by
  have hkind : (Kind.ofStatement lexemes (leadingWord? lexemes) != .unknown) = true := h
  cases hhead : leadingWord? lexemes with
  | none =>
    rw [hhead] at hkind
    cases hkind
  | some head => exact ⟨head, rfl⟩

/-- Inside parentheses no semicolon ends a statement. -/
theorem not_endsStatement_enclose (hdepth : ∀ lx ∈ lexemes, 0 ≤ lx.depth)
    (htrailing : isFormatClause trailing = true) (length : Nat) :
    ∀ lx ∈ enclose length lexemes trailing, lx.endsStatement = false := by
  have hnested : ∀ lx ∈ lexemes, lx.nest.endsStatement = false := by
    intro lx hlx
    have hdeep : lx.nest.depth ≠ 0 := by
      have := hdepth lx hlx
      simp only [nest]
      omega
    rw [endsStatement, beq_eq_false_iff_ne.mpr hdeep, Bool.false_and]
  have hclause : ∀ lx ∈ trailing, lx.endsStatement = false := by
    intro lx hlx
    have hword := isIdentifier_of_isFormatClause htrailing hlx
    rw [endsStatement, isSymbol_eq_false isIdentifier_of_isSymbol hword, Bool.and_false]
  rw [enclose, List.forall_mem_cons, List.forall_mem_append, List.forall_mem_map,
    List.forall_mem_cons]
  exact ⟨by decide, hnested, rfl, hclause⟩

/-- A statement in parentheses, with nothing or a `FORMAT` clause behind them, has the settings that
it has alone, save that the value of an assignment which the end of the statement leaves open takes
up the closing parenthesis and all that follows it. -/
theorem settings_enclose (hlex : lex sql = .ok lexemes)
    (hone : ∀ lx ∈ lexemes, lx.endsStatement = false)
    (hrecognized : (describeStatement sql).result.isRecognized = true)
    (htrailing : isFormatClause trailing = true) (tail : String) :
    let whole := "(" ++ sql ++ ")" ++ tail
    let length := sql.toList.length
    (Descriptor.ofLexemes whole (enclose length lexemes trailing)).settings =
      withOpenValue (describeStatement sql).result.settings
        (openText whole.toList (closingParen length) trailing) (openSetting? lexemes) := by
  intro whole length
  have hslice (start stop : Nat) (h : stop ≤ sql.toList.length) :
      Text.slice whole.toList (start + 1) (stop + 1) = Text.slice sql.toList start stop := by
    have hwhole : whole.toList = '(' :: (sql.toList ++ ')' :: tail.toList) := by
      simp [whole]
    rw [hwhole, Text.slice_cons_append _ _ h]
  have hdepth : ∀ lx ∈ lexemes, 0 ≤ lx.depth := by
    obtain ⟨tokens, -, rfl⟩ := exists_scan_of_lex hlex
    exact fun lx hlx => depth_nonneg (Int.le_refl 0) hlx
  have hinside : ∀ lx ∈ lexemes, lx.stop ≤ sql.toList.length := fun lx hlx =>
    ((lex_ascending hlex).bounds (List.mem_map_of_mem hlx)).2.2
  have hwrapped := not_endsStatement_enclose hdepth htrailing length
  simp only [describeStatement_of_lex_ok hlex] at hrecognized ⊢
  rw [ofLexemes_of_one hone] at hrecognized ⊢
  obtain ⟨head, hhead⟩ := exists_leadingWord? hrecognized
  have hread := (settingsLexemes_sublist lexemes (Kind.ofStatement lexemes (some head))
    (some head)).subset
  rw [ofLexemes_of_one hwrapped, settings_ofFacts, settings_ofFacts, openSetting?,
    leadingWord?_enclose hhead, hhead, assignments_settingsLexemes_enclose _ htrailing hhead]
  exact ofList_assignments_nest hslice rfl (depth_of_isFormatClause htrailing length)
    (fun lx hlx => hinside lx (hread hlx)) fun lx hlx => hdepth lx (hread hlx)

end Statement

/-- The lexemes of a query with one setting. -/
def limitedQuery : List Lexeme :=
  [⟨.word, "SELECT", 0, 6, 0⟩, ⟨.number, "1", 7, 8, 0⟩, ⟨.word, "SETTINGS", 9, 17, 0⟩,
    ⟨.word, "max_threads", 18, 29, 0⟩, ⟨.symbol, "=", 30, 31, 0⟩, ⟨.number, "1", 32, 33, 0⟩]

/-- The lexemes of a format behind the query in parentheses. -/
def limitedQueryFormat : List Lexeme :=
  [⟨.word, "FORMAT", 36, 42, 0⟩, ⟨.word, "JSON", 43, 47, 0⟩]

/-- The last value of a query in parentheses takes up all that follows it. -/
theorem settings_enclose_limitedQuery :
    let sql := "SELECT 1 SETTINGS max_threads = 1"
    let whole := "(SELECT 1 SETTINGS max_threads = 1) FORMAT JSON"
    (describeStatement sql).result.settings = .ofList [("max_threads", "1")] ∧
      (describeStatement whole).result.settings = .ofList [("max_threads", "1) FORMAT JSON")] := by
  intro sql whole
  have hlex : lex sql = .ok limitedQuery := Token.eq_ok_of_toOption (by decide +kernel)
  have hwhole : lex whole = .ok (enclose 33 limitedQuery limitedQueryFormat) :=
    Token.eq_ok_of_toOption (by decide +kernel)
  have hdescribed : (describeStatement sql).result.isRecognized = true ∧
      (describeStatement sql).result.settings = .ofList [("max_threads", "1")] := by
    rw [describeStatement_of_lex_ok hlex]
    decide +kernel
  have hclause : isFormatClause limitedQueryFormat = true := by decide
  have hkept := settings_enclose hlex (by decide) hdescribed.1 hclause " FORMAT JSON"
  have htext : "(" ++ sql ++ ")" ++ " FORMAT JSON" = whole := by decide
  have hlength : sql.toList.length = 33 := by decide
  simp only [htext, hlength, hdescribed.2] at hkept
  refine ⟨hdescribed.2, ?_⟩
  rw [describeStatement_of_lex_ok hwhole]
  refine hkept.trans ?_
  decide +kernel

end SqlFacts
