import SqlFacts.Proofs.Aligned.Lists
import SqlFacts.Proofs.Balance
import SqlFacts.Proofs.Lexeme.Statements
import SqlFacts.Proofs.Token.Shape

/-!
# Levels of parentheses

The depth of a lexeme of a text is told by the parentheses among the lexemes in front of it, and
nothing else opens or closes a group: neither brackets nor braces. Each statement of a text begins
on level zero, whatever was left open in front of it.
-/

namespace SqlFacts

open Lexeme

namespace Lexeme

/-- Tests for a parenthesis. -/
def isParen (lx : Lexeme) : Bool := lx.isSymbol "(" || lx.isSymbol ")"

/-- How a lexeme changes the level, but for the bound at zero. -/
def levelChange (lx : Lexeme) : Int :=
  if lx.isSymbol "(" then 1 else if lx.isSymbol ")" then -1 else 0

/-- The level of a lexeme, given the level behind the lexeme before it. -/
def levelAt (level : Int) (lx : Lexeme) : Int :=
  if lx.isSymbol ")" then max (level - 1) 0 else level

/-- The level behind a lexeme, given the level behind the lexeme before it. -/
def levelBehind (level : Int) (lx : Lexeme) : Int :=
  if lx.isSymbol "(" then levelAt level lx + 1 else levelAt level lx

/-- The level behind some lexemes. -/
def levelAfter (level : Int) (lexemes : List Lexeme) : Int := lexemes.foldl levelBehind level

/-- Every lexeme is as deep as the parentheses in front of it tell. -/
def Leveled : Int → List Lexeme → Prop
  | _, [] => True
  | level, lx :: rest => lx.depth = levelAt level lx ∧ Leveled (levelBehind level lx) rest

@[simp] theorem levelAfter_nil (level : Int) : levelAfter level [] = level := rfl

@[simp] theorem levelAfter_cons (level : Int) (lx : Lexeme) (rest : List Lexeme) :
    levelAfter level (lx :: rest) = levelAfter (levelBehind level lx) rest := rfl

@[simp] theorem levelAfter_append (level : Int) (front back : List Lexeme) :
    levelAfter level (front ++ back) = levelAfter (levelAfter level front) back :=
  List.foldl_append

theorem leveled_append {level : Int} {front back : List Lexeme} :
    Leveled level (front ++ back) ↔
      Leveled level front ∧ Leveled (levelAfter level front) back := by
  induction front generalizing level with
  | nil => exact (iff_of_eq (true_and _)).symm
  | cons lx front ih =>
    rw [List.cons_append, Leveled, Leveled, ih, levelAfter_cons, and_assoc]

/-- An opening parenthesis closes nothing. -/
theorem isSymbol_closing_of_opening {lx : Lexeme} (h : lx.isSymbol "(" = true) :
    lx.isSymbol ")" = false :=
  (isSymbol_of_isSymbol h ")").trans rfl

/-- A lexeme changes the level behind it as told, and not below zero. -/
theorem levelBehind_eq_max (level : Int) (lx : Lexeme) (h : 0 ≤ level) :
    levelBehind level lx = max (level + lx.levelChange) 0 := by
  unfold levelBehind levelAt levelChange
  by_cases hopens : lx.isSymbol "(" = true
  · rw [if_pos hopens, isSymbol_closing_of_opening hopens, if_neg Bool.false_ne_true,
      if_pos hopens]
    omega
  · rw [if_neg hopens, if_neg hopens]
    split
    · omega
    · omega

/-- A lexeme lies on the lower of the levels in front of it and behind it. -/
theorem levelAt_eq_max (level : Int) (lx : Lexeme) (h : 0 ≤ level) :
    levelAt level lx = max (level + min lx.levelChange 0) 0 := by
  unfold levelAt levelChange
  by_cases hopens : lx.isSymbol "(" = true
  · rw [isSymbol_closing_of_opening hopens, if_neg Bool.false_ne_true, if_pos hopens]
    omega
  · rw [if_neg hopens]
    split
    · omega
    · omega

theorem levelBehind_nonneg {level : Int} (h : 0 ≤ level) (lx : Lexeme) :
    0 ≤ levelBehind level lx := by
  rw [levelBehind_eq_max level lx h]
  exact Int.le_max_right _ _

/-- No level lies below zero. -/
theorem levelAfter_nonneg {level : Int} (h : 0 ≤ level) (lexemes : List Lexeme) :
    0 ≤ levelAfter level lexemes :=
  foldl_nonneg levelBehind_eq_max h lexemes

section NoParen

variable {level : Int} {lx : Lexeme}

/-- A lexeme that passes a test which symbols fail is no parenthesis. -/
theorem isParen_eq_false {test : Lexeme → Bool}
    (hfails : ∀ {symbol}, lx.isSymbol symbol = true → test lx = false) (h : test lx = true) :
    lx.isParen = false := by
  rw [isParen, isSymbol_eq_false hfails h, isSymbol_eq_false hfails h]
  rfl

theorem isParen_of_isWord {words : List String} (h : lx.isWord words = true) :
    lx.isParen = false :=
  isParen_eq_false (fun hsymbol => isWord_of_isSymbol hsymbol words) h

/-- Another symbol is no parenthesis. -/
theorem isParen_of_isSymbol {symbol : String} (h : lx.isSymbol symbol = true)
    (hother : symbol ∉ ["(", ")"]) : lx.isParen = false := by
  rw [List.mem_cons, List.mem_singleton, not_or] at hother
  rw [isParen, isSymbol_of_isSymbol h, isSymbol_of_isSymbol h,
    beq_eq_false_iff_ne.mpr hother.1, beq_eq_false_iff_ne.mpr hother.2]
  rfl

theorem levelAt_of_not_isParen (h : lx.isParen = false) : levelAt level lx = level := by
  rw [isParen, Bool.or_eq_false_iff] at h
  rw [levelAt, h.2, if_neg Bool.false_ne_true]

theorem levelBehind_of_not_isParen (h : lx.isParen = false) : levelBehind level lx = level := by
  have hleft := h
  rw [isParen, Bool.or_eq_false_iff] at hleft
  rw [levelBehind, hleft.1, if_neg Bool.false_ne_true, levelAt_of_not_isParen h]

/-- A lexeme that is no parenthesis lies on the level of what follows it. -/
theorem leveled_cons_of_not_isParen {rest : List Lexeme} (h : lx.isParen = false) :
    Leveled level (lx :: rest) ↔ lx.depth = level ∧ Leveled level rest := by
  rw [Leveled, levelAt_of_not_isParen h, levelBehind_of_not_isParen h]

/-- Neighbours of which neither is a parenthesis are equally deep. -/
theorem Leveled.depth_eq {front rest : List Lexeme} {next : Lexeme}
    (h : Leveled level (front ++ lx :: next :: rest)) (hlx : lx.isParen = false)
    (hnext : next.isParen = false) : next.depth = lx.depth := by
  obtain ⟨-, hrest⟩ := leveled_append.mp h
  rw [leveled_cons_of_not_isParen hlx, leveled_cons_of_not_isParen hnext] at hrest
  exact hrest.2.1.trans hrest.1.symm

/-- Lexemes of one depth without a parenthesis lie on that level, and so does what follows. -/
theorem leveled_of_not_isParen {lexemes : List Lexeme}
    (h : ∀ lx ∈ lexemes, lx.depth = level ∧ lx.isParen = false) :
    Leveled level lexemes ∧ levelAfter level lexemes = level := by
  induction lexemes with
  | nil => exact ⟨trivial, rfl⟩
  | cons lx lexemes ih =>
    obtain ⟨⟨hdepth, hparen⟩, hrest⟩ := List.forall_mem_cons.mp h
    rw [leveled_cons_of_not_isParen hparen, levelAfter_cons, levelBehind_of_not_isParen hparen]
    exact ⟨⟨hdepth, (ih hrest).1⟩, (ih hrest).2⟩

end NoParen

/-! ### Levels of tokens -/

section Tokens

variable {source : List Char} {token : Token} {depth : Int} {lx : Lexeme}

/-- A token that opens or closes a group is that parenthesis, as a symbol. -/
theorem ofToken_of_isParenKind (hexact : token.ParenExact source)
    (hkind : Token.isParenKind token.kind = true) (depth : Int) :
    ofToken source depth token = [⟨.symbol, token.text, token.start, token.stop, depth⟩] := by
  have htext := hexact.text hkind
  rw [Token.isParenKind, Bool.or_eq_true, beq_iff_eq, beq_iff_eq] at hkind
  unfold ofToken
  rcases hkind with hopens | hcloses
  · rw [htext, Text.sliceText, hexact.opens_iff.mp hopens, hopens]
    rfl
  · rw [htext, Text.sliceText, hexact.closes_iff.mp hcloses, hcloses]
    rfl

/-- A lexeme is a parenthesis exactly if its token opens or closes a group. -/
theorem isSymbol_iff_of_mem_ofToken (hexact : token.ParenExact source)
    (hlx : lx ∈ ofToken source depth token) :
    (lx.isSymbol "(" = true ↔ token.kind = .leftParen) ∧
      (lx.isSymbol ")" = true ↔ token.kind = .rightParen) := by
  have hslice {c : Char} (h : lx.isSymbol (String.ofList [c]) = true) :
      Text.slice source token.start token.stop = [c] := by
    rw [isSymbol, Bool.and_eq_true, beq_iff_eq, beq_iff_eq] at h
    have htext := (text_of_mem_ofToken hlx (.inl h.1)).symm.trans h.2
    rwa [Text.sliceText, String.ofList_inj] at htext
  have hsymbol {c : Char} (hkind : Token.isParenKind token.kind = true)
      (h : Text.slice source token.start token.stop = [c]) :
      lx.isSymbol (String.ofList [c]) = true := by
    rw [ofToken_of_isParenKind hexact hkind, List.mem_singleton] at hlx
    rw [hlx, isSymbol, hexact.text hkind, Text.sliceText, h, beq_self_eq_true, beq_self_eq_true]
    rfl
  refine ⟨⟨fun h => hexact.opens_iff.mpr (hslice h), fun h => ?_⟩,
    ⟨fun h => hexact.closes_iff.mpr (hslice h), fun h => ?_⟩⟩
  · exact hsymbol (by rw [h]; rfl) (hexact.opens_iff.mp h)
  · exact hsymbol (by rw [h]; rfl) (hexact.closes_iff.mp h)

/-- The lexemes of a token lie on its level, and what follows on the level behind it. -/
theorem leveled_ofToken (hexact : token.ParenExact source) (level : Int) :
    Leveled level (ofToken source (depthAt level token) token) ∧
      levelAfter level (ofToken source (depthAt level token) token) =
        depthBehind level token := by
  cases hkind : Token.isParenKind token.kind with
  | false =>
    rw [Token.isParenKind, Bool.or_eq_false_iff, beq_eq_false_iff_ne, beq_eq_false_iff_ne] at hkind
    obtain ⟨hopens, hcloses⟩ := hkind
    have hat : depthAt level token = level := if_neg hcloses
    rw [depthBehind, if_neg hopens, hat]
    refine leveled_of_not_isParen fun lx hlx => ⟨depth_of_mem_ofToken hlx, ?_⟩
    obtain ⟨hleft, hright⟩ := isSymbol_iff_of_mem_ofToken hexact hlx
    rw [isParen, Bool.or_eq_false_iff, ← Bool.not_eq_true, ← Bool.not_eq_true]
    exact ⟨mt hleft.mp hopens, mt hright.mp hcloses⟩
  | true =>
    have hsingle := ofToken_of_isParenKind hexact hkind (depthAt level token)
    obtain ⟨hleft, hright⟩ :=
      isSymbol_iff_of_mem_ofToken hexact (hsingle ▸ List.mem_singleton_self _)
    rw [hsingle, Leveled, Leveled, levelAfter_cons, levelAfter_nil]
    simp only [levelBehind, levelAt, hleft, hright]
    exact ⟨⟨rfl, trivial⟩, rfl⟩

/-- The lexemes of tokens lie on the levels that their parentheses tell. -/
theorem leveled_ofTokensAt {tokens : List Token}
    (hexact : ∀ token ∈ tokens, token.ParenExact source) (level : Int) :
    Leveled level (ofTokensAt source level tokens) := by
  induction tokens generalizing level with
  | nil => trivial
  | cons token tokens ih =>
    obtain ⟨hfirst, hrest⟩ := List.forall_mem_cons.mp hexact
    obtain ⟨hhere, hbehind⟩ := leveled_ofToken hfirst level
    rw [ofTokensAt, leveled_append, hbehind]
    exact ⟨hhere, ih hrest _⟩

end Tokens

/-! ### Levels of a text -/

section Text

variable {sql : String} {lexemes : List Lexeme}

/-- Every statement of a text lies on the levels that its parentheses tell, from zero on. -/
theorem leveled_of_mem_statements {statement : List Lexeme} (h : lex sql = .ok lexemes)
    (hmem : statement ∈ statements lexemes) : Leveled 0 statement := by
  obtain ⟨tokens, hscan, rfl⟩ := exists_scan_of_lex h
  rw [Token.statements_ofTokens fun t ht => Token.scan_leftParen hscan ht] at hmem
  obtain ⟨group, hgroup, rfl⟩ := List.mem_map.mp hmem
  have hinfix := Token.infix_of_mem_pieces (List.mem_of_mem_filter hgroup)
  have hexact : ∀ token ∈ group, token.ParenExact sql.toList := by
    intro token ht
    have hmem : token ∈ tokens := hinfix.subset ht
    exact Token.scan_parenExact hscan hmem
  exact leveled_ofTokensAt hexact 0

/-- The first statement of a text lies on the levels that its parentheses tell. -/
theorem leveled_headD_statements (h : lex sql = .ok lexemes) :
    Leveled 0 ((statements lexemes).headD []) := by
  cases hstatements : statements lexemes with
  | nil => trivial
  | cons statement others =>
    exact leveled_of_mem_statements h (by simp [hstatements])

end Text

end Lexeme

end SqlFacts
