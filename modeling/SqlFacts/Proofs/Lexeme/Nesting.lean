import SqlFacts.Proofs.Balance
import SqlFacts.Proofs.Lexeme.Level
import SqlFacts.Proofs.Lexeme.WordText

/-!
# Nesting of lexemes

Whatever list of tokens a text is cut into, as long as they follow each other in it and its
parentheses are tokens of their own, the lexemes follow each other inside their tokens, and their
depths are those of a nesting: they rise behind an opening parenthesis and fall at a closing one,
and a balanced run leaves the depth as it was. This holds with any number of parentheses that have
no partner, since a closing parenthesis without one does not take the depth below zero.
-/

namespace SqlFacts

open Lexeme

/-- How a token changes the depth, but for the bound at zero. -/
def Token.depthChange (token : Token) : Int :=
  if token.kind = .leftParen then 1 else if token.kind = .rightParen then -1 else 0

/-- A token is cut into one lexeme or more, all of them inside it, and each is a parenthesis exactly
if the token is one. -/
structure Token.CutInto (token : Token) (group : List Lexeme) : Prop where
  ne_nil : group ≠ []
  covers : ∀ lx ∈ group, token.span.Covers lx.span
  opens_iff : ∀ lx ∈ group, lx.isSymbol "(" = true ↔ token.kind = .leftParen
  closes_iff : ∀ lx ∈ group, lx.isSymbol ")" = true ↔ token.kind = .rightParen

namespace Lexeme

/-- The depth of a lexeme is that of its neighbour in front, or it has risen by one behind an
opening parenthesis, or the lexeme is a closing parenthesis and it has fallen by one. -/
def DepthStep (lx next : Lexeme) : Prop :=
  next.depth = lx.depth ∨ (lx.isSymbol "(" = true ∧ next.depth = lx.depth + 1) ∨
    (next.isSymbol ")" = true ∧ next.depth = lx.depth - 1)

/-- A lexeme belongs to a group itself, rather than to one inside it: the lexemes between the
beginning of the group and the lexeme are balanced, with the lexeme or without it. -/
def IsDirect (before : List Lexeme) (lx : Lexeme) : Prop :=
  Balanced levelChange before ∨ Balanced levelChange (before ++ [lx])

/-! ### Lexemes of a token -/

section Token

variable {source : List Char} {token : Token} {tokens : List Token} {lx : Lexeme}

/-- A token of a text is cut into its lexemes. -/
theorem cutInto_ofToken (hproper : token.start < token.stop) (hinside : token.stop ≤ source.length)
    (hexact : token.ParenExact source) (depth : Int) :
    token.CutInto (ofToken source depth token) where
  ne_nil := ofToken_ne_nil source depth token
  covers lx hlx := by
    obtain ⟨hstart, -, hstop⟩ :=
      (ofToken_ascending hproper hinside depth).bounds (List.mem_map_of_mem hlx)
    exact ⟨hstart, hstop⟩
  opens_iff lx hlx := (isSymbol_iff_of_mem_ofToken hexact hlx).1
  closes_iff lx hlx := (isSymbol_iff_of_mem_ofToken hexact hlx).2

/-- The lexemes of tokens of a text fall into those of each token. -/
theorem exists_forall₂_cutInto {lo hi : Nat} (h : Span.Ascending lo hi (tokens.map Token.span))
    (hhi : hi ≤ source.length) (hexact : ∀ token ∈ tokens, token.ParenExact source)
    (depth : Int) :
    ∃ groups, groups.flatten = ofTokensAt source depth tokens ∧
      List.Forall₂ Token.CutInto tokens groups := by
  induction tokens generalizing lo depth with
  | nil => exact ⟨[], rfl, .nil⟩
  | cons token tokens ih =>
    obtain ⟨-, hproper, hbehind⟩ := h
    obtain ⟨hfirst, hrest⟩ := List.forall_mem_cons.mp hexact
    obtain ⟨groups, hflatten, hgroups⟩ := ih hbehind hrest (depthBehind depth token)
    have hcut := cutInto_ofToken hproper (Nat.le_trans hbehind.le hhi) hfirst
      (depthAt depth token)
    refine ⟨ofToken source (depthAt depth token) token :: groups, ?_, .cons hcut hgroups⟩
    rw [List.flatten_cons, hflatten, ofTokensAt]

/-- A word, a number or a symbol reads as the part of the text that it covers. -/
theorem text_of_mem_ofTokensAt {lo hi : Nat} {depth : Int}
    (hspans : Span.Ascending lo hi (tokens.map Token.span)) (hhi : hi ≤ source.length)
    (hlx : lx ∈ ofTokensAt source depth tokens)
    (hkind : lx.kind ∈ [LexemeKind.word, .number, .symbol]) :
    lx.text = Text.sliceText source lx.start lx.stop := by
  by_cases hword : lx.kind = .word
  · exact (readsFrom_of_mem_ofTokensAt hspans hhi hlx hword).text
  · obtain ⟨token, -, depth, hown⟩ := exists_token_of_mem_ofTokensAt hlx
    have hspan : lx.span = token.span := (ofToken_eq_singleton hown hword).2
    have htext : lx.text = Text.sliceText source token.start token.stop := by
      refine text_of_mem_ofToken hown ?_
      simpa [hword, or_comm] using hkind
    rw [htext, ← (Span.mk.inj hspan).1, ← (Span.mk.inj hspan).2]

end Token

/-! ### Steps of the depth -/

section Step

variable {level : Int} {lx next : Lexeme}

/-- A token changes the depth as told, and not below zero. -/
theorem depthBehind_eq_max (depth : Int) (token : Token) (h : 0 ≤ depth) :
    depthBehind depth token = max (depth + token.depthChange) 0 := by
  unfold depthBehind depthAt Token.depthChange
  by_cases hopens : token.kind = .leftParen
  · have hcloses : token.kind ≠ .rightParen := by
      rw [hopens]
      decide
    rw [if_pos hopens, if_neg hcloses, if_pos hopens]
    omega
  · rw [if_neg hopens, if_neg hopens]
    split
    · omega
    · omega

/-- Neighbours that lie on the levels which their parentheses tell are a step apart. -/
theorem depthStep_of_levelAt (hlevel : 0 ≤ level) (hlx : lx.depth = levelAt level lx)
    (hnext : next.depth = levelAt (levelBehind level lx) next) : DepthStep lx next := by
  have hbehind := levelBehind_nonneg hlevel lx
  rw [levelAt_eq_max level lx hlevel] at hlx
  rw [levelAt_eq_max _ next hbehind, levelBehind_eq_max level lx hlevel] at hnext
  unfold DepthStep
  unfold levelChange at hlx hnext
  grind

/-- The depths of lexemes change by steps. -/
theorem Leveled.isChain {lexemes : List Lexeme} (hlevel : 0 ≤ level) (h : Leveled level lexemes) :
    lexemes.IsChain DepthStep := by
  induction lexemes generalizing level with
  | nil => exact .nil
  | cons lx rest ih =>
    obtain ⟨hlx, hrest⟩ := h
    cases rest with
    | nil => exact .singleton lx
    | cons next rest =>
      exact .cons_cons (depthStep_of_levelAt hlevel hlx hrest.1)
        (ih (levelBehind_nonneg hlevel lx) hrest)

/-- The first lexeme on the lowest level lies on it. -/
theorem Leveled.depth_head {lexemes : List Lexeme} (h : Leveled 0 lexemes) :
    ∀ lx ∈ lexemes.head?, lx.depth = 0 := by
  cases lexemes with
  | nil => simp
  | cons lx rest =>
    rintro _ ⟨⟩
    rw [h.1, levelAt]
    split
    · rfl
    · rfl

end Step

/-! ### Groups -/

section Group

variable {level : Int} {front inner back before after : List Lexeme}
  {opening closing lx : Lexeme}

/-- The lexemes of a balanced run lie no lower than what is in front of it, and as low as that
exactly if they belong to no group in the run. -/
theorem Leveled.depth_of_balanced (hlevel : 0 ≤ level) (hinner : Balanced levelChange inner)
    (h : Leveled level (inner ++ back)) (hsplit : inner = before ++ lx :: after) :
    level ≤ lx.depth ∧ (lx.depth = level ↔ IsDirect before lx) := by
  have hbefore : before <+: inner := ⟨lx :: after, hsplit.symm⟩
  have hwith : before ++ [lx] <+: inner := ⟨after, by rw [hsplit]; simp⟩
  have hreached : levelAfter level before = level + rise levelChange before :=
    hinner.foldl_prefix levelBehind_eq_max hlevel hbefore
  -- Neither the lexemes in front nor those with the lexeme itself sink below the beginning.
  have hlow := hinner.rise_nonneg _ hbefore
  have hlow' := hinner.rise_nonneg _ hwith
  have hdepth : lx.depth = levelAt (levelAfter level before) lx := by
    rw [hsplit, List.append_assoc, List.cons_append, leveled_append] at h
    exact h.2.1
  rw [hreached, levelAt_eq_max _ _ (by omega)] at hdepth
  rw [IsDirect, hinner.prefix_iff hbefore, hinner.prefix_iff hwith]
  rw [rise_append, rise_cons, rise_nil] at hlow' ⊢
  omega

/-- Parentheses with a balanced run between them are equally deep, and what belongs to their group
itself is deeper by one. -/
theorem Leveled.depth_of_pair (hlevel : 0 ≤ level)
    (h : Leveled level (front ++ opening :: (inner ++ closing :: back)))
    (hopening : opening.isSymbol "(" = true) (hclosing : closing.isSymbol ")" = true)
    (hinner : Balanced levelChange inner) :
    closing.depth = opening.depth ∧ ∀ before lx after, inner = before ++ lx :: after →
      opening.depth < lx.depth ∧ (lx.depth = opening.depth + 1 ↔ IsDirect before lx) := by
  have hfront : 0 ≤ levelAfter level front := levelAfter_nonneg hlevel front
  obtain ⟨-, hopens, hgroup⟩ := leveled_append.mp h
  have hat : levelAt (levelAfter level front) opening = levelAfter level front := by
    rw [levelAt, isSymbol_closing_of_opening hopening, if_neg Bool.false_ne_true]
  rw [hat] at hopens
  rw [levelBehind, if_pos hopening, hat, ← hopens] at hgroup
  rw [← hopens] at hfront
  have hinside : 0 ≤ opening.depth + 1 := by omega
  refine ⟨?_, fun before lx after hsplit => ?_⟩
  · have hthrough : levelAfter (opening.depth + 1) inner = opening.depth + 1 :=
      hinner.foldl_eq levelBehind_eq_max hinside
    have hcloses := (leveled_append.mp hgroup).2.1
    rw [hthrough, levelAt, if_pos hclosing] at hcloses
    omega
  · obtain ⟨hlow, hdirect⟩ := hgroup.depth_of_balanced hinside hinner hsplit
    exact ⟨by omega, hdirect⟩

end Group

/-! ### Lexemes of a text -/

/-- Tokens that follow each other in a text and are parentheses exactly where it has them are cut
into lexemes that follow each other, each inside its token and one at least in every token; words,
numbers and symbols read as the text does. The depths begin at zero, are never negative and change
by steps. A balanced run of tokens leaves the depth as it was, and parentheses that belong together
are equally deep, one less than what is directly between them. -/
theorem ofTokens_wellNested {sql : String} {tokens : List Token}
    (hspans : Span.Ascending 0 sql.toList.length (tokens.map Token.span))
    (hexact : ∀ token ∈ tokens, token.ParenExact sql.toList) :
    let lexemes := ofTokens sql tokens
    Span.Ascending 0 sql.toList.length (lexemes.map span) ∧
    (∃ groups, groups.flatten = lexemes ∧ List.Forall₂ Token.CutInto tokens groups) ∧
    (∀ lx ∈ lexemes, lx.kind ∈ [LexemeKind.word, .number, .symbol] →
      lx.text = Text.sliceText sql.toList lx.start lx.stop) ∧
    (∀ lx ∈ lexemes, 0 ≤ lx.depth) ∧ (∀ lx ∈ lexemes.head?, lx.depth = 0) ∧
    lexemes.IsChain DepthStep ∧
    (∀ front run back, tokens = front ++ (run ++ back) → Balanced Token.depthChange run →
      let depth := front.foldl depthBehind 0
      (front ++ run).foldl depthBehind 0 = depth ∧
        lexemes = ofTokens sql front ++
          (ofTokensAt sql.toList depth run ++ ofTokensAt sql.toList depth back)) ∧
    ∀ front opening inner closing back,
      lexemes = front ++ opening :: (inner ++ closing :: back) →
      opening.isSymbol "(" = true → closing.isSymbol ")" = true → Balanced levelChange inner →
      closing.depth = opening.depth ∧ ∀ before lx after, inner = before ++ lx :: after →
        opening.depth < lx.depth ∧ (lx.depth = opening.depth + 1 ↔ IsDirect before lx) := by
  intro lexemes
  have hleveled : Leveled 0 lexemes := leveled_ofTokensAt hexact 0
  refine ⟨ofTokensAt_ascending hspans (Nat.le_refl _) 0,
    exists_forall₂_cutInto hspans (Nat.le_refl _) hexact 0,
    fun lx hlx hkind => text_of_mem_ofTokensAt hspans (Nat.le_refl _) hlx hkind,
    fun lx hlx => depth_nonneg (Int.le_refl 0) hlx, hleveled.depth_head,
    hleveled.isChain (Int.le_refl 0), ?_, ?_⟩
  · intro front run back hsplit hrun depth
    have hdepth : 0 ≤ depth := foldl_nonneg depthBehind_eq_max (Int.le_refl 0) front
    have hthrough : run.foldl depthBehind depth = depth :=
      hrun.foldl_eq depthBehind_eq_max hdepth
    refine ⟨by rw [List.foldl_append, hthrough], ?_⟩
    show ofTokensAt sql.toList 0 tokens = _
    rw [hsplit, ofTokensAt_append, ofTokensAt_append, hthrough, ofTokens]
  · intro front opening inner closing back hsplit hopening hclosing hinner
    rw [hsplit] at hleveled
    exact hleveled.depth_of_pair (Int.le_refl 0) hopening hclosing hinner

/-- A query in parentheses, between two parentheses that have no partner. -/
def strayParens : String := ") IN (SELECT (1), '(' GROUP BY a) ("

/-- The tokens of the query with its parentheses, with one token for two words. -/
def groupedQuery : List Token :=
  [⟨.leftParen, "(", 5, 6⟩, ⟨.other, "SELECT", 6, 12⟩, ⟨.leftParen, "(", 13, 14⟩,
    ⟨.number, "1", 14, 15⟩, ⟨.rightParen, ")", 15, 16⟩, ⟨.other, ",", 16, 17⟩,
    ⟨.string, "(", 18, 21⟩, ⟨.other, "GROUP BY", 22, 30⟩, ⟨.other, "a", 31, 32⟩,
    ⟨.rightParen, ")", 32, 33⟩]

/-- The query is on level zero behind a parenthesis that closes nothing, its words are one level
deeper and the number in it two, and a literal opens no group. -/
theorem ofTokens_wellNested_strayParens :
    let before : List Token := [⟨.rightParen, ")", 0, 1⟩, ⟨.other, "IN", 2, 4⟩]
    let tokens := before ++ (groupedQuery ++ [⟨.leftParen, "(", 34, 35⟩])
    let opening : Lexeme := ⟨.symbol, "(", 5, 6, 0⟩
    let closing : Lexeme := ⟨.symbol, ")", 32, 33, 0⟩
    let select : List Lexeme := [⟨.word, "SELECT", 6, 12, 1⟩, ⟨.symbol, "(", 13, 14, 1⟩]
    let number : Lexeme := ⟨.number, "1", 14, 15, 2⟩
    let grouping : List Lexeme :=
      [⟨.symbol, ")", 15, 16, 1⟩, ⟨.symbol, ",", 16, 17, 1⟩, ⟨.string, "(", 18, 21, 1⟩,
        ⟨.word, "GROUP", 22, 27, 1⟩, ⟨.word, "BY", 28, 30, 1⟩, ⟨.word, "a", 31, 32, 1⟩]
    Span.Ascending 0 strayParens.toList.length (tokens.map Token.span) ∧
      (∀ token ∈ tokens, token.ParenExact strayParens.toList) ∧
      Balanced Token.depthChange groupedQuery ∧
      (before ++ groupedQuery).foldl depthBehind 0 = before.foldl depthBehind 0 ∧
      ofTokens strayParens tokens =
        [⟨.symbol, ")", 0, 1, 0⟩, ⟨.word, "IN", 2, 4, 0⟩] ++
          opening :: ((select ++ number :: grouping) ++ closing :: [⟨.symbol, "(", 34, 35, 0⟩]) ∧
      Balanced levelChange (select ++ number :: grouping) ∧
      closing.depth = opening.depth ∧ opening.depth < number.depth ∧ ¬ IsDirect select number := by
  intro before tokens opening closing select number grouping
  have hspans : Span.Ascending 0 strayParens.toList.length (tokens.map Token.span) := by
    decide +kernel
  have hexact : ∀ token ∈ tokens, token.ParenExact strayParens.toList := by decide +kernel
  have hrun : Balanced Token.depthChange groupedQuery := by decide +kernel
  have hinner : Balanced levelChange (select ++ number :: grouping) := by decide +kernel
  have hlexemes : ofTokens strayParens tokens =
      [⟨.symbol, ")", 0, 1, 0⟩, ⟨.word, "IN", 2, 4, 0⟩] ++
        opening :: ((select ++ number :: grouping) ++ closing :: [⟨.symbol, "(", 34, 35, 0⟩]) := by
    decide +kernel
  obtain ⟨-, -, -, -, -, -, hruns, hpairs⟩ := ofTokens_wellNested hspans hexact
  obtain ⟨hsame, hdirect⟩ := hpairs _ _ _ _ _ hlexemes (by decide) (by decide) hinner
  obtain ⟨hdeeper, hdepth⟩ := hdirect select number grouping rfl
  exact ⟨hspans, hexact, hrun, (hruns before groupedQuery _ rfl hrun).1, hlexemes, hinner, hsame,
    hdeeper, fun h => absurd (hdepth.mpr h) (by decide)⟩

end Lexeme

end SqlFacts
