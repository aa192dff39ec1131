import Mathlib.Logic.ExistsUnique
import SqlFacts.Proofs.Lexeme.Statements

/-!
# What the statements of a script cover

The text of a statement reaches from its first to its last lexeme. A token that is cut into ASCII
words may begin or end with characters that belong to none of them, such as letters with accents.
So the texts of the statements hold every token wholly, save for the first and the last token of
a statement that is cut in this way. The main statement says exactly which tokens are lost in part.
-/

namespace SqlFacts

open Lexeme

namespace Token

/-- Tests whether a token begins with its first lexeme. -/
def beginsWithLexeme (source : List Char) (token : Token) : Bool :=
  token.isUncut source || (Text.slice source token.start token.stop).head?.any isWordStart

/-- Tests whether a token ends with its last lexeme. -/
def endsWithLexeme (source : List Char) (token : Token) : Bool :=
  token.isUncut source || endsInWord (Text.slice source token.start token.stop)

end Token

namespace Lexeme

/-- The first lexeme of a token begins where the token does exactly if the token begins with it. -/
theorem start_head_ofToken_iff {source : List Char} {depth : Int} {token : Token} {lx : Lexeme}
    (h : (ofToken source depth token).head? = some lx) :
    lx.start = token.start ↔ token.beginsWithLexeme source = true := by
  by_cases hcut : token.isUncut source = true
  · obtain ⟨kind, text, heq⟩ := ofToken_of_isUncut hcut depth
    rw [heq] at h
    cases h
    simp [Token.beginsWithLexeme, hcut]
  · rw [(ofToken_of_not_isUncut hcut depth).1, List.head?_map] at h
    obtain ⟨word, hword, rfl⟩ := Option.map_eq_some_iff.mp h
    simpa [Token.beginsWithLexeme, hcut] using start_head_asciiWords_iff hword

/-- The last lexeme of a token ends where the token does exactly if the token ends with it. -/
theorem stop_getLast_ofToken_iff {source : List Char} {depth : Int} {token : Token} {lx : Lexeme}
    (hproper : token.start < token.stop) (hinside : token.stop ≤ source.length)
    (h : (ofToken source depth token).getLast? = some lx) :
    lx.stop = token.stop ↔ token.endsWithLexeme source = true := by
  by_cases hcut : token.isUncut source = true
  · obtain ⟨kind, text, heq⟩ := ofToken_of_isUncut hcut depth
    rw [heq] at h
    cases h
    simp [Token.endsWithLexeme, hcut]
  · rw [(ofToken_of_not_isUncut hcut depth).1, List.getLast?_map] at h
    obtain ⟨word, hword, rfl⟩ := Option.map_eq_some_iff.mp h
    have hends := stop_getLast_asciiWords_iff hword
    rw [Text.length_slice hinside, Nat.add_sub_cancel' (Nat.le_of_lt hproper)] at hends
    simpa [Token.endsWithLexeme, hcut] using hends

/-- Some tokens have some lexemes. -/
theorem ofTokensAt_ne_nil (source : List Char) (depth : Int) {tokens : List Token}
    (h : tokens ≠ []) : ofTokensAt source depth tokens ≠ [] := by
  obtain ⟨token, rest, rfl⟩ := List.exists_cons_of_ne_nil h
  simp [ofTokensAt, ofToken_ne_nil]

section Run

variable {source : List Char} {lo hi : Nat} {front back : List Token} {token : Token}

private theorem start_hull_le_iff
    (h : Span.Ascending lo hi ((front ++ token :: back).map Token.span)) (hhi : hi ≤ source.length)
    (depth : Int) :
    (hull (ofTokensAt source depth (front ++ token :: back))).start ≤ token.start ↔
      (front = [] → token.beginsWithLexeme source = true) := by
  cases front with
  | nil =>
    obtain ⟨_, proper, rest⟩ := h
    obtain ⟨lx, others, hlexemes⟩ :=
      List.exists_cons_of_ne_nil (ofToken_ne_nil source (depthAt depth token) token)
    have within := ofToken_ascending proper (Nat.le_trans rest.le hhi) (depthAt depth token)
    have inside := within.bounds (List.mem_map_of_mem (hlexemes ▸ List.mem_cons_self))
    have hstart : (hull (ofTokensAt source depth ([] ++ token :: back))).start = lx.start := by
      simp [hull, ofTokensAt, hlexemes]
    rw [hstart, ← start_head_ofToken_iff (by rw [hlexemes]; rfl)]
    simp only [span] at inside
    simp only [forall_const]
    omega
  | cons first front =>
    -- The statement begins inside its first token, which ends before this one begins.
    obtain ⟨_, proper, rest⟩ := h
    obtain ⟨lx, others, hlexemes⟩ :=
      List.exists_cons_of_ne_nil (ofToken_ne_nil source (depthAt depth first) first)
    have within := ofToken_ascending proper (Nat.le_trans rest.le hhi) (depthAt depth first)
    have inside := within.bounds (List.mem_map_of_mem (hlexemes ▸ List.mem_cons_self))
    have hstart :
        (hull (ofTokensAt source depth (first :: front ++ token :: back))).start = lx.start := by
      simp [hull, ofTokensAt, hlexemes]
    have behind := (rest.bounds (List.mem_map_of_mem
      (List.mem_append_right front (List.mem_cons_self (a := token) (l := back))))).1
    rw [hstart]
    simp only [span, Token.span] at inside behind
    simp only [reduceCtorEq, false_implies, iff_true]
    omega

private theorem le_stop_hull_iff
    (h : Span.Ascending lo hi ((front ++ token :: back).map Token.span)) (hhi : hi ≤ source.length)
    (depth : Int) :
    token.stop ≤ (hull (ofTokensAt source depth (front ++ token :: back))).stop ↔
      (back = [] → token.endsWithLexeme source = true) := by
  rw [ofTokensAt_append, ofTokensAt]
  rw [List.map_append, List.map_cons] at h
  obtain ⟨mid, _, _, proper, rest⟩ := h.of_append
  have hinside : token.stop ≤ source.length := Nat.le_trans rest.le hhi
  generalize front.foldl depthBehind depth = depth'
  have ascending := ofToken_ascending proper hinside (depthAt depth' token)
  have hne := ofToken_ne_nil source (depthAt depth' token) token
  cases back with
  | nil =>
    have hlast := List.getLast?_eq_some_getLast hne
    have inside := ascending.bounds (List.mem_map_of_mem (List.getLast_mem hne))
    have hstop : (hull (ofTokensAt source depth front ++
        (ofToken source (depthAt depth' token) token ++
          ofTokensAt source (depthBehind depth' token) []))).stop =
        ((ofToken source (depthAt depth' token) token).getLast hne).stop := by
      simp [hull, ofTokensAt, hlast]
    rw [hstop, ← stop_getLast_ofToken_iff proper hinside hlast]
    simp only [span] at inside
    simp only [forall_const]
    omega
  | cons next back =>
    -- The statement ends inside its last token, which begins after this one ends.
    have hne' := ofTokensAt_ne_nil source (depthBehind depth' token) (List.cons_ne_nil next back)
    have inside := (ofTokensAt_ascending rest hhi (depthBehind depth' token)).bounds
      (List.mem_map_of_mem (List.getLast_mem hne'))
    have hstop : (hull (ofTokensAt source depth front ++
        (ofToken source (depthAt depth' token) token ++
          ofTokensAt source (depthBehind depth' token) (next :: back)))).stop =
        ((ofTokensAt source (depthBehind depth' token) (next :: back)).getLast hne').stop := by
      simp [hull, List.getLast?_append, List.getLast?_eq_some_getLast hne']
    rw [hstop]
    simp only [span, Token.span] at inside
    simp only [reduceCtorEq, false_implies, iff_true]
    omega

/-- What the lexemes of tokens in order reach over covers one of the tokens exactly if the token
begins with a lexeme, unless another stands in front, and ends with one, unless another follows. -/
theorem hull_covers_token_iff
    (h : Span.Ascending lo hi ((front ++ token :: back).map Token.span)) (hhi : hi ≤ source.length)
    (depth : Int) :
    (hull (ofTokensAt source depth (front ++ token :: back))).Covers token.span ↔
      (front = [] → token.beginsWithLexeme source = true) ∧
        (back = [] → token.endsWithLexeme source = true) :=
  and_congr (start_hull_le_iff h hhi depth) (le_stop_hull_iff h hhi depth)

end Run

/-- A token of a group has a lexeme among those of the group, which lies inside the token. -/
theorem exists_mem_ofTokensAt {source : List Char} {own : List Token} {token : Token}
    (hmem : token ∈ own) (hproper : token.start < token.stop) (hinside : token.stop ≤ source.length)
    (depth : Int) :
    ∃ lx ∈ ofTokensAt source depth own, lx.start < lx.stop ∧ token.span.Covers lx.span := by
  obtain ⟨front, back, rfl⟩ := List.append_of_mem hmem
  obtain ⟨lx, others, hlexemes⟩ := List.exists_cons_of_ne_nil
    (ofToken_ne_nil source (depthAt (front.foldl depthBehind depth) token) token)
  have hlx : lx ∈ ofToken source (depthAt (front.foldl depthBehind depth) token) token :=
    hlexemes ▸ List.mem_cons_self
  obtain ⟨above, proper, below⟩ :=
    (ofToken_ascending hproper hinside _).bounds (List.mem_map_of_mem hlx)
  refine ⟨lx, ?_, proper, above, below⟩
  rw [ofTokensAt_append, ofTokensAt]
  exact List.mem_append_right _ (List.mem_append_left _ hlx)

/-- Exactly one of several groups reaches over a token exactly if its own group does. -/
theorem hull_covers_once_iff {source : List Char} {groups : List (List Token)} {own : List Token}
    {token : Token}
    (hhulls : Span.Ascending 0 source.length ((groups.map (ofTokensAt source 0)).map hull))
    (htokens : ∀ group ∈ groups, Span.Ascending 0 source.length (group.map Token.span))
    (hown : own ∈ groups) (hmem : token ∈ own) :
    (∃! k : Nat, ∃ g : List Lexeme,
        (groups.map (ofTokensAt source 0))[k]? = some g ∧ (hull g).Covers token.span) ↔
      (hull (ofTokensAt source 0 own)).Covers token.span := by
  have ascending := htokens own hown
  obtain ⟨-, hproper, hinside⟩ := ascending.bounds (List.mem_map_of_mem hmem)
  obtain ⟨lx, hlx, proper, hpart⟩ := exists_mem_ofTokensAt hmem hproper hinside 0
  have hcover := hull_covers (ofTokensAt_ascending ascending (Nat.le_refl _) 0) hlx
  obtain ⟨k, hk, rfl⟩ := List.getElem_of_mem hown
  have hat : (groups.map (ofTokensAt source 0))[k]? = some (ofTokensAt source 0 groups[k]) := by
    simp [hk]
  -- A group that reaches over the token reaches over its lexeme, which no other group does.
  have unique {k' : Nat} {g : List Lexeme} (hg : (groups.map (ofTokensAt source 0))[k']? = some g)
      (hcover' : (hull g).Covers token.span) : k' = k :=
    hhulls.index_unique (List.getElem?_map .. ▸ congrArg (Option.map hull) hg)
      (List.getElem?_map .. ▸ congrArg (Option.map hull) hat) (hcover'.trans hpart) hcover proper
  constructor
  · rintro ⟨k', ⟨g, hg, hcover'⟩, -⟩
    obtain rfl := unique hg hcover'
    rw [hat] at hg
    rwa [Option.some.inj hg]
  · intro hcovers
    exact ⟨k, ⟨_, hat, hcovers⟩, fun k' ⟨g, hg, hcover'⟩ => unique hg hcover'⟩

/-- Only the first token of a group in order has none in front of it. -/
theorem head_eq_some_iff {lo hi : Nat} {front back : List Token} {token : Token}
    (h : Span.Ascending lo hi ((front ++ token :: back).map Token.span)) :
    (front ++ token :: back).head? = some token ↔ front = [] := by
  cases front with
  | nil => simp
  | cons first front =>
    obtain ⟨_, proper, rest⟩ := h
    have behind := (rest.bounds (List.mem_map_of_mem
      (List.mem_append_right front (List.mem_cons_self (a := token) (l := back))))).1
    simp only [List.cons_append, List.head?_cons, Option.some.injEq, reduceCtorEq, iff_false]
    rintro rfl
    omega

/-- Only the last token of a group in order has none behind it. -/
theorem getLast_eq_some_iff {lo hi : Nat} {front back : List Token} {token : Token}
    (h : Span.Ascending lo hi ((front ++ token :: back).map Token.span)) :
    (front ++ token :: back).getLast? = some token ↔ back = [] := by
  cases back with
  | nil => simp
  | cons next back =>
    rw [List.map_append, List.map_cons] at h
    obtain ⟨mid, _, _, proper, rest⟩ := h.of_append
    have hne : next :: back ≠ [] := List.cons_ne_nil next back
    have behind := (rest.bounds (List.mem_map_of_mem (List.getLast_mem hne))).1
    have hlast : (front ++ token :: next :: back).getLast? = some ((next :: back).getLast hne) := by
      simp [List.getLast?_append, List.getLast?_cons, List.getLast?_eq_some_getLast hne]
    rw [hlast]
    simp only [Option.some.injEq, reduceCtorEq, iff_false]
    intro heq
    rw [heq] at behind
    simp only [Token.span] at proper behind
    omega

end Lexeme

/-! ### Descriptors of a script -/

/-- The texts of the statements of a readable script are slices of it in order, disjoint and not
empty. Every token but the ends of statements belongs to the tokens of a statement, and lies wholly
inside the text of exactly one descriptor under the exact condition that it begins with a lexeme
if it is the first token of its statement, and ends with one if it is the last. -/
theorem describeScript_covers_iff {script : String} {tokens : List Token}
    (hscan : Token.scan script = .ok tokens) :
    let source := script.toList
    let lexemes := ofTokens script tokens
    let groups := statements lexemes
    (describeScript script).result.map (·.sql) =
        groups.map (fun g => Text.sliceText source (hull g).start (hull g).stop) ∧
      Span.Ascending 0 source.length (groups.map hull) ∧
      ∀ token ∈ tokens, (¬ ∃ lx ∈ lexemes, lx.endsStatement = true ∧ lx.span = token.span) →
        ∃ own ∈ Token.statements source tokens, token ∈ own ∧
          ((∃! k : Nat, ∃ g : List Lexeme, groups[k]? = some g ∧ (hull g).Covers token.span) ↔
            (own.head? = some token → token.beginsWithLexeme source = true) ∧
              (own.getLast? = some token → token.endsWithLexeme source = true)) := by
  intro source lexemes groups
  have hlex : Lexeme.lex script = .ok lexemes := by rw [lex, lexBy, hscan]; rfl
  have hparens : Token.ParensOpen source tokens := fun t ht => Token.scan_leftParen hscan ht
  have hgroups : groups = (Token.statements source tokens).map (ofTokensAt source 0) :=
    Token.statements_ofTokens hparens
  have hascending := hull_statements_ascending hscan
  refine ⟨?_, hascending, ?_⟩
  · rw [describeScript_result hlex, List.map_map]
    apply List.map_congr_left
    intro g hg
    rw [Function.comp_apply, sql_describeStatement,
      statementText_eq (ne_nil_of_mem_statements hg)]
  · intro token ht hsep
    rcases Token.mem_pieces_or_separator hparens 0 ht with ⟨own, hown, hmem⟩ | hends
    · have hstatement : own ∈ Token.statements source tokens :=
        List.mem_filter.mpr ⟨hown, by simpa using List.ne_nil_of_mem hmem⟩
      refine ⟨own, hstatement, hmem, ?_⟩
      have htokens (group : List Token) (hg : group ∈ Token.statements source tokens) :
          Span.Ascending 0 source.length (group.map Token.span) :=
        (Token.scan_ascending hscan).sublist
          ((Token.infix_of_mem_pieces (List.mem_filter.mp hg).1).sublist.map Token.span)
      rw [hgroups, hull_covers_once_iff (hgroups ▸ hascending) htokens hstatement hmem]
      have ascending := htokens own hstatement
      obtain ⟨front, back, rfl⟩ := List.append_of_mem hmem
      rw [hull_covers_token_iff ascending (Nat.le_refl _) 0, head_eq_some_iff ascending,
        getLast_eq_some_iff ascending]
    · exact absurd hends hsep

/-- The tokens of a script whose first statement ends in an accented letter. -/
def accentedTokens : List Token :=
  [⟨.other, "SELECT", 0, 6⟩, ⟨.other, "*", 7, 8⟩, ⟨.other, "FROM", 9, 13⟩,
    ⟨.other, "tablé", 14, 19⟩, ⟨.other, ";", 19, 20⟩, ⟨.other, "SELECT", 21, 27⟩,
    ⟨.number, "2", 28, 29⟩]

/-- The accented letter at the end of a statement is lost. -/
theorem describeScript_loses_accent :
    Token.scan "SELECT * FROM tablé; SELECT 2" = .ok accentedTokens ∧
      ¬ ∃! k : Nat, ∃ g : List Lexeme,
        (statements (ofTokens "SELECT * FROM tablé; SELECT 2" accentedTokens))[k]? = some g ∧
          (hull g).Covers ⟨14, 19⟩ := by
  have hscan : Token.scan "SELECT * FROM tablé; SELECT 2" = .ok accentedTokens :=
    Token.scan_eq_ok (by decide +kernel)
  refine ⟨hscan, ?_⟩
  obtain ⟨-, -, hcovers⟩ := describeScript_covers_iff hscan
  obtain ⟨own, hown, hmem, hiff⟩ :=
    hcovers ⟨.other, "tablé", 14, 19⟩ (by decide +kernel) (by decide +kernel)
  have hfirst : ∀ own ∈ Token.statements "SELECT * FROM tablé; SELECT 2".toList accentedTokens,
      (⟨.other, "tablé", 14, 19⟩ : Token) ∈ own →
        own.getLast? = some ⟨.other, "tablé", 14, 19⟩ := by decide +kernel
  intro honce
  have hends := (hiff.mp honce).2 (hfirst own hown hmem)
  exact absurd hends (by decide +kernel)

end SqlFacts
