import SqlFacts.Proofs.Lexeme.Words
import SqlFacts.Proofs.Token.Order

/-!
# Lexemes in order

The lexemes of a token lie in order inside it, and there is at least one. So the lexemes of a text
lie in order inside the text, whatever their depths are. They move along with their tokens.
-/

namespace SqlFacts

open Lexeme

namespace Token

/-- Tests whether a token is one lexeme as it stands, rather than cut into ASCII words. -/
def isUncut (source : List Char) (token : Token) : Bool :=
  token.kind == .string || token.kind == .identifier || token.kind == .number ||
    token.text == "?" || (Text.slice source token.start token.stop).all (!isWordStart ·)

/-- A token moved to the right. -/
def move (distance : Nat) (token : Token) : Token :=
  { token with start := token.start + distance, stop := token.stop + distance }

end Token

namespace Lexeme

/-- The part of the text that a lexeme covers. -/
def span (lx : Lexeme) : Span := ⟨lx.start, lx.stop⟩

/-- A lexeme moved to the right. -/
def move (distance : Nat) (lx : Lexeme) : Lexeme :=
  { lx with start := lx.start + distance, stop := lx.stop + distance }

/-- A token that stands as it is has one lexeme, with the span of the token. -/
theorem ofToken_of_isUncut {source : List Char} {token : Token}
    (h : token.isUncut source = true) (depth : Int) :
    ∃ kind text, ofToken source depth token = [⟨kind, text, token.start, token.stop, depth⟩] := by
  unfold ofToken
  dsimp only
  split
  · exact ⟨_, _, rfl⟩
  · exact ⟨_, _, rfl⟩
  · exact ⟨_, _, rfl⟩
  · next hstring hidentifier hnumber =>
    split
    · exact ⟨_, _, rfl⟩
    · next hmark =>
      simp only [Token.isUncut, Bool.or_eq_true, beq_iff_eq] at h
      rcases h with (((h | h) | h) | h) | h
      · exact absurd h hstring
      · exact absurd h hidentifier
      · exact absurd h hnumber
      · exact absurd h hmark
      · rw [(asciiWords_eq_nil_iff token.start _).mpr h]
        exact ⟨_, _, rfl⟩

/-- The lexemes of any other token are its ASCII words, and it has some. -/
theorem ofToken_of_not_isUncut {source : List Char} {token : Token}
    (h : ¬ token.isUncut source = true) (depth : Int) :
    ofToken source depth token =
        (asciiWords token.start 0 (Text.slice source token.start token.stop)).map
          (fun word => ⟨.word, word.text, word.start, word.stop, depth⟩) ∧
      asciiWords token.start 0 (Text.slice source token.start token.stop) ≠ [] := by
  simp only [Token.isUncut, Bool.or_eq_true, not_or, beq_iff_eq] at h
  obtain ⟨⟨⟨⟨hstring, hidentifier⟩, hnumber⟩, hmark⟩, hstarts⟩ := h
  have some_words := mt (asciiWords_eq_nil_iff token.start _).mp hstarts
  refine ⟨?_, some_words⟩
  unfold ofToken
  dsimp only
  split
  · contradiction
  · contradiction
  · contradiction
  · rw [if_neg hmark]
    split
    · next hnone => exact absurd hnone some_words
    · rfl

/-- Every token has a lexeme. -/
theorem ofToken_ne_nil (source : List Char) (depth : Int) (token : Token) :
    ofToken source depth token ≠ [] := by
  by_cases h : token.isUncut source = true
  · obtain ⟨kind, text, heq⟩ := ofToken_of_isUncut h depth
    simp [heq]
  · obtain ⟨heq, some_words⟩ := ofToken_of_not_isUncut h depth
    simpa [heq] using some_words

/-- The lexemes of a token lie in order inside it. -/
theorem ofToken_ascending {source : List Char} {token : Token} (hproper : token.start < token.stop)
    (hinside : token.stop ≤ source.length) (depth : Int) :
    Span.Ascending token.start token.stop ((ofToken source depth token).map span) := by
  by_cases h : token.isUncut source = true
  · obtain ⟨kind, text, heq⟩ := ofToken_of_isUncut h depth
    rw [heq]
    exact ⟨Nat.le_refl _, hproper, Nat.le_refl _⟩
  · have words := asciiWords_ascending token.start (Text.slice source token.start token.stop)
    rw [Text.length_slice hinside] at words
    rw [(ofToken_of_not_isUncut h depth).1, List.map_map]
    exact words.mono (Nat.le_refl _) (by omega)

/-- The lexemes of two runs of tokens follow each other. -/
theorem ofTokensAt_append (source : List Char) (depth : Int) (front back : List Token) :
    ofTokensAt source depth (front ++ back) =
      ofTokensAt source depth front ++ ofTokensAt source (front.foldl depthBehind depth) back := by
  induction front generalizing depth with
  | nil => rfl
  | cons token front ih =>
    rw [List.cons_append, ofTokensAt, ih, ofTokensAt, List.append_assoc, List.foldl_cons]

/-- Every lexeme of a list of tokens comes from one of them. -/
theorem exists_token_of_mem_ofTokensAt {source : List Char} {depth : Int} {tokens : List Token}
    {lx : Lexeme} (h : lx ∈ ofTokensAt source depth tokens) :
    ∃ token ∈ tokens, ∃ own, lx ∈ ofToken source own token := by
  induction tokens generalizing depth with
  | nil => cases h
  | cons token tokens ih =>
    rcases List.mem_append.mp h with h | h
    · exact ⟨token, List.mem_cons_self, _, h⟩
    · obtain ⟨other, hmem, hother⟩ := ih h
      exact ⟨other, List.mem_cons_of_mem _ hmem, hother⟩

/-- The lexemes of tokens in order lie in order between the same offsets. -/
theorem ofTokensAt_ascending {source : List Char} {lo hi : Nat} {tokens : List Token}
    (h : Span.Ascending lo hi (tokens.map Token.span)) (hhi : hi ≤ source.length) (depth : Int) :
    Span.Ascending lo hi ((ofTokensAt source depth tokens).map span) := by
  induction tokens generalizing lo depth with
  | nil => exact h
  | cons token tokens ih =>
    obtain ⟨above, proper, rest⟩ := h
    rw [ofTokensAt, List.map_append]
    have first := ofToken_ascending proper (Nat.le_trans rest.le hhi) (depthAt depth token)
    exact (first.mono above (Nat.le_refl _)).append (ih rest _)

/-- The lexemes of a token have its depth. -/
theorem depth_of_mem_ofToken {source : List Char} {depth : Int} {token : Token} {lx : Lexeme}
    (h : lx ∈ ofToken source depth token) : lx.depth = depth := by
  by_cases hcut : token.isUncut source = true
  · obtain ⟨kind, text, heq⟩ := ofToken_of_isUncut hcut depth
    rw [heq] at h
    rw [List.mem_singleton.mp h]
  · rw [(ofToken_of_not_isUncut hcut depth).1] at h
    obtain ⟨word, _, rfl⟩ := List.mem_map.mp h
    rfl

/-- The depth of a lexeme is never negative. -/
theorem depth_nonneg {source : List Char} {tokens : List Token} {depth : Int} (h : 0 ≤ depth)
    {lx : Lexeme} (hlx : lx ∈ ofTokensAt source depth tokens) : 0 ≤ lx.depth := by
  induction tokens generalizing depth with
  | nil => cases hlx
  | cons token tokens ih =>
    have hat : 0 ≤ depthAt depth token := by
      unfold depthAt
      split <;> omega
    have hbehind : 0 ≤ depthBehind depth token := by
      unfold depthBehind
      split <;> omega
    rcases List.mem_append.mp hlx with hlx | hlx
    · rwa [depth_of_mem_ofToken hlx]
    · exact ih hbehind hlx

/-- A token with a lexeme that is no word has no other lexeme, and the lexeme has its span. -/
theorem ofToken_eq_singleton {source : List Char} {depth : Int} {token : Token} {lx : Lexeme}
    (h : lx ∈ ofToken source depth token) (hword : lx.kind ≠ .word) :
    ofToken source depth token = [lx] ∧ lx.span = token.span := by
  by_cases hcut : token.isUncut source = true
  · obtain ⟨kind, text, heq⟩ := ofToken_of_isUncut hcut depth
    rw [heq] at h ⊢
    rw [List.mem_singleton.mp h]
    exact ⟨rfl, rfl⟩
  · rw [(ofToken_of_not_isUncut hcut depth).1] at h
    obtain ⟨word, _, rfl⟩ := List.mem_map.mp h
    exact absurd rfl hword

/-- A lexeme of a token is the token as it stands, or one of the words that it is cut into. -/
theorem mem_ofToken_cases {source : List Char} {depth : Int} {token : Token} {lx : Lexeme}
    (h : lx ∈ ofToken source depth token) :
    let raw := Text.slice source token.start token.stop
    (token.kind = .string ∧ lx = ⟨.string, token.text, token.start, token.stop, depth⟩) ∨
    (token.kind = .identifier ∧ lx = ⟨.name, token.text, token.start, token.stop, depth⟩) ∨
    (token.kind = .number ∧
      lx = ⟨.number, String.ofList raw, token.start, token.stop, depth⟩) ∨
    (token.text = "?" ∧ lx = ⟨.parameter, "?", token.start, token.stop, depth⟩) ∨
    lx = ⟨.symbol, String.ofList raw, token.start, token.stop, depth⟩ ∨
    ∃ word ∈ asciiWords token.start 0 raw,
      lx = ⟨.word, word.text, word.start, word.stop, depth⟩ := by
  unfold ofToken at h
  dsimp only at h ⊢
  split at h
  · next hkind => exact .inl ⟨hkind, List.mem_singleton.mp h⟩
  · next hkind => exact .inr (.inl ⟨hkind, List.mem_singleton.mp h⟩)
  · next hkind => exact .inr (.inr (.inl ⟨hkind, List.mem_singleton.mp h⟩))
  · split at h
    · next hmark => exact .inr (.inr (.inr (.inl ⟨hmark, List.mem_singleton.mp h⟩)))
    · split at h
      · exact .inr (.inr (.inr (.inr (.inl (List.mem_singleton.mp h)))))
      · obtain ⟨word, hword, rfl⟩ := List.mem_map.mp h
        exact .inr (.inr (.inr (.inr (.inr ⟨word, hword, rfl⟩))))

/-- The text of a symbol or a number is the part of the source that its token covers. -/
theorem text_of_mem_ofToken {source : List Char} {depth : Int} {token : Token} {lx : Lexeme}
    (h : lx ∈ ofToken source depth token) (hkind : lx.kind = .symbol ∨ lx.kind = .number) :
    lx.text = Text.sliceText source token.start token.stop := by
  rcases mem_ofToken_cases h with
    ⟨-, rfl⟩ | ⟨-, rfl⟩ | ⟨-, rfl⟩ | ⟨-, rfl⟩ | rfl | ⟨word, -, rfl⟩
  · simp at hkind
  · simp at hkind
  · rfl
  · simp at hkind
  · rfl
  · simp at hkind

/-- The lexemes of a token move along with it, as long as it covers the same characters. -/
theorem ofToken_move {source part : List Char} {distance : Nat} {token : Token}
    (hslice : Text.slice source (token.start + distance) (token.stop + distance) =
      Text.slice part token.start token.stop) (depth : Int) :
    ofToken source depth (token.move distance) =
      (ofToken part depth token).map (move distance) := by
  unfold ofToken
  simp only [Token.move, hslice]
  split
  · rfl
  · rfl
  · rfl
  · split
    · rfl
    · rw [asciiWords_add]
      cases asciiWords token.start 0 (Text.slice part token.start token.stop) with
      | nil => rfl
      | cons word words => simp [WordSpan.move, move, Function.comp_def]

@[simp] theorem depthAt_move (depth : Int) (distance : Nat) (token : Token) :
    depthAt depth (token.move distance) = depthAt depth token := rfl

@[simp] theorem depthBehind_move (depth : Int) (distance : Nat) (token : Token) :
    depthBehind depth (token.move distance) = depthBehind depth token := rfl

/-- The lexemes of tokens move along with them, as long as they cover the same characters. -/
theorem ofTokensAt_move {source part : List Char} {distance : Nat} {tokens : List Token}
    (hslice : ∀ token ∈ tokens,
      Text.slice source (token.start + distance) (token.stop + distance) =
        Text.slice part token.start token.stop) (depth : Int) :
    ofTokensAt source depth (tokens.map (Token.move distance)) =
      (ofTokensAt part depth tokens).map (move distance) := by
  induction tokens generalizing depth with
  | nil => rfl
  | cons token tokens ih =>
    rw [List.map_cons, ofTokensAt, ofTokensAt, List.map_append, depthAt_move, depthBehind_move,
      ofToken_move (hslice token List.mem_cons_self),
      ih fun t ht => hslice t (List.mem_cons_of_mem _ ht)]

/-- The lexemes of a text are those of its tokens. -/
theorem exists_scan_of_lex {sql : String} {lexemes : List Lexeme} (h : lex sql = .ok lexemes) :
    ∃ tokens, Token.scan sql = .ok tokens ∧ lexemes = ofTokens sql tokens := by
  rw [lex, lexBy] at h
  cases hscan : Token.scan sql with
  | error e =>
    rw [hscan] at h
    cases h
  | ok tokens =>
    rw [hscan] at h
    exact ⟨tokens, rfl, (Except.ok.inj h).symm⟩

/-- The lexemes of a text lie in order inside it. -/
theorem lex_ascending {sql : String} {lexemes : List Lexeme} (h : lex sql = .ok lexemes) :
    Span.Ascending 0 sql.toList.length (lexemes.map span) := by
  obtain ⟨tokens, hscan, rfl⟩ := exists_scan_of_lex h
  exact ofTokensAt_ascending (Token.scan_ascending hscan) (Nat.le_refl _) 0

end Lexeme

end SqlFacts
