import SqlFacts.Proofs.Token.Order

/-!
# Shapes of tokens

The text of a token is no longer than what writes it: an escape stands for at most as many
characters as it has. A literal that begins with a digit is a numeral whose text leaves out the two
characters of its base. Wherever a token is a single parenthesis, it opens or closes a group.
-/

namespace SqlFacts.Token

/-! ### Texts of quoted bodies -/

/-- A letter behind a backslash stands for one character or for none. -/
private theorem letterEscape_length_le {c : Char} {text : List Char}
    (h : letterEscape? c = some text) : text.length ≤ 1 := by
  unfold letterEscape? at h
  split at h
  all_goals first
    | (cases h; simp)
    | (split at h <;> cases h; simp)

/-- A byte that is written as an escape takes four characters or more. -/
private theorem byteEscape_length {cs : List Char} {c : Char} {length : Nat}
    (h : byteEscape? cs = some (c, length)) : 4 ≤ length := by
  unfold byteEscape? at h
  split at h
  · cases h
  · dsimp only at h
    split at h
    · split at h
      · split at h
        · split at h
          · cases h
          · cases h
            exact Nat.le_refl 4
        · cases h
          exact Nat.le_add_right 4 _
      · split at h
        · cases h
        · cases h
          exact Nat.le_refl 4
    · split at h
      · cases h
      · cases h
        exact Nat.le_refl 4

/-- A part of a body stands for no more characters than it has. -/
private theorem part_text_le {quote : Quote} {c next : Char} {rest text : List Char}
    {length : Nat} (h : quote.part c next rest = .chars text length) :
    text.length ≤ length ∧ 1 ≤ length := by
  unfold Quote.part at h
  split at h
  · next decoded hdecoded =>
    subst h
    unfold Quote.decodedEscape? at hdecoded
    split at hdecoded
    · cases hdecoded
    · dsimp only at hdecoded
      split at hdecoded
      · next hbytes =>
        cases hdecoded
        split at hbytes
        · have := byteEscape_length hbytes
          simp only [List.length_singleton]
          omega
        · cases hbytes
      · split at hdecoded
        · cases hdecoded
        · obtain ⟨letters, hletters, hchars⟩ := Option.map_eq_some_iff.mp hdecoded
          cases hchars
          have := letterEscape_length_le hletters
          omega
  · split at h
    · split at h
      · cases h
      · cases h
        split <;> simp
    · split at h
      · cases h
      · cases h
        simp

/-- The text of a body with escapes is no longer than the body, without what was taken before. -/
private theorem escapedBody_text_le {quote : Quote} {taken : Nat} {cs : List Char} {body : Body}
    (h : quote.escapedBody? taken cs = some body) : body.text.length + taken ≤ body.length := by
  induction cs generalizing taken body with
  | nil => simp [Quote.escapedBody?] at h
  | cons c cs ih =>
    cases taken with
    | succ taken =>
      obtain ⟨inner, hinner, rfl⟩ := Option.map_eq_some_iff.mp h
      exact Nat.succ_le_succ (ih hinner)
    | zero =>
      cases cs with
      | nil =>
        simp only [Quote.escapedBody?] at h
        split at h
        · cases h
          simp
        · cases h
      | cons next rest =>
        simp only [Quote.escapedBody?] at h
        split at h
        · cases h
          simp
        · cases h
        · next text length hpart =>
          obtain ⟨inner, hinner, rfl⟩ := Option.map_eq_some_iff.mp h
          obtain ⟨hshort, hsome⟩ := part_text_le hpart
          have := ih hinner
          simp only [List.length_append]
          omega

/-- The text of a body is no longer than the body. -/
theorem body_text_le {quote : Quote} {cs : List Char} {body : Body}
    (h : quote.body? cs = some body) : body.text.length ≤ body.length := by
  unfold Quote.body? at h
  split at h
  · next plain hplain =>
    cases h
    unfold Quote.plainBody? at hplain
    split at hplain
    · split at hplain
      · cases hplain
      · dsimp only at hplain
        split at hplain
        · cases hplain
        · cases hplain
          exact Nat.le_succ _
    · cases hplain
  · exact escapedBody_text_le h

/-! ### Texts of pieces -/

private theorem quotedPiece_text_le {kind : TokenKind} {quote : Quote} {markLength : Nat}
    {cs : List Char} {p : Piece} (h : quotedPiece kind quote markLength cs = .ok p) :
    ∀ token ∈ p.token, token.2.length ≤ p.extra + 1 := by
  unfold quotedPiece at h
  split at h
  · next body hbody =>
    cases h
    have := body_text_le hbody
    rintro _ ⟨⟩
    dsimp only
    omega
  · cases h

private theorem openerPiece_text_le {mark : List Char} {opener : Opener} {cs : List Char}
    {p : Piece} (h : openerPiece mark opener cs = .ok p) :
    ∀ token ∈ p.token, token.2.length ≤ p.extra + 1 := by
  cases opener with
  | literal => exact quotedPiece_text_le h
  | dollar =>
    simp only [openerPiece, dollarPiece] at h
    split at h
    · cases h
    · split at h
      · cases h
      · split at h
        · next body hbody =>
          cases h
          have := body_text_le hbody
          rintro _ ⟨⟩
          dsimp only
          omega
        · cases h
  | comment style =>
    simp only [openerPiece] at h
    split at h
    · cases h
      intro _ hnone
      cases hnone
    · cases h
  | operator =>
    cases h
    rintro _ ⟨⟩
    dsimp only
    omega

private theorem numberPiece_text_le (afterMark : Bool) (c : Char) (cs : List Char) :
    ∀ token ∈ (numberPiece afterMark c cs).token,
      token.2.length ≤ (numberPiece afterMark c cs).extra + 1 := by
  unfold numberPiece
  dsimp only
  intro token
  split
  · split
    · rintro ⟨⟩
      dsimp only
      omega
    · rintro ⟨⟩
      simp only [List.length_cons, List.length_take]
      omega
  · split
    · rintro ⟨⟩
      simp only [List.length_cons, List.length_take]
      omega
    · rintro ⟨⟩
      simp only [List.length_cons, List.length_take]
      omega

/-- The text of a token is no longer than the piece that it comes from. -/
theorem piece_text_le {afterMark : Bool} {c : Char} {cs text : List Char} {kind : TokenKind}
    {extra : Nat} (h : piece afterMark c cs = .ok ⟨some (kind, text), extra⟩) :
    text.length ≤ extra + 1 := by
  unfold piece at h
  dsimp only at h
  split at h
  · cases h
  · split at h
    · have := numberPiece_text_le afterMark c cs
      rw [Except.ok.inj h] at this
      exact this _ rfl
    · split at h
      · exact quotedPiece_text_le h _ rfl
      · split at h
        · next hfront =>
          cases h
          rw [hfront]
          exact Nat.le_refl _
        · split at h
          · exact openerPiece_text_le h _ rfl
          · split at h
            · cases h
              exact Nat.le_refl _
            · cases h
              exact Nat.le_refl _

/-- A literal that begins with a digit leaves out that digit and the letter behind it. -/
theorem piece_numeral {afterMark : Bool} {c : Char} {cs text : List Char} {extra : Nat}
    (h : piece afterMark c cs = .ok ⟨some (.string, text), extra⟩) (hdigit : c.isDigit = true) :
    text.length + 1 = extra := by
  unfold piece at h
  dsimp only at h
  split at h
  · cases h
  · rw [Except.ok.injEq] at h
    unfold numberPiece at h
    split at h
    · dsimp only at h
      split at h
      · cases h
        rfl
      · cases h
    · split at h <;> cases h

/-- A parenthesis is a piece of its own. -/
theorem piece_of_paren {c : Char} (h : c = '(' ∨ c = ')') (afterMark : Bool) (cs : List Char) :
    piece afterMark c cs = .ok ⟨some (symbolKind c, [c]), 0⟩ := by
  have hopener : opener? (c :: cs) = none := by
    cases hfound : opener? (c :: cs) with
    | none => rfl
    | some found =>
      obtain ⟨hmem, hprefix⟩ := mem_openers_of_opener hfound
      have hapart : ∀ o ∈ openers, ¬ (o.1 = [] ∨ o.1.head? = some '(' ∨ o.1.head? = some ')') := by
        decide
      refine absurd ?_ (hapart _ hmem)
      cases hmark : found.1 with
      | nil => exact .inl rfl
      | cons first mark =>
        rw [hmark] at hprefix
        obtain ⟨_, hwhole⟩ := hprefix
        cases hwhole
        exact .inr (h.imp (congrArg some) (congrArg some))
  have hkeyword : ((c :: cs).take symbolKeyword.length).map Char.toUpper ≠
      symbolKeyword.toList := by
    intro hfront
    have hfirst := congrArg List.head? hfront
    rcases h with rfl | rfl <;> cases hfirst
  unfold piece
  dsimp only
  rw [if_neg hkeyword, hopener]
  rcases h with rfl | rfl <;> rfl

/-! ### Tokens of a text -/

/-- A token opens or closes a group exactly if it is that parenthesis of the text, and then it reads
so. -/
structure ParenExact (source : List Char) (token : Token) : Prop where
  opens_iff : token.kind = .leftParen ↔ Text.slice source token.start token.stop = ['(']
  closes_iff : token.kind = .rightParen ↔ Text.slice source token.start token.stop = [')']
  text : isParenKind token.kind = true →
    token.text = Text.sliceText source token.start token.stop

/-- Whether a token opens or closes a group where the text does can be computed. -/
instance (source : List Char) (token : Token) : Decidable (token.ParenExact source) :=
  decidable_of_iff
    ((token.kind = .leftParen ↔ Text.slice source token.start token.stop = ['(']) ∧
      (token.kind = .rightParen ↔ Text.slice source token.start token.stop = [')']) ∧
      (isParenKind token.kind = true → token.text = Text.sliceText source token.start token.stop))
    ⟨fun ⟨hopens, hcloses, htext⟩ => ⟨hopens, hcloses, htext⟩,
      fun h => ⟨h.opens_iff, h.closes_iff, h.text⟩⟩

section Scan

variable {sql : String} {tokens : List Token} {token : Token}

/-- The text of a token is no longer than its span. -/
theorem scan_text_le (h : scan sql = .ok tokens) (ht : token ∈ tokens) :
    token.text.toList.length ≤ token.stop - token.start := by
  obtain ⟨afterMark, c, rest, text, extra, hpiece, htext, hstop, -⟩ :=
    exists_piece_of_mem_scan h ht
  have := piece_text_le hpiece
  rw [htext, String.toList_ofList]
  omega

/-- The text of a numeral that is a literal is two characters shorter than its span. -/
theorem scan_numeral (h : scan sql = .ok tokens) (ht : token ∈ tokens)
    (hkind : token.kind = .string) (hdigit : (sql.toList[token.start]?).any Char.isDigit = true) :
    token.text.toList.length + 2 = token.stop - token.start := by
  obtain ⟨afterMark, c, rest, text, extra, hpiece, htext, hstop, hslice⟩ :=
    exists_piece_of_mem_scan h ht
  have hfirst : sql.toList[token.start]? = some c := by
    have hhead : (Text.slice sql.toList token.start token.stop)[0]? =
        sql.toList[token.start + 0]? := Text.getElem?_slice (by omega)
    rw [hslice] at hhead
    exact hhead.symm
  rw [hfirst, Option.any_some] at hdigit
  rw [hkind] at hpiece
  have := piece_numeral hpiece hdigit
  rw [htext, String.toList_ofList]
  omega

/-- A token that is a parenthesis is of the kind of that parenthesis. -/
theorem scan_kind_of_paren {c : Char} (h : scan sql = .ok tokens) (ht : token ∈ tokens)
    (hparen : c = '(' ∨ c = ')')
    (hslice : Text.slice sql.toList token.start token.stop = [c]) :
    token.kind = symbolKind c := by
  obtain ⟨afterMark, d, rest, text, extra, hpiece, -, -, hpart⟩ := exists_piece_of_mem_scan h ht
  rw [hslice, List.cons.injEq] at hpart
  obtain ⟨rfl, -⟩ := hpart
  rw [piece_of_paren hparen, Except.ok.injEq, Piece.mk.injEq, Option.some.injEq,
    Prod.mk.injEq] at hpiece
  exact hpiece.1.1.symm

/-- The tokens of a text open and close groups exactly where its parentheses are. -/
theorem scan_parenExact (h : scan sql = .ok tokens) (ht : token ∈ tokens) :
    token.ParenExact sql.toList where
  opens_iff := ⟨scan_leftParen h ht, scan_kind_of_paren h ht (.inl rfl)⟩
  closes_iff := by
    refine ⟨fun hkind => ?_, scan_kind_of_paren h ht (.inr rfl)⟩
    obtain ⟨c, hsymbol, -, hslice⟩ := scan_paren h ht (by rw [hkind]; rfl)
    obtain rfl : c = ')' := by
      rw [hkind] at hsymbol
      unfold symbolKind at hsymbol
      grind
    exact hslice
  text hkind := by
    obtain ⟨c, -, htext, hslice⟩ := scan_paren h ht hkind
    rw [htext, Text.sliceText, hslice]

end Scan

end SqlFacts.Token
