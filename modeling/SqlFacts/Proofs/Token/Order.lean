import SqlFacts.Proofs.Span
import SqlFacts.Text.Basic
import SqlFacts.Token.Scan

/-!
# Tokens in order

The tokens of a text follow each other without overlap, none of them is empty, and none reaches
beyond the end of the text: every reader of a piece takes only characters that are there. A token
that opens a group is a parenthesis.
-/

namespace SqlFacts.Token

/-- The part of the text that a token covers. -/
def span (token : Token) : Span := ⟨token.start, token.stop⟩

/-! ### Numbers and words -/

/-- The number of characters behind the first digit. -/
def NumberTail.length : NumberTail → Nat
  | .number length => length
  | .name length => length

@[simp] theorem NumberTail.length_succ (tail : NumberTail) :
    tail.succ.length = tail.length + 1 := by
  cases tail <;> rfl

private theorem decimalTail_length_le (afterMark : Bool) (previous : Char) (pointed : Bool)
    (exponent : ExponentState) (cs : List Char) :
    (decimalTail afterMark previous pointed exponent cs).length ≤ cs.length := by
  induction cs generalizing previous pointed exponent with
  | nil => simp [decimalTail, NumberTail.length]
  | cons c rest ih =>
    have word_le := (List.takeWhile_prefix isWordChar (l := rest)).length_le
    have next_le (previous : Char) (pointed : Bool) (exponent : ExponentState) :
        (decimalTail afterMark previous pointed exponent rest).succ.length ≤
          (c :: rest).length := by
      rw [NumberTail.length_succ, List.length_cons]
      exact Nat.succ_le_succ (ih previous pointed exponent)
    have stop_le : (NumberTail.number 0).length ≤ (c :: rest).length := Nat.zero_le _
    unfold decimalTail
    dsimp only
    split_ifs
    all_goals first
      | exact next_le _ _ _
      | exact stop_le
      | exact Nat.succ_le_succ word_le

private theorem numberPiece_extra_le (afterMark : Bool) (c : Char) (cs : List Char) :
    (numberPiece afterMark c cs).extra ≤ cs.length := by
  unfold numberPiece
  split
  · next base hbase =>
    have positive : 0 < cs.length := by
      cases cs with
      | nil => simp at hbase
      | cons d ds => simp
    have digits_le := (List.takeWhile_prefix isWordChar (l := cs.drop 1)).length_le
    rw [List.length_drop] at digits_le
    dsimp only
    split <;> dsimp only <;> omega
  · have tail_le := decimalTail_length_le afterMark c false .absent cs
    split
    · next length htail => simpa [htail, NumberTail.length] using tail_le
    · next length htail => simpa [htail, NumberTail.length] using tail_le

private theorem wordPiece_extra_le (afterMark : Bool) (c : Char) (cs : List Char) :
    (wordPiece afterMark c cs).extra ≤ cs.length :=
  (List.takeWhile_prefix isWordChar (l := cs)).length_le

/-! ### Quoted bodies -/

private theorem plainBody_length_le {quote : Quote} {cs : List Char} {body : Body}
    (h : quote.plainBody? cs = some body) : body.length ≤ cs.length := by
  unfold Quote.plainBody? at h
  split at h
  · next mark _ =>
    have parts :=
      congrArg List.length (List.takeWhile_append_dropWhile (p := (· != mark)) (l := cs))
    rw [List.length_append] at parts
    split at h
    · cases h
    · next _ after hafter =>
      rw [hafter, List.length_cons] at parts
      dsimp only at h
      split at h
      · cases h
      · cases h
        dsimp only
        omega
  · cases h

private theorem decodedEscape_ne_closing (quote : Quote) (c next : Char) (rest : List Char) :
    quote.decodedEscape? c next rest ≠ some .closing := by
  unfold Quote.decodedEscape?
  split
  · simp
  · dsimp only
    split
    · simp
    · split
      · simp
      · cases letterEscape? next <;> simp

private theorem closing_of_part {quote : Quote} {c next : Char} {rest : List Char}
    (h : quote.part c next rest = .closing) :
    quote.closing.isPrefixOf (c :: next :: rest) = true := by
  unfold Quote.part at h
  split at h
  · next hdecoded =>
    subst h
    exact absurd hdecoded (decodedEscape_ne_closing quote c next rest)
  · split at h
    · split at h <;> cases h
    · split at h
      · next hclosing => exact hclosing
      · cases h

private theorem escapedBody_length_le {quote : Quote} {taken : Nat} {cs : List Char} {body : Body}
    (h : quote.escapedBody? taken cs = some body) : body.length ≤ cs.length := by
  induction cs generalizing taken body with
  | nil => simp [Quote.escapedBody?] at h
  | cons c cs ih =>
    cases taken with
    | succ taken =>
      obtain ⟨inner, hinner, rfl⟩ := Option.map_eq_some_iff.mp h
      exact Nat.succ_le_succ (ih hinner)
    | zero =>
      cases cs with
      | nil =>
        simp only [Quote.escapedBody?] at h
        split at h
        · cases h
          simp
        · cases h
      | cons next rest =>
        simp only [Quote.escapedBody?] at h
        split at h
        · next hpart =>
          cases h
          exact (List.isPrefixOf_iff_prefix.mp (closing_of_part hpart)).length_le
        · cases h
        · obtain ⟨inner, hinner, rfl⟩ := Option.map_eq_some_iff.mp h
          exact Nat.succ_le_succ (ih hinner)

private theorem body_length_le {quote : Quote} {cs : List Char} {body : Body}
    (h : quote.body? cs = some body) : body.length ≤ cs.length := by
  unfold Quote.body? at h
  split at h
  · next plain hplain =>
    cases h
    exact plainBody_length_le hplain
  · exact escapedBody_length_le h

private theorem quotedPiece_extra_le {kind : TokenKind} {quote : Quote} {markLength : Nat}
    {c : Char} {cs : List Char} {p : Piece} (hmark : markLength ≤ (c :: cs).length)
    (h : quotedPiece kind quote markLength (c :: cs) = .ok p) : p.extra ≤ cs.length := by
  unfold quotedPiece at h
  split at h
  · next body hbody =>
    cases h
    have body_le := body_length_le hbody
    rw [List.length_drop] at body_le
    simp only [List.length_cons] at hmark body_le
    dsimp only
    omega
  · cases h

private theorem dollarPiece_extra_le {cs : List Char} {p : Piece} (h : dollarPiece cs = .ok p) :
    p.extra ≤ cs.length := by
  unfold dollarPiece at h
  split at h
  · cases h
  · next hne =>
    split at h
    · cases h
    · next tag htag =>
      have tag_le : tag.length ≤ cs.length := by
        split at htag
        · cases htag
          cases cs with
          | nil => simp at hne
          | cons d ds => simp
        · exact body_length_le htag
      split at h
      · next body hbody =>
        cases h
        have body_le := body_length_le hbody
        rw [List.length_drop] at body_le
        dsimp only
        omega
      · cases h

/-! ### Pieces -/

private theorem mem_openers_foldl (cs : List Char) (candidates : List (List Char × Opener))
    (best : Option (List Char × Opener)) :
    ∀ found ∈ candidates.foldl
      (fun best candidate =>
        if candidate.1.isPrefixOf cs &&
            (best.map (·.1.length)).all (· < candidate.1.length) then some candidate
        else best)
      best, found ∈ best ∨ (found ∈ candidates ∧ found.1.isPrefixOf cs = true) := by
  induction candidates generalizing best with
  | nil => exact fun found hfound => .inl hfound
  | cons candidate candidates ih =>
    rw [List.foldl_cons]
    intro found hfound
    rcases ih _ found hfound with hbest | ⟨hmem, hprefix⟩
    · split at hbest
      · next hlonger =>
        rw [Bool.and_eq_true] at hlonger
        cases Option.mem_some.mp hbest
        exact .inr ⟨List.mem_cons_self, hlonger.1⟩
      · exact .inl hbest
    · exact .inr ⟨List.mem_cons_of_mem _ hmem, hprefix⟩

/-- A mark that a text begins with is one of the marks, and it is there. -/
theorem mem_openers_of_opener {cs : List Char} {found : List Char × Opener}
    (h : opener? cs = some found) : found ∈ openers ∧ found.1 <+: cs := by
  rcases mem_openers_foldl cs openers none found h with hnone | ⟨hmem, hprefix⟩
  · cases hnone
  · exact ⟨hmem, List.isPrefixOf_iff_prefix.mp hprefix⟩

private theorem openerPiece_extra_le {mark : List Char} {opener : Opener} {c : Char}
    {cs : List Char} {p : Piece} (hmark : mark.length ≤ (c :: cs).length)
    (h : openerPiece mark opener (c :: cs) = .ok p) (htoken : p.token.isSome) :
    p.extra ≤ cs.length := by
  cases opener with
  | literal => exact quotedPiece_extra_le hmark h
  | dollar => exact dollarPiece_extra_le h
  | comment style =>
    simp only [openerPiece] at h
    split at h
    · cases h
      cases htoken
    · cases h
  | operator =>
    cases h
    simp only [List.length_cons] at hmark
    dsimp only
    omega

/-- A token takes no more characters than there are. -/
theorem piece_extra_le {afterMark : Bool} {c : Char} {cs : List Char} {p : Piece}
    (h : piece afterMark c cs = .ok p) (htoken : p.token.isSome) : p.extra ≤ cs.length := by
  unfold piece at h
  dsimp only at h
  split at h
  · cases h
    cases htoken
  · split at h
    · cases h
      exact numberPiece_extra_le afterMark c cs
    · split at h
      · exact quotedPiece_extra_le (by simp) h
      · split at h
        · next hfront =>
          cases h
          have hlength := congrArg List.length hfront
          rw [List.length_map, List.length_take, List.length_cons,
            show symbolKeyword.length = 12 from rfl,
            show symbolKeyword.toList.length = 12 from rfl] at hlength
          dsimp only
          rw [show symbolKeyword.length = 12 from rfl]
          omega
        · split at h
          · next mark opener hopener =>
            exact openerPiece_extra_le (mem_openers_of_opener hopener).2.length_le h htoken
          · split at h
            · cases h
              exact Nat.zero_le _
            · cases h
              exact wordPiece_extra_le afterMark c cs

/-- A quotation mark begins a token of the kind that it announces. -/
theorem quotedPiece_kind {kind : TokenKind} {quote : Quote} {markLength : Nat}
    {cs : List Char} {p : Piece} (h : quotedPiece kind quote markLength cs = .ok p) :
    ∃ text, p.token = some (kind, text) := by
  unfold quotedPiece at h
  split at h
  · cases h
    exact ⟨_, rfl⟩
  · cases h

/-- A dollar sign begins a literal. -/
theorem dollarPiece_kind {cs : List Char} {p : Piece} (h : dollarPiece cs = .ok p) :
    ∃ text, p.token = some (.string, text) := by
  unfold dollarPiece at h
  split at h
  · cases h
  · split at h
    · cases h
    · split at h
      · cases h
        exact ⟨_, rfl⟩
      · cases h

/-- Tests for the kind of a parenthesis. -/
def isParenKind (kind : TokenKind) : Bool := kind == .leftParen || kind == .rightParen

private theorem openerPiece_kind {mark : List Char} {opener : Opener} {cs text : List Char}
    {kind : TokenKind} {extra : Nat}
    (h : openerPiece mark opener cs = .ok ⟨some (kind, text), extra⟩) :
    isParenKind kind = false := by
  cases opener with
  | literal =>
    obtain ⟨text, htoken⟩ := quotedPiece_kind h
    cases htoken
    rfl
  | dollar =>
    obtain ⟨text, htoken⟩ := dollarPiece_kind h
    cases htoken
    rfl
  | comment style =>
    simp only [openerPiece] at h
    split at h <;> cases h
  | operator =>
    cases h
    rfl

private theorem numberPiece_kind {afterMark : Bool} {c : Char} {cs text : List Char}
    {kind : TokenKind} (h : (numberPiece afterMark c cs).token = some (kind, text)) :
    isParenKind kind = false := by
  unfold numberPiece at h
  unfold isParenKind
  grind

private theorem wordPiece_kind {afterMark : Bool} {c : Char} {cs text : List Char}
    {kind : TokenKind} (h : (wordPiece afterMark c cs).token = some (kind, text)) :
    isParenKind kind = false := by
  unfold wordPiece at h
  unfold isParenKind
  grind

/-- A piece that opens or closes a group is a single parenthesis. -/
theorem piece_paren {afterMark : Bool} {c : Char} {cs text : List Char} {kind : TokenKind}
    {extra : Nat} (h : piece afterMark c cs = .ok ⟨some (kind, text), extra⟩)
    (hkind : isParenKind kind = true) : symbolKind c = kind ∧ text = [c] ∧ extra = 0 := by
  have hparen {kind : TokenKind} (hkind : isParenKind kind = true) :
      ¬ isParenKind kind = false := by
    rw [hkind]
    exact Bool.noConfusion
  unfold piece at h
  dsimp only at h
  split at h
  · cases h
  · split at h
    · exact absurd (numberPiece_kind (congrArg Piece.token (Except.ok.inj h))) (hparen hkind)
    · split at h
      · obtain ⟨text, htoken⟩ := quotedPiece_kind h
        cases htoken
        cases hkind
      · split at h
        · cases h
          cases hkind
        · split at h
          · exact absurd (openerPiece_kind h) (hparen hkind)
          · split at h
            · simp only [Except.ok.injEq, Piece.mk.injEq, Option.some.injEq, Prod.mk.injEq] at h
              obtain ⟨⟨hkind, htext⟩, hextra⟩ := h
              exact ⟨hkind, htext.symm, hextra.symm⟩
            · exact absurd (wordPiece_kind (congrArg Piece.token (Except.ok.inj h)))
                (hparen hkind)

/-! ### Whole texts -/

/-- A place where nothing was taken before begins a gap or a token. -/
theorem scanFrom_step {afterMark : Bool} {offset : Nat} {c : Char} {cs : List Char}
    {tokens : List Token} (h : scanFrom afterMark offset 0 (c :: cs) = .ok tokens) :
    (∃ extra, piece afterMark c cs = .ok ⟨none, extra⟩ ∧
      scanFrom afterMark (offset + 1) extra cs = .ok tokens) ∨
    (∃ kind text extra rest, piece afterMark c cs = .ok ⟨some (kind, text), extra⟩ ∧
      scanFrom (kind == .parameterMark) (offset + 1) extra cs = .ok rest ∧
      tokens = ⟨kind, String.ofList text, offset, offset + 1 + extra⟩ :: rest) := by
  unfold scanFrom at h
  split at h
  · cases h
  · next extra hpiece => exact .inl ⟨extra, hpiece, h⟩
  · next kind text extra hpiece =>
    split at h
    · cases h
    · next rest hrest =>
      cases h
      exact .inr ⟨kind, text, extra, rest, hpiece, hrest, rfl⟩

/-- The tokens of the rest of a text lie in order behind what was taken of it before. -/
theorem scanFrom_ascending {afterMark : Bool} {offset taken : Nat} {cs : List Char}
    {tokens : List Token} (h : scanFrom afterMark offset taken cs = .ok tokens) :
    Span.Ascending (offset + min taken cs.length) (offset + cs.length) (tokens.map span) := by
  induction cs generalizing afterMark offset taken tokens with
  | nil =>
    cases h
    simp [Span.Ascending]
  | cons c cs ih =>
    rw [List.length_cons]
    cases taken with
    | succ taken => exact (ih h).mono (by omega) (by omega)
    | zero =>
      rcases scanFrom_step h with ⟨extra, _, hrest⟩ | ⟨kind, text, extra, rest, hpiece, hrest, rfl⟩
      · exact (ih hrest).mono (by omega) (by omega)
      · have extra_le : extra ≤ cs.length := piece_extra_le hpiece rfl
        refine ⟨by simp [span], by simp only [span]; omega, (ih hrest).mono ?_ (by omega)⟩
        simp only [span]
        omega

/-- The tokens of a text lie in order inside it. -/
theorem scan_ascending {sql : String} {tokens : List Token} (h : scan sql = .ok tokens) :
    Span.Ascending 0 sql.toList.length (tokens.map span) :=
  (scanFrom_ascending h).mono (Nat.zero_le _) (by omega)

/-- Tests whether the last of some tokens is a parameter mark, given whether one stands in front of
them. -/
def endsInMark (afterMark : Bool) (tokens : List Token) : Bool :=
  (tokens.getLast?.map (·.kind == .parameterMark)).getD afterMark

theorem endsInMark_cons (afterMark : Bool) (token : Token) (tokens : List Token) :
    endsInMark afterMark (token :: tokens) = endsInMark (token.kind == .parameterMark) tokens := by
  rw [endsInMark, endsInMark, List.getLast?_cons]
  cases tokens.getLast? <;> rfl

/-- A token of the rest of a text is the piece that begins at its offset, behind the tokens in front
of it. -/
theorem exists_piece_of_scanFrom_append {afterMark : Bool} {offset taken : Nat}
    {cs source : List Char} {front back : List Token} {token : Token}
    (h : scanFrom afterMark offset taken cs = .ok (front ++ token :: back))
    (hsource : source.drop offset = cs) :
    ∃ c rest text extra, source.drop token.start = c :: rest ∧
      piece (endsInMark afterMark front) c rest = .ok ⟨some (token.kind, text), extra⟩ ∧
      token.text = String.ofList text ∧ token.stop = token.start + 1 + extra := by
  induction cs generalizing afterMark offset taken front with
  | nil => cases front <;> cases h
  | cons c cs ih =>
    have hnext : source.drop (offset + 1) = cs := by
      rw [← List.drop_drop, hsource]
      rfl
    cases taken with
    | succ taken => exact ih h hnext
    | zero =>
      rcases scanFrom_step h with ⟨extra, _, hrest⟩ | ⟨kind, text, extra, rest, hpiece, hrest, heq⟩
      · -- A gap sets no mark, but it does not take one away either.
        exact ih hrest hnext
      · cases front with
        | nil =>
          cases heq
          exact ⟨c, cs, text, extra, hsource, hpiece, rfl, rfl⟩
        | cons first front =>
          cases heq
          rw [endsInMark_cons]
          exact ih hrest hnext

/-- A token of a text is a piece behind the tokens in front of it, and it covers the characters of
the piece. -/
theorem exists_piece_of_scan_append {sql : String} {front back : List Token} {token : Token}
    (h : scan sql = .ok (front ++ token :: back)) :
    ∃ c rest text extra,
      piece (endsInMark false front) c rest = .ok ⟨some (token.kind, text), extra⟩ ∧
      token.text = String.ofList text ∧ token.stop = token.start + 1 + extra ∧
      Text.slice sql.toList token.start token.stop = c :: rest.take extra := by
  have hwhole : sql.toList.drop 0 = sql.toList := rfl
  obtain ⟨c, rest, text, extra, hdrop, hpiece, htext, hstop⟩ :=
    exists_piece_of_scanFrom_append h hwhole
  refine ⟨c, rest, text, extra, hpiece, htext, hstop, ?_⟩
  rw [Text.slice, hdrop, hstop, Nat.add_assoc, Nat.add_sub_cancel_left, Nat.add_comm,
    List.take_succ_cons]

/-- A token of a text is a piece, and it covers the characters of the piece. -/
theorem exists_piece_of_mem_scan {sql : String} {tokens : List Token} (h : scan sql = .ok tokens)
    {token : Token} (ht : token ∈ tokens) :
    ∃ afterMark c rest text extra,
      piece afterMark c rest = .ok ⟨some (token.kind, text), extra⟩ ∧
      token.text = String.ofList text ∧ token.stop = token.start + 1 + extra ∧
      Text.slice sql.toList token.start token.stop = c :: rest.take extra := by
  obtain ⟨front, back, rfl⟩ := List.append_of_mem ht
  exact ⟨_, exists_piece_of_scan_append h⟩

/-- A token that opens or closes a group is a parenthesis of the text. -/
theorem scan_paren {sql : String} {tokens : List Token} (h : scan sql = .ok tokens)
    {token : Token} (ht : token ∈ tokens) (hkind : isParenKind token.kind = true) :
    ∃ c, symbolKind c = token.kind ∧ token.text = String.ofList [c] ∧
      Text.slice sql.toList token.start token.stop = [c] := by
  obtain ⟨afterMark, c, rest, text, extra, hpiece, htext, -, hslice⟩ :=
    exists_piece_of_mem_scan h ht
  obtain ⟨hsymbol, rfl, rfl⟩ := piece_paren hpiece hkind
  exact ⟨c, hsymbol, htext, hslice⟩

/-- A token that opens a group is an opening parenthesis of the text. -/
theorem scan_leftParen {sql : String} {tokens : List Token} (h : scan sql = .ok tokens)
    {token : Token} (ht : token ∈ tokens) (hkind : token.kind = .leftParen) :
    Text.slice sql.toList token.start token.stop = ['('] := by
  obtain ⟨c, hsymbol, -, hslice⟩ := scan_paren h ht (by rw [hkind]; rfl)
  obtain rfl : c = '(' := by
    rw [hkind] at hsymbol
    unfold symbolKind at hsymbol
    grind
  exact hslice

/-- What was read of a text is told by the outcome without its errors. -/
theorem eq_ok_of_toOption {α : Type} {outcome : Except TokenError α} {read : α}
    (h : outcome.toOption = some read) : outcome = .ok read := by
  cases outcome with
  | error e => cases h
  | ok found =>
    cases h
    rfl

/-- The tokens of a text are told by the outcome of a scan without its errors. -/
theorem scan_eq_ok {sql : String} {tokens : List Token} (h : (scan sql).toOption = some tokens) :
    scan sql = .ok tokens := eq_ok_of_toOption h

end SqlFacts.Token
