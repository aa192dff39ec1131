import Mathlib.Data.List.Sort
import Mathlib.Data.List.TakeWhile
import SqlFacts.Proofs.Token.Order

/-!
# Question marks and tokens

A question mark outside literals and quoted identifiers is a token of its own, unless it is part of
an operator: the longest one is taken first, and `??` and `?::` are operators. No other token holds
a question mark.
-/

namespace SqlFacts.Token

/-- Tests for a literal or a quoted identifier. -/
def isQuoted (token : Token) : Bool := token.kind == .string || token.kind == .identifier

/-- Tests for a question mark that is a token of its own. -/
def isMark (token : Token) : Bool :=
  !token.isQuoted && token.kind != .number && token.text == "?"

/-- Tests for an operator that begins with a question mark and goes on behind it. -/
def fusesMark (token : Token) : Bool := token.kind == .other && ["??", "?::"].contains token.text

/-- Tests whether a place of the text belongs to a token. -/
def covers (token : Token) (place : Nat) : Bool := token.start ≤ place && place < token.stop

/-- Tests whether a place of a text belongs to an operator that goes on behind a question mark. -/
def isFused (tokens : List Token) (place : Nat) : Bool :=
  tokens.any fun token => token.fusesMark && token.covers place

/-- The places of the question marks of a text that are neither in a literal or a quoted identifier
nor between the tokens, where comments are. -/
def openMarks (source : List Char) (tokens : List Token) : List Nat :=
  (List.range source.length).filter fun place =>
    source[place]? == some '?' && tokens.any fun token => !token.isQuoted && token.covers place

/-! ### Pieces that hold a question mark -/

private theorem mark_not_mem_takeWhile (cs : List Char) : '?' ∉ cs.takeWhile isWordChar := by
  intro hmem
  have hword : isWordChar '?' = true := List.mem_takeWhile_imp hmem
  exact absurd hword (by decide)

private theorem mark_not_mem_decimalTail (afterMark : Bool) (previous : Char) (pointed : Bool)
    (exponent : ExponentState) (cs : List Char) :
    '?' ∉ cs.take (decimalTail afterMark previous pointed exponent cs).length := by
  induction cs generalizing previous pointed exponent with
  | nil => simp
  | cons c rest ih =>
    by_cases hmark : c = '?'
    · subst hmark
      have hstop : decimalTail afterMark previous pointed exponent ('?' :: rest) = .number 0 := by
        have hstart : Text.isIdentifierStart '?' = false := by decide
        simp [decimalTail, hstart]
      rw [hstop]
      exact List.not_mem_nil
    · have next_not_mem (previous : Char) (pointed : Bool) (exponent : ExponentState) :
          '?' ∉ (c :: rest).take
            (decimalTail afterMark previous pointed exponent rest).succ.length := by
        rw [NumberTail.length_succ, List.take_succ_cons]
        exact List.not_mem_cons_of_ne_of_not_mem (Ne.symm hmark) (ih previous pointed exponent)
      have stop_not_mem : '?' ∉ (c :: rest).take (NumberTail.number 0).length := List.not_mem_nil
      have word_not_mem : '?' ∉ (c :: rest).take
          (NumberTail.name (rest.takeWhile isWordChar).length.succ).length := by
        rw [NumberTail.length, List.take_succ_cons,
          ← List.prefix_iff_eq_take.mp (List.takeWhile_prefix isWordChar)]
        exact List.not_mem_cons_of_ne_of_not_mem (Ne.symm hmark) (mark_not_mem_takeWhile rest)
      unfold decimalTail
      dsimp only
      split_ifs
      all_goals first
        | exact next_not_mem _ _ _
        | exact stop_not_mem
        | exact word_not_mem

private theorem numberPiece_mark {afterMark : Bool} {c : Char} {cs text : List Char}
    {kind : TokenKind} {extra : Nat} (hdigit : c.isDigit = true)
    (h : numberPiece afterMark c cs = ⟨some (kind, text), extra⟩) (hstring : kind ≠ .string)
    (hidentifier : kind ≠ .identifier) : text = c :: cs.take extra ∧ '?' ∉ text := by
  have tail_not_mem := mark_not_mem_decimalTail afterMark c false .absent cs
  have first_ne : '?' ≠ c := by
    rintro rfl
    exact absurd hdigit (by decide)
  unfold numberPiece at h
  split at h
  · dsimp only at h
    split at h
    · cases h
      contradiction
    · cases h
      contradiction
  · split at h
    · next length htail =>
      cases h
      rw [htail] at tail_not_mem
      exact ⟨rfl, List.not_mem_cons_of_ne_of_not_mem first_ne tail_not_mem⟩
    · next length htail =>
      cases h
      rw [htail] at tail_not_mem
      exact ⟨rfl, List.not_mem_cons_of_ne_of_not_mem first_ne tail_not_mem⟩

private theorem wordPiece_mark {afterMark : Bool} {c : Char} {cs text : List Char}
    {kind : TokenKind} {extra : Nat} (hplain : c ≠ '?')
    (h : wordPiece afterMark c cs = ⟨some (kind, text), extra⟩) :
    text = c :: cs.take extra ∧ '?' ∉ text := by
  cases h
  rw [← List.prefix_iff_eq_take.mp (List.takeWhile_prefix isWordChar)]
  exact ⟨rfl, List.not_mem_cons_of_ne_of_not_mem (Ne.symm hplain) (mark_not_mem_takeWhile cs)⟩

private theorem operator_mark {mark : List Char} (h : (mark, Opener.operator) ∈ openers) :
    mark ≠ [] ∧ ('?' ∈ mark → mark ∈ [['?', '?'], ['?', ':', ':']]) := by
  have every : ∀ found ∈ openers, found.2 = .operator →
      found.1 ≠ [] ∧ ('?' ∈ found.1 → found.1 ∈ [['?', '?'], ['?', ':', ':']]) := by
    decide +kernel
  exact every _ h rfl

private theorem openerPiece_mark {mark : List Char} {opener : Opener} {c : Char}
    {cs text : List Char} {kind : TokenKind} {extra : Nat}
    (hopener : opener? (c :: cs) = some (mark, opener))
    (h : openerPiece mark opener (c :: cs) = .ok ⟨some (kind, text), extra⟩)
    (hstring : kind ≠ .string) :
    kind = .other ∧ text = c :: cs.take extra ∧
      ('?' ∈ text → text ∈ [['?', '?'], ['?', ':', ':']]) := by
  obtain ⟨hmem, hprefix⟩ := mem_openers_of_opener hopener
  cases opener with
  | literal =>
    obtain ⟨_, htoken⟩ := quotedPiece_kind h
    cases htoken
    contradiction
  | dollar =>
    obtain ⟨_, htoken⟩ := dollarPiece_kind h
    cases htoken
    contradiction
  | comment style =>
    simp only [openerPiece] at h
    split at h <;> cases h
  | operator =>
    cases h
    obtain ⟨hne, hmark⟩ := operator_mark hmem
    obtain ⟨first, rest, rfl⟩ := List.exists_cons_of_ne_nil hne
    obtain ⟨rfl, hrest⟩ := List.cons_prefix_cons.mp hprefix
    exact ⟨rfl, congrArg _ (List.prefix_iff_eq_take.mp hrest), hmark⟩

/-- A piece that is neither a literal nor a quoted identifier holds no question mark, or is one, or
is an operator that begins with one. -/
theorem piece_mark {afterMark : Bool} {c : Char} {cs text : List Char} {kind : TokenKind}
    {extra : Nat} (h : piece afterMark c cs = .ok ⟨some (kind, text), extra⟩)
    (hstring : kind ≠ .string) (hidentifier : kind ≠ .identifier) :
    ('?' ∉ text ∧ '?' ∉ c :: cs.take extra) ∨
      (kind = .other ∧ text = c :: cs.take extra ∧
        text ∈ [['?'], ['?', '?'], ['?', ':', ':']]) := by
  have plain (hpiece : text = c :: cs.take extra ∧ '?' ∉ text) :
      '?' ∉ text ∧ '?' ∉ c :: cs.take extra := ⟨hpiece.2, hpiece.1 ▸ hpiece.2⟩
  unfold piece at h
  dsimp only at h
  split at h
  · cases h
  · split at h
    · next hdigit =>
      exact .inl (plain (numberPiece_mark hdigit (Except.ok.inj h) hstring hidentifier))
    · split at h
      · obtain ⟨_, htoken⟩ := quotedPiece_kind h
        cases htoken
        contradiction
      · split at h
        · next hfront =>
          -- The keyword is read in capitals, and no capital is a question mark.
          cases h
          have hkeyword : '?' ∉ symbolKeyword.toList := by decide
          rw [← hfront] at hkeyword
          exact .inl ⟨hkeyword, fun hmem => hkeyword (List.mem_map.mpr ⟨'?', hmem, by decide⟩)⟩
        · split at h
          · next hopener =>
            obtain ⟨hkind, htext, hmark⟩ := openerPiece_mark hopener h hstring
            by_cases hmem : '?' ∈ text
            · exact .inr ⟨hkind, htext, List.mem_cons_of_mem _ (hmark hmem)⟩
            · exact .inl (plain ⟨htext, hmem⟩)
          · split at h
            · cases h
              by_cases hmark : c = '?'
              · subst hmark
                exact .inr ⟨rfl, rfl, List.mem_cons_self⟩
              · exact .inl (plain ⟨rfl, List.not_mem_cons_of_ne_of_not_mem (Ne.symm hmark)
                  List.not_mem_nil⟩)
            · next hsymbol =>
              have hplain : c ≠ '?' := by
                rintro rfl
                exact hsymbol (by decide)
              exact .inl (plain (wordPiece_mark hplain (Except.ok.inj h)))

/-! ### Tokens that hold a question mark -/

section Scan

variable {sql : String} {tokens : List Token} {token : Token} {place : Nat}

/-- A place belongs to a token if it lies in its span. -/
theorem covers_iff : token.covers place = true ↔ token.start ≤ place ∧ place < token.stop := by
  rw [covers, Bool.and_eq_true, decide_eq_true_eq, decide_eq_true_eq]

/-- A place belongs to at most one token of a text. -/
theorem eq_of_covers (hscan : scan sql = .ok tokens) {other : Token} (ht : token ∈ tokens)
    (ho : other ∈ tokens) (h : token.covers place = true) (h' : other.covers place = true) :
    token = other := by
  obtain ⟨i, hi⟩ := List.mem_iff_getElem?.mp ht
  obtain ⟨j, hj⟩ := List.mem_iff_getElem?.mp ho
  have hspan (index : Nat) (t : Token) (hindex : tokens[index]? = some t) :
      (tokens.map span)[index]? = some t.span := by
    rw [List.getElem?_map, hindex, Option.map_some]
  have hcovers : token.span.Covers ⟨place, place + 1⟩ := covers_iff.mp h
  have hcovers' : other.span.Covers ⟨place, place + 1⟩ := covers_iff.mp h'
  have hsame := (scan_ascending hscan).index_unique (hspan i token hi) (hspan j other hj)
    hcovers hcovers' (Nat.lt_succ_self place)
  subst hsame
  exact Option.some.inj (hi.symm.trans hj)

/-- The text of a mark is the mark. -/
theorem text_of_isMark (h : token.isMark = true) : token.text = "?" := by
  rw [isMark, Bool.and_eq_true, beq_iff_eq] at h
  exact h.2

/-- A mark and an operator that goes on behind one both begin with it. -/
theorem head?_text_of_mark (h : token.isMark = true ∨ token.fusesMark = true) :
    token.text.toList.head? = some '?' := by
  rcases h with h | h
  · rw [text_of_isMark h]
    rfl
  · simp only [fusesMark, Bool.and_eq_true, List.contains_cons, List.contains_nil, Bool.or_false,
      Bool.or_eq_true, beq_iff_eq] at h
    rcases h.2 with h | h <;> rw [h] <;> rfl

/-- Neither a mark nor an operator that goes on behind one is quoted, and no token is both. -/
theorem isQuoted_of_mark (h : token.isMark = true ∨ token.fusesMark = true) :
    token.isQuoted = false := by
  rcases h with h | h
  · simp only [isMark, Bool.and_eq_true, Bool.not_eq_true'] at h
    exact h.1.1
  · simp only [fusesMark, Bool.and_eq_true, beq_iff_eq] at h
    rw [isQuoted, h.1]
    rfl

/-- A mark of its own does not go on. -/
theorem fusesMark_of_isMark (h : token.isMark = true) : token.fusesMark = false := by
  rw [fusesMark, text_of_isMark h, Bool.and_eq_false_iff]
  exact .inr (by decide)

/-- A token that is neither a literal nor a quoted identifier covers no question mark, or it stands
as it is in the text and is a mark of its own or an operator that goes on behind one. -/
theorem mark_cases (hscan : scan sql = .ok tokens) (ht : token ∈ tokens)
    (hquoted : token.isQuoted = false) :
    ('?' ∉ token.text.toList ∧ '?' ∉ Text.slice sql.toList token.start token.stop) ∨
      (token.text.toList = Text.slice sql.toList token.start token.stop ∧
        (token.isMark = true ∨ token.fusesMark = true)) := by
  obtain ⟨afterMark, c, rest, text, extra, hpiece, htext, -, hslice⟩ :=
    exists_piece_of_mem_scan hscan ht
  have hkind := hquoted
  rw [isQuoted, Bool.or_eq_false_iff, beq_eq_false_iff_ne, beq_eq_false_iff_ne] at hkind
  rw [hslice, htext, String.toList_ofList]
  rcases piece_mark hpiece hkind.1 hkind.2 with hnone | ⟨hother, hsame, hmark⟩
  · exact .inl hnone
  · refine .inr ⟨hsame, ?_⟩
    rw [isMark, fusesMark, hquoted, hother, htext]
    simp only [List.mem_cons, List.not_mem_nil, or_false] at hmark
    rcases hmark with rfl | rfl | rfl
    · exact .inl (by decide)
    · exact .inr (by decide)
    · exact .inr (by decide)

/-- Where a mark or an operator that goes on behind one begins, there is a question mark. -/
theorem mem_openMarks_of_mark (hscan : scan sql = .ok tokens) (ht : token ∈ tokens)
    (h : token.isMark = true ∨ token.fusesMark = true) :
    token.covers token.start = true ∧ token.start ∈ openMarks sql.toList tokens := by
  have hproper := (scan_ascending hscan).bounds (List.mem_map_of_mem ht)
  simp only [span] at hproper
  have hcovers : token.covers token.start = true := covers_iff.mpr ⟨Nat.le_refl _, hproper.2.1⟩
  have hhead := head?_text_of_mark h
  have htext : token.text.toList = Text.slice sql.toList token.start token.stop := by
    rcases mark_cases hscan ht (isQuoted_of_mark h) with ⟨hnone, -⟩ | ⟨htext, -⟩
    · exact absurd (List.mem_of_head? hhead) hnone
    · exact htext
  have hplace : sql.toList[token.start]? = some '?' := by
    rw [htext, List.head?_eq_getElem?, Text.getElem?_slice (by omega), Nat.add_zero] at hhead
    exact hhead
  refine ⟨hcovers, ?_⟩
  rw [openMarks, List.mem_filter, List.mem_range, Bool.and_eq_true, beq_iff_eq, List.any_eq_true]
  refine ⟨by omega, hplace, token, ht, ?_⟩
  rw [isQuoted_of_mark h, hcovers]
  rfl

/-- A question mark outside literals, quoted identifiers and comments that no operator goes on
behind is a token, and such a token is nothing else. -/
theorem mem_openMarks_not_isFused_iff (hscan : scan sql = .ok tokens) :
    place ∈ openMarks sql.toList tokens ∧ isFused tokens place = false ↔
      ∃ token ∈ tokens, token.isMark = true ∧ token.start = place := by
  constructor
  · rintro ⟨hopen, hfused⟩
    simp only [openMarks, List.mem_filter, Bool.and_eq_true, beq_iff_eq, List.any_eq_true,
      Bool.not_eq_true'] at hopen
    obtain ⟨-, hplace, token, ht, hquoted, hcovers⟩ := hopen
    obtain ⟨habove, hbelow⟩ := covers_iff.mp hcovers
    have hslice : (Text.slice sql.toList token.start token.stop)[place - token.start]? =
        some '?' := by
      rw [Text.getElem?_slice (by omega), Nat.add_sub_cancel' habove, hplace]
    rcases mark_cases hscan ht hquoted with ⟨-, hnone⟩ | ⟨htext, hmark | hfuses⟩
    · exact absurd (List.mem_of_getElem? hslice) hnone
    · refine ⟨token, ht, hmark, ?_⟩
      -- The token is one character long, so the place is its start.
      rw [← htext, text_of_isMark hmark] at hslice
      have hfirst := (List.getElem?_eq_some_iff.mp hslice).1
      simp only [String.reduceToList, List.length_singleton] at hfirst
      omega
    · exact absurd (List.any_eq_true.mpr ⟨token, ht, by rw [hfuses, hcovers]; rfl⟩)
        (Bool.eq_false_iff.mp hfused)
  · rintro ⟨token, ht, hmark, rfl⟩
    obtain ⟨hcovers, hopen⟩ := mem_openMarks_of_mark hscan ht (.inl hmark)
    refine ⟨hopen, Bool.eq_false_iff.mpr fun hfused => ?_⟩
    obtain ⟨other, ho, hboth⟩ := List.any_eq_true.mp hfused
    rw [Bool.and_eq_true] at hboth
    have hsame := eq_of_covers hscan ht ho hcovers hboth.2
    rw [← hsame, fusesMark_of_isMark hmark] at hboth
    exact absurd hboth.1 Bool.false_ne_true

/-- The marks among the tokens of a text, in order. -/
theorem map_start_filter_isMark (hscan : scan sql = .ok tokens) :
    (tokens.filter isMark).map Token.start =
      (openMarks sql.toList tokens).filter (!isFused tokens ·) := by
  have hstarts : ((tokens.filter isMark).map Token.start).Pairwise (· < ·) := by
    have hsublist : ((tokens.filter isMark).map span).Sublist (tokens.map span) :=
      List.filter_sublist.map span
    have hascending := ((scan_ascending hscan).sublist hsublist).pairwise_start
    rwa [List.map_map] at hascending
  have hopen : ((openMarks sql.toList tokens).filter (!isFused tokens ·)).Pairwise (· < ·) :=
    (List.pairwise_lt_range.filter _).filter _
  refine hstarts.eq_of_mem_iff hopen fun place => ?_
  simp only [List.mem_map, List.mem_filter, and_assoc, Bool.not_eq_true']
  exact (mem_openMarks_not_isFused_iff hscan).symm

/-- All question marks outside literals, quoted identifiers and comments are tokens exactly if no
operator goes on behind one. -/
theorem filter_isFused_eq_iff (hscan : scan sql = .ok tokens) :
    (openMarks sql.toList tokens).filter (!isFused tokens ·) = openMarks sql.toList tokens ↔
      ∀ token ∈ tokens, token.fusesMark = false := by
  rw [List.filter_eq_self]
  constructor
  · intro hall token ht
    by_contra hfuses
    rw [Bool.not_eq_false] at hfuses
    obtain ⟨hcovers, hopen⟩ := mem_openMarks_of_mark hscan ht (.inr hfuses)
    have hfused : isFused tokens token.start = true :=
      List.any_eq_true.mpr ⟨token, ht, by rw [hfuses, hcovers]; rfl⟩
    have hnot := hall _ hopen
    rw [hfused] at hnot
    exact Bool.false_ne_true hnot
  · intro hnone place _
    rw [Bool.not_eq_true', isFused, List.any_eq_false]
    intro token ht
    rw [hnone token ht]
    exact Bool.false_ne_true

end Scan

end SqlFacts.Token
