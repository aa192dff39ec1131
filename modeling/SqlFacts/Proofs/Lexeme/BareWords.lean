import SqlFacts.Proofs.Lexeme.WordText
import SqlFacts.Proofs.Token.QuestionMark

/-!
# Bare words

A bare word is a token written without quotation marks: an identifier, a keyword or the name of a
type. It is one lexeme, a word that covers the whole of it, exactly if it is a word of ASCII
letters, digits and underscores that begins with no digit, and does not name a type that counts as a
literal. All other bare words are shortened, split, or of another kind.
-/

namespace SqlFacts

open Lexeme

/-- Tests for a word of ASCII letters, digits and underscores that begins with no digit. -/
def isAsciiWord (cs : List Char) : Bool := cs.head?.any isWordStart && cs.all isWordPart

/-- A text is one word as a whole exactly if it is an ASCII word. -/
theorem asciiWords_eq_singleton_iff {offset : Nat} {cs : List Char} :
    asciiWords offset 0 cs = [⟨String.ofList cs, offset, offset + cs.length⟩] ↔
      isAsciiWord cs = true := by
  cases cs with
  | nil => simp [asciiWords, isAsciiWord]
  | cons c cs =>
    rw [isAsciiWord, List.head?_cons, Option.any_some, List.all_cons]
    by_cases hstart : isWordStart c = true
    · rw [asciiWords_cons_of_start hstart, hstart, isWordPart_of_start hstart, Bool.true_and,
        Bool.true_and, List.all_eq_true, ← List.takeWhile_eq_self_iff]
      constructor
      · intro h
        have htext := congrArg WordSpan.text (List.cons.inj h).1
        exact (List.cons.inj (String.ofList_injective htext)).2
      · intro hall
        have hrest : cs.dropWhile isWordPart = [] :=
          List.dropWhile_eq_nil_iff.mpr (List.takeWhile_eq_self_iff.mp hall)
        rw [hall, hrest, List.length_cons, asciiWords, Nat.add_assoc, Nat.add_comm 1]
    · rw [asciiWords_cons_of_not_start hstart, Bool.eq_false_iff.mpr hstart, Bool.false_and]
      refine ⟨fun h => ?_, fun h => absurd h Bool.false_ne_true⟩
      have hbehind := ((asciiWords_ascending (offset + 1) cs).bounds
        (List.mem_map_of_mem (h ▸ List.mem_singleton_self _))).1
      simp only [WordSpan.span] at hbehind
      omega

/-- No digit begins a word. -/
theorem isWordStart_of_isDigit {c : Char} (h : c.isDigit = true) : isWordStart c = false := by
  have hval : c.toNat = c.val.toNat := rfl
  have hbounds := Char.isDigit_iff_toNat.mp h
  have h9 : '9'.toNat = 57 := rfl
  have hA : 'A'.val.toNat = 65 := rfl
  have ha : 'a'.val.toNat = 97 := rfl
  have hread : isWordStart c =
      ((decide ('A'.val ≤ c.val ∧ c.val ≤ 'Z'.val) || ('a'.val ≤ c.val && c.val ≤ 'z'.val)) ||
        c == '_') := rfl
  rw [← Bool.not_eq_true]
  simp only [hread, Bool.or_eq_true, Bool.and_eq_true, decide_eq_true_eq, beq_iff_eq,
    UInt32.le_iff_toNat_le]
  rintro (hletter | rfl)
  · omega
  · cases h

/-- What begins with a digit is no ASCII word. -/
theorem isAsciiWord_of_isDigit {cs : List Char} (h : cs.head?.any Char.isDigit = true) :
    isAsciiWord cs = false := by
  cases cs with
  | nil => rfl
  | cons c cs =>
    rw [isAsciiWord, List.head?_cons, Option.any_some, isWordStart_of_isDigit h, Bool.false_and]

namespace Token

/-- Tests for the name of a type that counts as a literal. -/
def namesLiteral (cs : List Char) : Bool :=
  literalTypeNames.contains (Text.upper (String.ofList cs))

/-- Tests whether a token stands bare in a text: it begins with a word character and holds no
quotation mark, and it is no numeral. -/
def isBare (source : List Char) (token : Token) : Bool :=
  match Text.slice source token.start token.stop with
  | [] => false
  | c :: cs =>
    isWordChar c && !cs.contains '\'' && token.kind != .number &&
      !(c.isDigit && token.kind == .string)

/-! ### Bare pieces -/

section Piece

variable {afterMark : Bool} {c : Char} {cs text : List Char} {kind : TokenKind} {extra : Nat}

/-- The name of a type that counts as a literal begins with one of three letters. -/
private theorem toUpper_of_namesLiteral (h : namesLiteral (c :: cs) = true)
    (hascii : c.toNat < 128) : c.toUpper ∈ ['F', 'L', 'M'] := by
  have hnames : ∀ name ∈ literalTypeNames,
      name.toList.head?.any ['F', 'L', 'M'].contains = true := by decide
  have hupper : Text.upperChar c = [c.toUpper] := if_pos hascii
  have hcons : Text.upperChars (c :: cs) = Text.upperChar c ++ Text.upperChars cs := rfl
  rw [namesLiteral, List.contains_iff_mem] at h
  have hfirst := hnames _ h
  rw [Text.toList_upper, String.toList_ofList, hcons, hupper] at hfirst
  exact List.contains_iff_mem.mp hfirst

/-- No name of a type begins with a digit. -/
private theorem namesLiteral_of_isDigit (h : c.isDigit = true) :
    namesLiteral (c :: cs) = false := by
  have hval : c.toNat = c.val.toNat := rfl
  have hbounds := Char.isDigit_iff_toNat.mp h
  have h9 : '9'.toNat = 57 := rfl
  have hsmall : ¬ ('a'.val ≤ c.val ∧ c.val ≤ 'z'.val) := by
    intro hletter
    have ha : 'a'.val.toNat = 97 := rfl
    have hbehind := UInt32.le_iff_toNat_le.mp hletter.1
    omega
  have hsame : c.toUpper = c := dif_neg hsmall
  rw [← Bool.not_eq_true]
  intro hnames
  have hletter := toUpper_of_namesLiteral hnames (by omega)
  rw [hsame] at hletter
  simp only [List.mem_cons, List.not_mem_nil, or_false] at hletter
  rcases hletter with rfl | rfl | rfl <;> cases h

/-- The keyword that holds a symbol is no name of a type. -/
private theorem namesLiteral_of_symbolKeyword (h : c.toUpper = 'U') :
    namesLiteral (c :: cs) = false := by
  rw [← Bool.not_eq_true]
  intro hnames
  have hletter := toUpper_of_namesLiteral hnames (Text.toNat_lt_of_toUpper (h ▸ by decide))
  rw [h] at hletter
  exact absurd hletter (by decide)

/-- A token that begins with a digit is a numeral or a name. -/
private theorem numberPiece_kind_cases
    (h : numberPiece afterMark c cs = ⟨some (kind, text), extra⟩) :
    kind = .string ∨ kind = .number ∨ kind = .identifier ∨ kind = .other := by
  unfold numberPiece at h
  grind

/-- A mark that begins with a word character is that of a literal, and holds a quotation mark. -/
private theorem quote_mem_of_openerPiece {mark : List Char} {opener : Opener}
    (hopener : opener? (c :: cs) = some (mark, opener)) (hword : isWordChar c = true)
    (h : openerPiece mark opener (c :: cs) = .ok ⟨some (kind, text), extra⟩) :
    '\'' ∈ cs.take extra := by
  have hmarks : ∀ found ∈ openers, found.1.head?.all isWordChar = true →
      found ∈ [(['N', '\''], .literal), (['n', '\''], .literal)] := by decide +kernel
  obtain ⟨hmem, hprefix⟩ := mem_openers_of_opener hopener
  have hhead : mark.head?.all isWordChar = true := by
    cases mark with
    | nil => rfl
    | cons first rest =>
      obtain ⟨rfl, -⟩ := List.cons_prefix_cons.mp hprefix
      exact hword
  have hliteral : ∃ first, mark = [first, '\''] ∧ opener = .literal := by
    have := hmarks _ hmem hhead
    simp only [List.mem_cons, List.not_mem_nil, or_false, Prod.mk.injEq] at this
    rcases this with ⟨rfl, rfl⟩ | ⟨rfl, rfl⟩
    · exact ⟨_, rfl, rfl⟩
    · exact ⟨_, rfl, rfl⟩
  obtain ⟨first, rfl, rfl⟩ := hliteral
  obtain ⟨-, hquote⟩ := List.cons_prefix_cons.mp hprefix
  obtain ⟨body, rfl⟩ := hquote
  rw [openerPiece, quotedPiece] at h
  split at h
  · next read _ =>
    cases h
    have hlength : [first, '\''].length + read.length - 1 = read.length + 1 := by
      rw [List.length_cons, List.length_singleton]
      omega
    rw [hlength]
    exact List.mem_cons_self
  · cases h

/-- A run of word characters that names a type that counts as a literal is one, unless it stands
behind a parameter mark. -/
private theorem wordPiece_cases (h : wordPiece afterMark c cs = ⟨some (kind, text), extra⟩) :
    (kind = .string ∧ text = c :: cs.take extra ∧ afterMark = false ∧
      namesLiteral (c :: cs.take extra) = true) ∨
    (kind = .other ∧ (afterMark = true ∨ namesLiteral (c :: cs.take extra) = false)) := by
  rw [wordPiece, Piece.mk.injEq, Option.some.injEq, Prod.mk.injEq] at h
  obtain ⟨⟨rfl, rfl⟩, rfl⟩ := h
  rw [← List.prefix_iff_eq_take.mp (List.takeWhile_prefix isWordChar), ← namesLiteral]
  cases afterMark with
  | true => exact .inr ⟨rfl, .inl rfl⟩
  | false =>
    cases hnames : namesLiteral (c :: cs.takeWhile isWordChar) with
    | true => exact .inl ⟨rfl, rfl, rfl, rfl⟩
    | false => exact .inr ⟨rfl, .inr rfl⟩

/-- A bare piece that names a type that counts as a literal is one, unless it stands behind a
parameter mark. Any other is a name or a word. -/
theorem piece_of_bare (h : piece afterMark c cs = .ok ⟨some (kind, text), extra⟩)
    (hword : isWordChar c = true) (hquote : '\'' ∉ cs.take extra) (hnumber : kind ≠ .number)
    (hnumeral : ¬ (c.isDigit = true ∧ kind = .string)) :
    (kind = .string ∧ text = c :: cs.take extra ∧ afterMark = false ∧
      namesLiteral (c :: cs.take extra) = true) ∨
    ((kind = .other ∨ kind = .identifier ∧ c.isDigit = true) ∧
      (afterMark = true ∨ namesLiteral (c :: cs.take extra) = false)) := by
  unfold piece at h
  dsimp only at h
  split at h
  · cases h
  · split at h
    · next hdigit =>
      refine .inr ⟨?_, .inr (namesLiteral_of_isDigit hdigit)⟩
      rcases numberPiece_kind_cases (Except.ok.inj h) with hkind | hkind | hkind | hkind
      · exact absurd ⟨hdigit, hkind⟩ hnumeral
      · exact absurd hkind hnumber
      · exact .inr ⟨hkind, hdigit⟩
      · exact .inl hkind
    · split at h
      · next hmark =>
        rw [Bool.or_eq_true, beq_iff_eq, beq_iff_eq] at hmark
        rcases hmark with rfl | rfl
        · exact absurd hword (by decide)
        · exact absurd hword (by decide)
      · split at h
        · next hfront =>
          cases h
          have hfirst : c.toUpper = 'U' := (List.cons.inj hfront).1
          exact .inr ⟨.inl rfl, .inr (namesLiteral_of_symbolKeyword hfirst)⟩
        · split at h
          · next hopener => exact absurd (quote_mem_of_openerPiece hopener hword h) hquote
          · split at h
            · next hsymbol =>
              rw [isWordChar, hsymbol, Bool.not_true, Bool.and_false] at hword
              cases hword
            · exact (wordPiece_cases (Except.ok.inj h)).imp_right (And.imp_left .inl)

end Piece

/-! ### Bare tokens -/

section Scan

variable {sql : String} {front back : List Token} {token : Token}

/-- Tests whether a token with some tokens in front of it counts as a literal: it names such a type,
and what is in front does not end in a parameter mark. -/
def isTypeLiteral (source : List Char) (front : List Token) (token : Token) : Bool :=
  !endsInMark false front && namesLiteral (Text.slice source token.start token.stop)

/-- No token that begins with a word character is a question mark. -/
private theorem text_ne_mark_of_other (h : scan sql = .ok (front ++ token :: back))
    (hkind : token.kind = .other) {c : Char} {cs : List Char}
    (hslice : Text.slice sql.toList token.start token.stop = c :: cs)
    (hword : isWordChar c = true) : token.text ≠ "?" := by
  have hquoted : token.isQuoted = false := by
    rw [isQuoted, hkind]
    rfl
  have hmem : token ∈ front ++ token :: back := List.mem_append_right front List.mem_cons_self
  intro htext
  rcases mark_cases h hmem hquoted with ⟨hnone, -⟩ | ⟨hsame, -⟩
  · rw [htext] at hnone
    exact hnone (by decide)
  · rw [htext, hslice] at hsame
    cases hsame
    exact absurd hword (by decide)

/-- A bare token is a literal exactly if it names such a type without a parameter mark in front.
Any other is a word, or a name that begins with a digit. -/
theorem scan_of_bare (h : scan sql = .ok (front ++ token :: back))
    (hbare : token.isBare sql.toList = true) :
    (token.kind = .string ∧ token.text = Text.sliceText sql.toList token.start token.stop ∧
      token.isTypeLiteral sql.toList front = true) ∨
    ((token.kind = .other ∧ token.text ≠ "?" ∨ token.kind = .identifier ∧
        (Text.slice sql.toList token.start token.stop).head?.any Char.isDigit = true) ∧
      token.isTypeLiteral sql.toList front = false) := by
  obtain ⟨c, rest, text, extra, hpiece, htext, -, hslice⟩ := exists_piece_of_scan_append h
  rw [isBare, hslice] at hbare
  simp only [Bool.and_eq_true, Bool.not_eq_true', bne_iff_ne, ← Bool.not_eq_true, beq_iff_eq,
    List.contains_iff_mem] at hbare
  obtain ⟨⟨⟨hword, hquote⟩, hnumber⟩, hnumeral⟩ := hbare
  rw [isTypeLiteral, Text.sliceText, hslice]
  rcases piece_of_bare hpiece hword hquote hnumber hnumeral with
    ⟨hkind, rfl, hmark, hnames⟩ | ⟨hkind, hplain⟩
  · refine .inl ⟨hkind, htext, ?_⟩
    rw [hmark, hnames]
    rfl
  · refine .inr ⟨?_, ?_⟩
    · rcases hkind with hother | ⟨hidentifier, hdigit⟩
      · exact .inl ⟨hother, text_ne_mark_of_other h hother hslice hword⟩
      · exact .inr ⟨hidentifier, hdigit⟩
    · rcases hplain with hmark | hnames
      · rw [hmark]
        rfl
      · rw [hnames, Bool.and_false]

end Scan

end Token

/-! ### Lexemes of bare tokens -/

namespace Lexeme

/-- The lexemes inside a token of a text are its own. -/
theorem filter_ofTokensAt {source : List Char} {lo hi : Nat} {front back : List Token}
    {token : Token} (h : Span.Ascending lo hi ((front ++ token :: back).map Token.span))
    (hhi : hi ≤ source.length) (depth : Int) :
    (ofTokensAt source depth (front ++ token :: back)).filter
        (fun lx => token.start ≤ lx.start && lx.stop ≤ token.stop) =
      ofToken source (depthAt (front.foldl depthBehind depth) token) token := by
  rw [List.map_append, List.map_cons] at h
  obtain ⟨mid, hfront, habove, hproper, hback⟩ := h.of_append
  have hinside : token.stop ≤ source.length := Nat.le_trans hback.le hhi
  rw [ofTokensAt_append, ofTokensAt, List.filter_append, List.filter_append]
  have hbefore : ∀ lx ∈ ofTokensAt source depth front,
      ¬ (token.start ≤ lx.start && lx.stop ≤ token.stop) = true := by
    intro lx hlx
    have hmid : mid ≤ source.length :=
      Nat.le_trans habove (Nat.le_trans (Nat.le_of_lt hproper) hinside)
    have hbounds := (ofTokensAt_ascending hfront hmid depth).bounds (List.mem_map_of_mem hlx)
    simp only [span, Token.span] at hbounds habove
    rw [Bool.and_eq_true, decide_eq_true_eq, decide_eq_true_eq]
    omega
  have hbehind : ∀ lx ∈ ofTokensAt source (depthBehind (front.foldl depthBehind depth) token) back,
      ¬ (token.start ≤ lx.start && lx.stop ≤ token.stop) = true := by
    intro lx hlx
    have hbounds := (ofTokensAt_ascending hback hhi _).bounds (List.mem_map_of_mem hlx)
    simp only [span, Token.span] at hbounds
    rw [Bool.and_eq_true, decide_eq_true_eq, decide_eq_true_eq]
    omega
  have hown : ∀ lx ∈ ofToken source (depthAt (front.foldl depthBehind depth) token) token,
      (token.start ≤ lx.start && lx.stop ≤ token.stop) = true := by
    intro lx hlx
    have hbounds := (ofToken_ascending hproper hinside _).bounds (List.mem_map_of_mem hlx)
    simp only [span] at hbounds
    rw [Bool.and_eq_true, decide_eq_true_eq, decide_eq_true_eq]
    omega
  rw [List.filter_eq_nil_iff.mpr hbefore, List.filter_eq_nil_iff.mpr hbehind,
    List.filter_eq_self.mpr hown, List.nil_append, List.append_nil]

/-- A token that is cut into its words is one word exactly if it is an ASCII word, and it is no
literal. -/
private theorem ofToken_of_other {source : List Char} {token : Token} {depth : Int}
    (hkind : token.kind = .other) (hmark : token.text ≠ "?") (hproper : token.start ≤ token.stop)
    (hinside : token.stop ≤ source.length) :
    (ofToken source depth token =
        [⟨.word, Text.sliceText source token.start token.stop, token.start, token.stop, depth⟩] ↔
      isAsciiWord (Text.slice source token.start token.stop) = true) ∧
    ∀ lx ∈ ofToken source depth token, lx.kind ≠ .string := by
  have hstop : token.start + (Text.slice source token.start token.stop).length = token.stop := by
    rw [Text.length_slice hinside]
    omega
  rw [← @asciiWords_eq_singleton_iff token.start, hstop, ofToken, hkind]
  dsimp only
  rw [if_neg hmark]
  -- The cut yields no word, or words alone, so only its one word can be the whole.
  cases asciiWords token.start 0 (Text.slice source token.start token.stop) with
  | nil => simp
  | cons word words =>
    constructor
    · obtain ⟨text, start, stop⟩ := word
      simp [Text.sliceText]
    · intro lx hlx hstring
      obtain ⟨other, -, rfl⟩ := List.mem_map.mp hlx
      cases hstring

/-- A bare token of a text that can be read is reported whole, as one word, exactly if it is an
ASCII word and does not count as a literal. It is taken for a literal exactly if it counts as one,
and then it is one as a whole. -/
theorem lexemes_of_bare_iff {sql : String} {front back : List Token} {token : Token}
    (hscan : Token.scan sql = .ok (front ++ token :: back))
    (hbare : token.isBare sql.toList = true) :
    let whole := Text.sliceText sql.toList token.start token.stop
    let depth := front.foldl depthBehind 0
    ∃ lexemes, lex sql = .ok lexemes ∧
      let own := lexemes.filter fun lx => token.start ≤ lx.start && lx.stop ≤ token.stop
      (own = [⟨.word, whole, token.start, token.stop, depth⟩] ↔
        isAsciiWord whole.toList = true ∧ token.isTypeLiteral sql.toList front = false) ∧
      ((∃ lx ∈ own, lx.kind = .string) ↔ token.isTypeLiteral sql.toList front = true) ∧
      (token.isTypeLiteral sql.toList front = true →
        own = [⟨.string, whole, token.start, token.stop, depth⟩]) := by
  intro whole depth
  refine ⟨ofTokens sql (front ++ token :: back), by rw [lex, lexBy, hscan]; rfl, ?_⟩
  intro own
  have hascending := Token.scan_ascending hscan
  obtain ⟨-, hproper, hinside⟩ :=
    hascending.bounds (List.mem_map_of_mem (List.mem_append_right front List.mem_cons_self))
  have hown : own = ofToken sql.toList (depthAt depth token) token :=
    filter_ofTokensAt hascending (Nat.le_refl _) 0
  have hwhole : whole.toList = Text.slice sql.toList token.start token.stop :=
    String.toList_ofList
  have hparen : token.kind ≠ .rightParen := by
    intro hparen
    rcases Token.scan_of_bare hscan hbare with ⟨hkind, -⟩ | ⟨⟨hkind, -⟩ | ⟨hkind, -⟩, -⟩
    all_goals
      rw [hparen] at hkind
      cases hkind
  have hdepth : depthAt depth token = depth := if_neg hparen
  rw [hown, hdepth, hwhole]
  rcases Token.scan_of_bare hscan hbare with
    ⟨hkind, htext, hliteral⟩ | ⟨⟨hkind, hmark⟩ | ⟨hkind, hdigit⟩, hliteral⟩
  · have hread : ofToken sql.toList depth token =
        [⟨.string, whole, token.start, token.stop, depth⟩] := by
      rw [ofToken, hkind, htext]
    simp [hread, hliteral]
  · obtain ⟨hword, hnone⟩ := @ofToken_of_other sql.toList token depth hkind hmark
      (Nat.le_of_lt hproper) hinside
    rw [hliteral]
    simpa [whole, hword] using hnone
  · have hread : ofToken sql.toList depth token =
        [⟨.name, token.text, token.start, token.stop, depth⟩] := by
      rw [ofToken, hkind]
    have hword := isAsciiWord_of_isDigit hdigit
    simp [hread, hliteral, hword]

/-- The name of a table that ends in a letter with an accent is not reported whole. -/
theorem lexemes_accentedTable :
    let sql := "SELECT * FROM tablé"
    let front : List Token :=
      [⟨.other, "SELECT", 0, 6⟩, ⟨.other, "*", 7, 8⟩, ⟨.other, "FROM", 9, 13⟩]
    let table : Token := ⟨.other, "tablé", 14, 19⟩
    Token.scan sql = .ok (front ++ [table]) ∧ table.isBare sql.toList = true ∧
      ∃ lexemes, lex sql = .ok lexemes ∧
        (lexemes.filter fun lx => table.start ≤ lx.start && lx.stop ≤ table.stop) ≠
          [⟨.word, "tablé", 14, 19, 0⟩] := by
  intro sql front table
  have hscan : Token.scan sql = .ok (front ++ [table]) := Token.scan_eq_ok (by decide +kernel)
  have hbare : table.isBare sql.toList = true := by decide
  have htext : Text.sliceText sql.toList table.start table.stop = "tablé" := by decide
  obtain ⟨lexemes, hlex, hwhole, -⟩ := lexemes_of_bare_iff hscan hbare
  rw [htext] at hwhole
  exact ⟨hscan, hbare, lexemes, hlex, fun hown => absurd (hwhole.mp hown).1 (by decide)⟩

end Lexeme

end SqlFacts
