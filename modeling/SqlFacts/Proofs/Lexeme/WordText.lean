import SqlFacts.Proofs.Lexeme.Order
import SqlFacts.Text.UpperCase

/-!
# Texts of words

A word is cut out of its text: it reads as the part that its span covers, and it consists of ASCII
letters, digits and underscores. So its capitals can be told letter by letter, and they are as many
as its letters.
-/

namespace SqlFacts

/-! ### Letters of ASCII texts -/

namespace Text

variable {c : Char} {cs : List Char}

/-- The capitals of ASCII characters are those of each of them. -/
theorem upperChars_eq_map (h : ∀ c ∈ cs, c.toNat < 128) : upperChars cs = cs.map Char.toUpper := by
  induction cs with
  | nil => rfl
  | cons c cs ih =>
    obtain ⟨hc, hcs⟩ := List.forall_mem_cons.mp h
    have hupper : upperChar c = [c.toUpper] := if_pos hc
    have hcons : upperChars (c :: cs) = upperChar c ++ upperChars cs := rfl
    rw [hcons, hupper, ih hcs]
    rfl

/-- ASCII characters have as many capitals as they are. -/
theorem length_upper {s : String} (h : ∀ c ∈ s.toList, c.toNat < 128) :
    (upper s).length = s.length := by
  rw [← String.length_toList, toList_upper, upperChars_eq_map h, List.length_map,
    String.length_toList]

/-- Only ASCII characters have ASCII capitals. -/
theorem toNat_lt_of_toUpper (h : c.toUpper.toNat < 128) : c.toNat < 128 := by
  have hval : c.toNat = c.val.toNat := rfl
  have hz : 'z'.val.toNat = 122 := rfl
  unfold Char.toUpper at h
  split at h
  · next hsmall =>
    have hle := UInt32.le_iff_toNat_le.mp hsmall.2
    omega
  · exact h

end Text

/-- A character of a word is an ASCII character. -/
theorem toNat_lt_of_isWordPart {c : Char} (h : isWordPart c = true) : c.toNat < 128 := by
  have hval : c.toNat = c.val.toNat := rfl
  have hZ : 'Z'.val.toNat = 90 := rfl
  have hz : 'z'.val.toNat = 122 := rfl
  have h9 : '9'.val.toNat = 57 := rfl
  have hread : isWordPart c =
      (((decide ('A'.val ≤ c.val ∧ c.val ≤ 'Z'.val) || ('a'.val ≤ c.val && c.val ≤ 'z'.val)) ||
        ('0'.val ≤ c.val && c.val ≤ '9'.val)) || c == '_') := rfl
  simp only [hread, Bool.or_eq_true, Bool.and_eq_true, decide_eq_true_eq, beq_iff_eq,
    UInt32.le_iff_toNat_le] at h
  rcases h with h | rfl
  · omega
  · decide

/-! ### Words of a text -/

/-- A word between two offsets of a text reads as the part that it covers, in word characters. -/
structure WordSpan.ReadsFrom (source : List Char) (word : WordSpan) : Prop where
  text : word.text = Text.sliceText source word.start word.stop
  isWordPart : ∀ c ∈ word.text.toList, isWordPart c = true

/-- Every word of the end of a text reads from the text. -/
theorem readsFrom_of_mem_asciiWords (front cs : List Char) {word : WordSpan}
    (h : word ∈ asciiWords front.length 0 cs) : word.ReadsFrom (front ++ cs) := by
  induction hn : cs.length using Nat.strongRecOn generalizing front cs with
  | ind n ih =>
    subst hn
    cases cs with
    | nil => cases h
    | cons c cs =>
      by_cases hc : isWordStart c = true
      · have hsplit : front ++ c :: cs =
            (front ++ c :: cs.takeWhile isWordPart) ++ cs.dropWhile isWordPart := by
          rw [List.append_assoc, List.cons_append, List.takeWhile_append_dropWhile]
        rw [asciiWords_cons_of_start hc] at h
        rcases List.mem_cons.mp h with rfl | h
        · refine ⟨?_, ?_⟩
          · have hlength : front.length + 1 + (cs.takeWhile isWordPart).length - front.length =
                (c :: cs.takeWhile isWordPart).length := by
              rw [List.length_cons]
              omega
            show _ = String.ofList (((front ++ c :: cs).drop front.length).take _)
            rw [hlength, hsplit, List.append_assoc, List.drop_left, List.take_left]
          · intro d hd
            rw [String.toList_ofList] at hd
            rcases List.mem_cons.mp hd with rfl | hd
            · exact isWordPart_of_start hc
            · exact List.mem_takeWhile_imp hd
        · rw [hsplit]
          refine ih _ ?_ _ _ ?_ rfl
          · have := (List.dropWhile_sublist isWordPart (l := cs)).length_le
            rw [List.length_cons]
            omega
          · simpa [Nat.add_assoc, Nat.add_comm 1] using h
      · rw [asciiWords_cons_of_not_start hc] at h
        have hmove : front ++ c :: cs = (front ++ [c]) ++ cs := by simp
        rw [hmove]
        exact ih _ (by simp) _ _ (by simpa using h) rfl

/-- A word of the beginning of a text reads from the whole. -/
theorem WordSpan.ReadsFrom.of_take {source : List Char} {word : WordSpan} {stop : Nat}
    (h : word.ReadsFrom (source.take stop)) (hstop : word.stop ≤ stop) : word.ReadsFrom source := by
  refine ⟨?_, h.isWordPart⟩
  rw [h.text, Text.sliceText, Text.sliceText, Text.slice, Text.slice, List.drop_take,
    List.take_take]
  congr 2
  omega

namespace Lexeme

variable {source : List Char} {lx : Lexeme}

/-- A word of a token is one of the words that the token is cut into. -/
theorem exists_asciiWord_of_mem_ofToken {token : Token} {depth : Int}
    (h : lx ∈ ofToken source depth token) (hword : lx.kind = .word) :
    ∃ word ∈ asciiWords token.start 0 (Text.slice source token.start token.stop),
      lx = ⟨.word, word.text, word.start, word.stop, depth⟩ := by
  rcases mem_ofToken_cases h with
    ⟨-, rfl⟩ | ⟨-, rfl⟩ | ⟨-, rfl⟩ | ⟨-, rfl⟩ | rfl | hcut
  · cases hword
  · cases hword
  · cases hword
  · cases hword
  · cases hword
  · exact hcut

/-- A word of a token reads from the text. -/
theorem readsFrom_of_mem_ofToken {token : Token} {depth : Int} (hproper : token.start ≤ token.stop)
    (hstop : token.stop ≤ source.length) (h : lx ∈ ofToken source depth token)
    (hword : lx.kind = .word) : (⟨lx.text, lx.start, lx.stop⟩ : WordSpan).ReadsFrom source := by
  obtain ⟨word, hmem, rfl⟩ := exists_asciiWord_of_mem_ofToken h hword
  have hfront : (source.take token.start).length = token.start := by
    rw [List.length_take]
    omega
  have hwhole : source.take token.start ++ Text.slice source token.start token.stop =
      source.take token.stop := by
    rw [Text.slice, ← List.take_add, Nat.add_sub_cancel' hproper]
  have hraw := asciiWords_ascending token.start (Text.slice source token.start token.stop)
  have hbound := (hraw.bounds (List.mem_map_of_mem hmem)).2.2
  rw [Text.length_slice hstop, Nat.add_sub_cancel' hproper] at hbound
  have hreads : word.ReadsFrom (source.take token.stop) := by
    rw [← hwhole]
    apply readsFrom_of_mem_asciiWords
    rwa [hfront]
  exact hreads.of_take hbound

/-- Every word of tokens in order inside a text reads from the text. -/
theorem readsFrom_of_mem_ofTokensAt {lo hi : Nat} {tokens : List Token} {depth : Int}
    (hspans : Span.Ascending lo hi (tokens.map Token.span)) (hhi : hi ≤ source.length)
    (h : lx ∈ ofTokensAt source depth tokens) (hword : lx.kind = .word) :
    (⟨lx.text, lx.start, lx.stop⟩ : WordSpan).ReadsFrom source := by
  obtain ⟨token, hmem, own, hlx⟩ := exists_token_of_mem_ofTokensAt h
  obtain ⟨-, hproper, hstop⟩ := hspans.bounds (List.mem_map_of_mem hmem)
  exact readsFrom_of_mem_ofToken (Nat.le_of_lt hproper) (Nat.le_trans hstop hhi) hlx hword

/-- Every word among the lexemes of a text reads from the text. -/
theorem readsFrom_of_lex {sql : String} {lexemes : List Lexeme} (h : lex sql = .ok lexemes)
    (hlx : lx ∈ lexemes) (hword : lx.kind = .word) :
    (⟨lx.text, lx.start, lx.stop⟩ : WordSpan).ReadsFrom sql.toList := by
  obtain ⟨tokens, hscan, rfl⟩ := exists_scan_of_lex h
  exact readsFrom_of_mem_ofTokensAt (Token.scan_ascending hscan) (Nat.le_refl _) hlx hword

/-- A word among the lexemes of a text is not empty. -/
theorem text_ne_empty_of_lex {sql : String} {lexemes : List Lexeme} (h : lex sql = .ok lexemes)
    (hlx : lx ∈ lexemes) (hword : lx.kind = .word) : lx.text ≠ "" := by
  obtain ⟨-, hproper, hstop⟩ := (lex_ascending h).bounds (List.mem_map_of_mem hlx)
  have hlength : (Text.slice sql.toList lx.start lx.stop).length = lx.stop - lx.start :=
    Text.length_slice hstop
  have htext : lx.text = Text.sliceText sql.toList lx.start lx.stop :=
    (readsFrom_of_lex h hlx hword).text
  intro hempty
  rw [htext, Text.sliceText, String.ofList_eq_empty_iff] at hempty
  rw [hempty, List.length_nil] at hlength
  exact Nat.sub_ne_zero_of_lt hproper hlength.symm

end Lexeme

end SqlFacts
