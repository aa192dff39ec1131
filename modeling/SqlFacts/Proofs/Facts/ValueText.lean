import SqlFacts.Proofs.Facts.Settings
import SqlFacts.Proofs.Lexeme.Statements
import SqlFacts.Proofs.Token.Shape

/-!
# Texts of values

A value is written in a text from its first lexeme to its last, and its complete text is what is
written, or the content of a quoted text that stands alone. That is what is read for a value, with
one exception: a lone numeral in base two or sixteen is read without its base. What is read for
more or fewer lexemes is never the complete text.
-/

namespace SqlFacts

open Lexeme

/-- The text that is read for the lexemes of a value. -/
def readText (source : List Char) : List Lexeme → String
  | [] => ""
  | first :: others => valueText source first others

/-- What is written from the first lexeme to the last. -/
def writtenText (source : List Char) (value : List Lexeme) : String :=
  Text.sliceText source (hull value).start (hull value).stop

/-- Tests for a numeral in base two or sixteen, which is a text that begins with a digit. -/
def isNumeral (source : List Char) (lx : Lexeme) : Bool :=
  lx.isString && (source[lx.start]?).any Char.isDigit

/-- Tests for a numeral in base two or sixteen that stands alone. -/
def isLoneNumeral (source : List Char) : List Lexeme → Bool
  | [lx] => isNumeral source lx
  | _ => false

/-- The complete text of a value: the content of a quoted text that stands alone, else all that is
written. -/
def completeText (source : List Char) : List Lexeme → String
  | [lx] => if lx.isString && !isNumeral source lx then lx.text else writtenText source [lx]
  | value => writtenText source value

/-! ### Lengths of texts -/

/-- The text of a literal is no longer than what writes it, and a numeral leaves out two
characters. -/
structure WritesText (source : List Char) (lx : Lexeme) : Prop where
  length_le : lx.isString = true → lx.text.toList.length ≤ lx.stop - lx.start
  numeral : isNumeral source lx = true → lx.text.toList.length + 2 = lx.stop - lx.start

/-- Lexemes that lie in order inside a text, with their literals written in it. -/
structure WrittenIn (source : List Char) (lexemes : List Lexeme) : Prop where
  ascending : Span.Ascending 0 source.length (lexemes.map span)
  writes : ∀ lx ∈ lexemes, WritesText source lx

/-- Some of the lexemes that are written in a text are written in it. -/
theorem WrittenIn.sublist {source : List Char} {part lexemes : List Lexeme}
    (h : WrittenIn source lexemes) (hsublist : part.Sublist lexemes) : WrittenIn source part :=
  ⟨h.ascending.sublist (hsublist.map span), fun lx hlx => h.writes lx (hsublist.subset hlx)⟩

/-- A literal lexeme is a literal token as it stands. -/
theorem eq_of_mem_ofToken_of_isString {source : List Char} {depth : Int} {token : Token}
    {lx : Lexeme} (hlx : lx ∈ ofToken source depth token) (hstring : lx.isString = true) :
    token.kind = .string ∧ lx = ⟨.string, token.text, token.start, token.stop, depth⟩ := by
  rw [isString, beq_iff_eq] at hstring
  rcases mem_ofToken_cases hlx with
    hliteral | ⟨-, rfl⟩ | ⟨-, rfl⟩ | ⟨-, rfl⟩ | rfl | ⟨word, -, rfl⟩
  · exact hliteral
  · cases hstring
  · cases hstring
  · cases hstring
  · cases hstring
  · cases hstring

/-- The literals among the lexemes of tokens of a text are written in it. -/
theorem writesText_of_mem_ofTokensAt {sql : String} {tokens group : List Token}
    (hscan : Token.scan sql = .ok tokens) (hgroup : ∀ token ∈ group, token ∈ tokens)
    {depth : Int} {lx : Lexeme} (hlx : lx ∈ ofTokensAt sql.toList depth group) :
    WritesText sql.toList lx := by
  obtain ⟨token, hown, own, hlx⟩ := exists_token_of_mem_ofTokensAt hlx
  have hmem : token ∈ tokens := hgroup token hown
  constructor
  · intro hstring
    obtain ⟨-, rfl⟩ := eq_of_mem_ofToken_of_isString hlx hstring
    exact Token.scan_text_le hscan hmem
  · intro hnumeral
    rw [isNumeral, Bool.and_eq_true] at hnumeral
    obtain ⟨hkind, rfl⟩ := eq_of_mem_ofToken_of_isString hlx hnumeral.1
    exact Token.scan_numeral hscan hmem hkind hnumeral.2

/-- The lexemes of a text are written in it. -/
theorem writtenIn_of_lex {sql : String} {lexemes : List Lexeme} (h : lex sql = .ok lexemes) :
    WrittenIn sql.toList lexemes := by
  refine ⟨lex_ascending h, fun lx hlx => ?_⟩
  obtain ⟨tokens, hscan, rfl⟩ := exists_scan_of_lex h
  exact writesText_of_mem_ofTokensAt hscan (fun _ => id) hlx

/-- A value is read as it is written, or it is a single literal. -/
theorem readText_cases (source : List Char) {value : List Lexeme} (hne : value ≠ []) :
    readText source value = writtenText source value ∨
      ∃ lx, value = [lx] ∧ lx.isString = true ∧ readText source value = lx.text := by
  obtain ⟨first, others, rfl⟩ := List.exists_cons_of_ne_nil hne
  have hwritten : Text.sliceText source first.start ((others.getLast?.getD first).stop) =
      writtenText source (first :: others) := by
    rw [writtenText, hull, List.getLast?_cons]
    rfl
  rw [readText, valueText, hwritten]
  by_cases hlone : (others.isEmpty && first.isString) = true
  · rw [if_pos hlone]
    rw [Bool.and_eq_true, List.isEmpty_iff] at hlone
    obtain ⟨rfl, hstring⟩ := hlone
    exact .inr ⟨first, rfl, hstring, rfl⟩
  · exact .inl (if_neg hlone)

/-- Several lexemes are read as they are written, and that is their complete text. -/
theorem readText_of_many (source : List Char) (first second : Lexeme) (others : List Lexeme) :
    readText source (first :: second :: others) = writtenText source (first :: second :: others) ∧
      completeText source (first :: second :: others) =
        writtenText source (first :: second :: others) := by
  refine ⟨?_, rfl⟩
  rcases readText_cases source (List.cons_ne_nil first (second :: others)) with h | ⟨_, h, -⟩
  · exact h
  · cases h

section Lengths

variable {source : List Char} {value front back : List Lexeme}

theorem length_writtenText (h : WrittenIn source value) (hne : value ≠ []) :
    (writtenText source value).toList.length = (hull value).stop - (hull value).start := by
  rw [writtenText, Text.sliceText, String.toList_ofList,
    Text.length_slice (hull_bounds h.ascending hne).2.2]

/-- What is read for a value is no longer than what is written. -/
theorem length_readText_le (h : WrittenIn source value) (hne : value ≠ []) :
    (readText source value).toList.length ≤ (writtenText source value).toList.length := by
  rcases readText_cases source hne with hread | ⟨lx, rfl, hstring, hread⟩
  · rw [hread]
  · rw [hread, length_writtenText h hne]
    exact (h.writes lx List.mem_cons_self).length_le hstring

/-- The complete text of a value is no longer than what is written. -/
theorem length_completeText_le (h : WrittenIn source value) (hne : value ≠ []) :
    (completeText source value).toList.length ≤ (writtenText source value).toList.length := by
  rw [completeText.eq_def]
  split
  · next lx =>
    split
    · next hquoted =>
      rw [Bool.and_eq_true] at hquoted
      rw [length_writtenText h hne]
      exact (h.writes lx List.mem_cons_self).length_le hquoted.1
    · exact Nat.le_refl _
  · exact Nat.le_refl _

/-- More is written with more lexemes behind. -/
theorem length_writtenText_lt (h : WrittenIn source (front ++ back)) (hfront : front ≠ [])
    (hback : back ≠ []) :
    (writtenText source front).toList.length <
      (writtenText source (front ++ back)).toList.length := by
  have hwhole := length_writtenText h (List.append_ne_nil_of_left_ne_nil hfront back)
  have hpart := length_writtenText (h.sublist (List.sublist_append_left front back)) hfront
  have hascending := h.ascending
  rw [List.map_append] at hascending
  obtain ⟨mid, hbefore, hbehind⟩ := hascending.of_append
  have hbefore := hull_bounds hbefore hfront
  have hbehind := hull_bounds hbehind hback
  have hstart : (hull (front ++ back)).start = (hull front).start := by
    rw [hull, List.head?_append_of_ne_nil front hfront]
    rfl
  have hstop : (hull (front ++ back)).stop = (hull back).stop := by
    rw [hull, List.getLast?_append_of_ne_nil front hback]
    rfl
  omega

end Lengths

/-! ### What is read and what is complete -/

section Complete

variable {source : List Char} {value front back : List Lexeme}

/-- A part in front of more lexemes is not read as the complete text of all of them, nor are they
read as the complete text of the part. -/
theorem readText_ne_completeText (h : WrittenIn source (front ++ back)) (hfront : front ≠ [])
    (hback : back ≠ []) :
    readText source front ≠ completeText source (front ++ back) ∧
      readText source (front ++ back) ≠ completeText source front := by
  have hless := length_writtenText_lt h hfront hback
  have hpart := h.sublist (List.sublist_append_left front back)
  have hread := length_readText_le hpart hfront
  have hcomplete := length_completeText_le hpart hfront
  obtain ⟨first, others, rfl⟩ := List.exists_cons_of_ne_nil hfront
  obtain ⟨second, more, hmany⟩ : ∃ second more, others ++ back = second :: more :=
    List.exists_cons_of_ne_nil (List.append_ne_nil_of_right_ne_nil others hback)
  rw [List.cons_append, hmany] at hless ⊢
  obtain ⟨hreadAll, hcompleteAll⟩ := readText_of_many source first second more
  rw [hreadAll, hcompleteAll]
  constructor
  · intro heq
    rw [heq] at hread
    omega
  · intro heq
    rw [← heq] at hcomplete
    omega

/-- A numeral in base two or sixteen that stands alone is not read completely. -/
theorem readText_ne_completeText_of_isNumeral {lx : Lexeme} (h : WrittenIn source [lx])
    (hnumeral : isNumeral source lx = true) :
    readText source [lx] ≠ completeText source [lx] := by
  have hlength := length_writtenText h (List.cons_ne_nil lx [])
  have htext := (h.writes lx List.mem_cons_self).numeral hnumeral
  have hstring : lx.isString = true := by
    rw [isNumeral, Bool.and_eq_true] at hnumeral
    exact hnumeral.1
  have hread : readText source [lx] = lx.text := by
    rw [readText, valueText, hstring]
    rfl
  rw [hread, completeText, hnumeral, Bool.not_true, Bool.and_false, if_neg Bool.false_ne_true]
  intro heq
  rw [heq, hlength] at htext
  change lx.stop - lx.start + 2 = lx.stop - lx.start at htext
  omega

/-- The complete text of a value is read exactly if it is no numeral that stands alone. -/
theorem readText_eq_completeText_iff (h : WrittenIn source value) :
    readText source value = completeText source value ↔ isLoneNumeral source value = false := by
  match value with
  | [] =>
    have hnothing : completeText source [] = "" := by
      change String.ofList ((source.drop 0).take 0) = ""
      rw [List.take_zero]
    exact iff_of_true hnothing.symm rfl
  | [lx] =>
    rw [isLoneNumeral]
    cases hnumeral : isNumeral source lx with
    | true =>
      exact iff_of_false (readText_ne_completeText_of_isNumeral h hnumeral) Bool.true_eq_false.mp
    | false =>
      refine iff_of_true ?_ rfl
      rw [readText, valueText, completeText, hnumeral, Bool.not_false, Bool.and_true]
      rfl
  | first :: second :: others =>
    obtain ⟨hread, hcomplete⟩ := readText_of_many source first second others
    exact iff_of_true (hread.trans hcomplete.symm) rfl

end Complete

end SqlFacts
