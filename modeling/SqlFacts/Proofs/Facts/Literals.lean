import SqlFacts.Proofs.Facts.AssignmentList
import SqlFacts.Proofs.Lexeme.Level

/-!
# Literal values

A value of a setting is a number with its marks, a literal text, one of a few words, or a group in
brackets. Only parentheses take what they hold to another level. So in brackets and braces a comma
may lie on the level of the value itself, and nothing but such a comma ends a literal early.
-/

namespace SqlFacts

open Lexeme

/-- The brackets of literals: of tuples, of arrays and of maps. -/
inductive Bracket where
  | round
  | square
  | curly
  deriving DecidableEq, Repr

namespace Bracket

/-- The symbol that opens a group. -/
def opening : Bracket → String
  | round => "("
  | square => "["
  | curly => "\x7b"

/-- The symbol that closes a group. -/
def closing : Bracket → String
  | round => ")"
  | square => "]"
  | curly => "\x7d"

end Bracket

/-- The words that are literals. -/
def literalWords : List String := ["FALSE", "INF", "NAN", "NULL", "TRUE"]

namespace Lexeme

/-- Tests for a literal of one lexeme: a number, a text or one of the words. -/
def isAtom (lx : Lexeme) : Bool := lx.kind == .number || lx.isString || lx.isWord literalWords

/-- Tests for a mark in front of a number: a sign, or a point without digits before it. -/
def isNumberMark (lx : Lexeme) : Bool := lx.isSymbol "+" || lx.isSymbol "-" || lx.isSymbol "."

/-- Tests for a part of what stands in brackets. -/
def isPart (lx : Lexeme) : Bool :=
  lx.isAtom || lx.isNumberMark || lx.isSymbol "," || lx.isSymbol ":"

end Lexeme

/-- What may stand in brackets: parts and groups, in any order. -/
inductive InBrackets : List Lexeme → Prop
  | nothing : InBrackets []
  | part {lx : Lexeme} {rest : List Lexeme} (hpart : lx.isPart = true)
      (hrest : InBrackets rest) : InBrackets (lx :: rest)
  | group {bracket : Bracket} {opening closing : Lexeme} {inside rest : List Lexeme}
      (hopening : opening.isSymbol bracket.opening = true)
      (hclosing : closing.isSymbol bracket.closing = true)
      (hinside : InBrackets inside) (hrest : InBrackets rest) :
      InBrackets (opening :: (inside ++ closing :: rest))

/-- A literal: one lexeme behind marks, or a group. -/
inductive IsLiteral : List Lexeme → Prop
  | plain {marks : List Lexeme} {atom : Lexeme} (hmarks : ∀ lx ∈ marks, lx.isNumberMark = true)
      (hatom : atom.isAtom = true) : IsLiteral (marks ++ [atom])
  | group {bracket : Bracket} {opening closing : Lexeme} {inside : List Lexeme}
      (hopening : opening.isSymbol bracket.opening = true)
      (hclosing : closing.isSymbol bracket.closing = true) (hinside : InBrackets inside) :
      IsLiteral (opening :: (inside ++ [closing]))

/-! ### Lexemes of literals -/

namespace Lexeme

variable {lx : Lexeme}

/-- Tests for a lexeme that is neither a closing keyword nor an equals sign. -/
def isInValue (lx : Lexeme) : Bool := !lx.isWord settingsEndWords && !lx.isSymbol "="

/-- A symbol is no atom. -/
theorem isAtom_of_isSymbol {symbol : String} (h : lx.isSymbol symbol = true) :
    lx.isAtom = false := by
  rw [isAtom, isString_of_isSymbol h, isWord_of_isSymbol h, kind_of_isSymbol h]
  rfl

/-- A symbol other than the equals sign may stand in a value. -/
theorem isInValue_of_isSymbol {symbol : String} (h : lx.isSymbol symbol = true)
    (hother : symbol ≠ "=") : lx.isInValue = true := by
  rw [isInValue, isWord_of_isSymbol h, isSymbol_of_isSymbol h, beq_eq_false_iff_ne.mpr hother]
  rfl

/-- A number mark is one of three symbols. -/
theorem exists_of_isNumberMark (h : lx.isNumberMark = true) :
    ∃ symbol ∈ ["+", "-", "."], lx.isSymbol symbol = true := by
  rw [isNumberMark, Bool.or_eq_true, Bool.or_eq_true] at h
  rcases h with (h | h) | h
  · exact ⟨"+", by decide, h⟩
  · exact ⟨"-", by decide, h⟩
  · exact ⟨".", by decide, h⟩

theorem isInValue_of_isAtom (h : lx.isAtom = true) : lx.isInValue = true := by
  have hword : lx.isWord settingsEndWords = false := by
    rw [← Bool.not_eq_true]
    intro hword
    rw [isWord, Bool.and_eq_true, beq_iff_eq, List.contains_iff_mem] at hword
    have hapart : ∀ word ∈ settingsEndWords, word ∉ literalWords := by decide
    simp [isAtom, isString, isWord, hword.1, hapart _ hword.2] at h
  rw [isInValue, hword, isSymbol_eq_false isAtom_of_isSymbol h]
  rfl

/-- What may stand in brackets may stand in a value, and it is no parenthesis. -/
theorem isInValue_of_isPart (h : lx.isPart = true) :
    lx.isInValue = true ∧ lx.isParen = false := by
  have hsymbol {symbol : String} (hsymbol : lx.isSymbol symbol = true)
      (hother : symbol ≠ "=" ∧ symbol ∉ ["(", ")"]) :
      lx.isInValue = true ∧ lx.isParen = false :=
    ⟨isInValue_of_isSymbol hsymbol hother.1, isParen_of_isSymbol hsymbol hother.2⟩
  rw [isPart, Bool.or_eq_true, Bool.or_eq_true, Bool.or_eq_true] at h
  rcases h with ((hatom | hmark) | hcomma) | hcolon
  · exact ⟨isInValue_of_isAtom hatom, isParen_eq_false isAtom_of_isSymbol hatom⟩
  · obtain ⟨symbol, hmem, hmark⟩ := exists_of_isNumberMark hmark
    have hapart : ∀ symbol ∈ ["+", "-", "."], symbol ≠ "=" ∧ symbol ∉ ["(", ")"] := by decide
    exact hsymbol hmark (hapart symbol hmem)
  · exact hsymbol hcomma (by decide)
  · exact hsymbol hcolon (by decide)

end Lexeme

/-! ### Levels and commas of literals -/

namespace InBrackets

/-- Parts may stand in brackets. -/
theorem of_parts {lexemes : List Lexeme} (h : ∀ lx ∈ lexemes, lx.isPart = true) :
    InBrackets lexemes := by
  induction lexemes with
  | nil => exact .nothing
  | cons lx lexemes ih =>
    obtain ⟨hpart, hrest⟩ := List.forall_mem_cons.mp h
    exact .part hpart (ih hrest)

/-- A group is closed on the level that it was opened on. -/
private theorem levelBehind_group {bracket : Bracket} {opening closing : Lexeme} {level : Int}
    (hopening : opening.isSymbol bracket.opening = true)
    (hclosing : closing.isSymbol bracket.closing = true) (hlevel : 0 ≤ level) :
    levelBehind (levelBehind level opening) closing = level := by
  simp only [levelBehind, levelAt, isSymbol_of_isSymbol hopening, isSymbol_of_isSymbol hclosing]
  cases bracket with
  | round =>
    simp [Bracket.opening, Bracket.closing]
    omega
  | square => simp [Bracket.opening, Bracket.closing]
  | curly => simp [Bracket.opening, Bracket.closing]

/-- What stands in brackets leaves the level as it was. -/
theorem levelAfter {lexemes : List Lexeme} (h : InBrackets lexemes) {level : Int}
    (hlevel : 0 ≤ level) : levelAfter level lexemes = level := by
  induction h generalizing level with
  | nothing => rfl
  | part hpart _ ih =>
    rw [levelAfter_cons, levelBehind_of_not_isParen (isInValue_of_isPart hpart).2, ih hlevel]
  | @group _ opening _ _ _ hopening hclosing _ _ ihInside ihRest =>
    rw [levelAfter_cons, levelAfter_append, levelAfter_cons,
      ihInside (levelBehind_nonneg hlevel opening), levelBehind_group hopening hclosing hlevel,
      ihRest hlevel]

/-- Nothing in brackets is a closing keyword or an equals sign. -/
theorem isInValue {lexemes : List Lexeme} (h : InBrackets lexemes) :
    ∀ lx ∈ lexemes, lx.isInValue = true := by
  induction h with
  | nothing => exact List.forall_mem_nil _
  | part hpart _ ih => exact List.forall_mem_cons.mpr ⟨(isInValue_of_isPart hpart).1, ih⟩
  | @group bracket _ _ _ _ hopening hclosing _ _ ihInside ihRest =>
    have hopens := isInValue_of_isSymbol hopening (by cases bracket <;> decide)
    have hcloses := isInValue_of_isSymbol hclosing (by cases bracket <;> decide)
    exact List.forall_mem_cons.mpr ⟨hopens, List.forall_mem_append.mpr
      ⟨ihInside, List.forall_mem_cons.mpr ⟨hcloses, ihRest⟩⟩⟩

end InBrackets

namespace IsLiteral

variable {value : List Lexeme}

/-- A literal may stand in brackets. -/
theorem inBrackets (h : IsLiteral value) : InBrackets value := by
  cases h with
  | plain hmarks hatom =>
    apply InBrackets.of_parts
    refine List.forall_mem_append.mpr ⟨fun lx hlx => ?_, List.forall_mem_singleton.mpr ?_⟩
    · rw [isPart, hmarks lx hlx]
      simp
    · rw [isPart, hatom]
      rfl
  | group hopening hclosing hinside => exact .group hopening hclosing hinside .nothing

theorem ne_nil (h : IsLiteral value) : value ≠ [] := by
  cases h <;> simp

/-- A lexeme of a literal ends a value only as a comma. -/
theorem endsValue_eq (h : IsLiteral value) (depth : Int) {lx : Lexeme} (hlx : lx ∈ value) :
    endsValue depth lx = (lx.depth == depth && lx.isSymbol ",") := by
  have hvalue := h.inBrackets.isInValue lx hlx
  rw [Lexeme.isInValue, Bool.and_eq_true, Bool.not_eq_true'] at hvalue
  rw [endsValue, hvalue.1, Bool.or_false]

/-- A comma is not the first lexeme of a literal, and no assignment begins behind it. -/
theorem of_comma {front back : List Lexeme} {comma : Lexeme}
    (h : IsLiteral (front ++ comma :: back)) (hcomma : comma.isSymbol "," = true) :
    front ≠ [] ∧ ∀ rest, beginsAssignment (back ++ rest) = false := by
  have hvalue := h.inBrackets.isInValue
  have hmem : comma ∈ front ++ comma :: back := List.mem_append_right _ List.mem_cons_self
  generalize hwhole : front ++ comma :: back = value at h hvalue hmem
  cases h with
  | @plain marks atom hmarks hatom =>
    rcases List.mem_append.mp hmem with hmark | hlast
    · obtain ⟨symbol, hsymbol, hmark⟩ := exists_of_isNumberMark (hmarks comma hmark)
      have hapart : ∀ symbol ∈ ["+", "-", "."], ("," == symbol) = false := by decide
      rw [isSymbol_of_isSymbol hcomma, hapart symbol hsymbol] at hmark
      cases hmark
    · rw [List.mem_singleton.mp hlast, isSymbol_eq_false isAtom_of_isSymbol hatom] at hcomma
      cases hcomma
  | @group bracket opening closing inside hopening hclosing hinside =>
    have hopens : opening ≠ comma := by
      rintro rfl
      rw [isSymbol_of_isSymbol hcomma] at hopening
      cases bracket <;> cases hopening
    have hcloses : closing ≠ comma := by
      rintro rfl
      rw [isSymbol_of_isSymbol hcomma] at hclosing
      cases bracket <;> cases hclosing
    cases front with
    | nil => exact absurd (List.cons.inj hwhole).1.symm hopens
    | cons first others =>
      obtain ⟨rfl, hrest⟩ := List.cons.inj hwhole
      rcases List.eq_nil_or_concat back with rfl | ⟨behind, last, rfl⟩
      · exact absurd (List.cons.inj (List.append_inj' hrest rfl).2).1.symm hcloses
      · rw [List.concat_eq_append] at hrest ⊢
        have hends : (others ++ comma :: behind) ++ [last] = inside ++ [closing] := by
          simpa using hrest
        obtain rfl : last = closing := (List.cons.inj (List.append_inj' hends rfl).2).1
        refine ⟨List.cons_ne_nil _ _, fun rest => ?_⟩
        cases behind with
        | nil =>
          cases rest with
          | nil => rfl
          | cons next rest =>
            simp [beginsAssignment, isIdentifier_of_isSymbol hclosing]
        | cons name more =>
          obtain ⟨second, after, hsecond⟩ := List.exists_cons_of_ne_nil
            (List.append_ne_nil_of_right_ne_nil more (List.cons_ne_nil last []))
          have hequals : second.isInValue = true := by
            apply hvalue
            rw [← hrest, List.cons_append, hsecond]
            simp
          rw [Lexeme.isInValue, Bool.and_eq_true, Bool.not_eq_true', Bool.not_eq_true'] at hequals
          rw [List.cons_append, hsecond]
          simp [beginsAssignment, hequals.2]

end IsLiteral

end SqlFacts
