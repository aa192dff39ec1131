import Mathlib.Data.List.Basic

/-!
# Spans in order

A span is a part of a text, between two offsets. The pieces that a text is cut into have spans
that follow each other without overlap; what is said about such a sequence here holds of tokens,
lexemes and statements alike.
-/

namespace SqlFacts

/-- The part of a text from `start` up to, not including, `stop`. -/
structure Span where
  start : Nat
  stop : Nat
  deriving DecidableEq, Repr

namespace Span

/-- One span lies wholly inside another. -/
def Covers (outer inner : Span) : Prop := outer.start ≤ inner.start ∧ inner.stop ≤ outer.stop

/-- Whether one span lies inside another can be computed. -/
instance (outer inner : Span) : Decidable (outer.Covers inner) :=
  inferInstanceAs (Decidable (_ ∧ _))

/-- What lies inside a part of a span lies inside the span. -/
theorem Covers.trans {a b c : Span} (h : a.Covers b) (h' : b.Covers c) : a.Covers c :=
  ⟨Nat.le_trans h.1 h'.1, Nat.le_trans h'.2 h.2⟩

/-- Spans that follow each other between two offsets, none of them empty. -/
def Ascending : (lo hi : Nat) → List Span → Prop
  | lo, hi, [] => lo ≤ hi
  | lo, hi, span :: spans => lo ≤ span.start ∧ span.start < span.stop ∧ Ascending span.stop hi spans

/-- Whether spans follow each other can be computed. -/
instance decidableAscending :
    (lo hi : Nat) → (spans : List Span) → Decidable (Ascending lo hi spans)
  | lo, hi, [] => inferInstanceAs (Decidable (lo ≤ hi))
  | lo, hi, span :: spans =>
    have := decidableAscending span.stop hi spans
    inferInstanceAs (Decidable
      (lo ≤ span.start ∧ span.start < span.stop ∧ Ascending span.stop hi spans))

namespace Ascending

variable {lo mid hi : Nat} {spans others : List Span}

/-- The lower offset does not exceed the upper one. -/
theorem le (h : Ascending lo hi spans) : lo ≤ hi := by
  induction spans generalizing lo with
  | nil => exact h
  | cons span spans ih =>
    obtain ⟨above, proper, rest⟩ := h
    have := ih rest
    omega

/-- A wider range holds the same spans. -/
theorem mono {lo' hi' : Nat} (h : Ascending lo hi spans) (hlo : lo' ≤ lo) (hhi : hi ≤ hi') :
    Ascending lo' hi' spans := by
  induction spans generalizing lo lo' with
  | nil =>
    have := h.le
    simp only [Ascending]
    omega
  | cons span spans ih =>
    obtain ⟨above, proper, rest⟩ := h
    exact ⟨by omega, proper, ih rest (Nat.le_refl _)⟩

/-- Two ranges of spans make one, end to end. -/
theorem append (h : Ascending lo mid spans) (h' : Ascending mid hi others) :
    Ascending lo hi (spans ++ others) := by
  induction spans generalizing lo with
  | nil => exact h'.mono h (Nat.le_refl _)
  | cons span spans ih => exact ⟨h.1, h.2.1, ih h.2.2⟩

/-- A sequence of spans falls into two at any of its places. -/
theorem of_append (h : Ascending lo hi (spans ++ others)) :
    ∃ mid, Ascending lo mid spans ∧ Ascending mid hi others := by
  induction spans generalizing lo with
  | nil => exact ⟨lo, Nat.le_refl _, h⟩
  | cons span spans ih =>
    obtain ⟨above, proper, rest⟩ := h
    obtain ⟨mid, front, back⟩ := ih rest
    exact ⟨mid, ⟨above, proper, front⟩, back⟩

/-- Each span is not empty and lies between the two offsets. -/
theorem bounds (h : Ascending lo hi spans) {span : Span} (hs : span ∈ spans) :
    lo ≤ span.start ∧ span.start < span.stop ∧ span.stop ≤ hi := by
  induction spans generalizing lo with
  | nil => cases hs
  | cons first spans ih =>
    obtain ⟨above, proper, rest⟩ := h
    rcases List.mem_cons.mp hs with rfl | hs
    · exact ⟨above, proper, rest.le⟩
    · have := ih rest hs
      omega

/-- Spans may be left out of a sequence. -/
theorem sublist (h : Ascending lo hi spans) (hs : others.Sublist spans) :
    Ascending lo hi others := by
  induction hs generalizing lo with
  | slnil => exact h
  | cons span hs ih =>
    obtain ⟨above, proper, rest⟩ := h
    exact (ih rest).mono (by omega) (Nat.le_refl _)
  | cons_cons span hs ih => exact ⟨h.1, h.2.1, ih h.2.2⟩

/-- Each span ends before the later ones begin. -/
theorem pairwise (h : Ascending lo hi spans) : spans.Pairwise (·.stop ≤ ·.start) := by
  induction spans generalizing lo with
  | nil => exact List.Pairwise.nil
  | cons span spans ih =>
    obtain ⟨_, _, rest⟩ := h
    exact List.pairwise_cons.mpr ⟨fun _ hs => (rest.bounds hs).1, ih rest⟩

/-- The spans begin at ascending offsets. -/
theorem pairwise_start (h : Ascending lo hi spans) : (spans.map start).Pairwise (· < ·) := by
  rw [List.pairwise_map]
  exact h.pairwise.imp_of_mem fun ha _ hbehind => Nat.lt_of_lt_of_le (h.bounds ha).2.1 hbehind

/-- At most one of the spans covers a part that is not empty. -/
theorem index_unique (h : Ascending lo hi spans) {i j : Nat} {a b part : Span}
    (ha : spans[i]? = some a) (hb : spans[j]? = some b) (hap : a.Covers part) (hbp : b.Covers part)
    (hpart : part.start < part.stop) : i = j := by
  have apart := List.pairwise_iff_getElem.mp h.pairwise
  obtain ⟨hil, rfl⟩ := List.getElem?_eq_some_iff.mp ha
  obtain ⟨hjl, rfl⟩ := List.getElem?_eq_some_iff.mp hb
  obtain ⟨_, _⟩ := hap
  obtain ⟨_, _⟩ := hbp
  rcases Nat.lt_trichotomy i j with hlt | heq | hlt
  · have := apart i j hil hjl hlt
    omega
  · exact heq
  · have := apart j i hjl hil hlt
    omega

end Ascending

end Span

end SqlFacts
