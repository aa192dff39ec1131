import SqlFacts.Proofs.Aligned.Lists

/-!
# Readers of lists that read alike

A reader that expects certain lexemes in front of a list, or looks for the first or the last place
where it has an answer, has related answers on aligned lists. So have the readers of names.
-/

namespace SqlFacts

open Lexeme

namespace Difference

universe u v

variable {d : Difference} {lexemes lexemes' : List Lexeme}

section Readers

variable {α : Type u} {β : Type v} {related : α → β → Prop}

/-- A reader that expects a lexeme in front of a list. -/
def expect {α : Type u} (test : Lexeme → Bool) (read : Lexeme → List Lexeme → Option α) :
    List Lexeme → Option α
  | [] => none
  | lx :: rest => if test lx then read lx rest else none

/-- Readers that expect a lexeme, other than the opening of a group that may be replaced, have
related answers on aligned lists if what they read behind it is related. -/
theorem Aligned.expect {test test' : Lexeme → Bool} {read : Lexeme → List Lexeme → Option α}
    {read' : Lexeme → List Lexeme → Option β} (h : d.Aligned lexemes lexemes')
    (htest : d.Agree test test')
    (hopening : d.regroups → ∀ lx : Lexeme, lx.isSymbol "(" = true → test lx = false)
    (hread : ∀ {a b : Lexeme} {rest rest' : List Lexeme}, test a = true → d.Alike a b →
      d.Aligned rest rest' → Option.Rel related (read a rest) (read' b rest')) :
    Option.Rel related (Difference.expect test read lexemes)
      (Difference.expect test' read' lexemes') := by
  rcases h.uncons with ⟨rfl, rfl⟩ | ⟨a, b, rest, rest', rfl, rfl, halike, hrest⟩
  · cases hclosing : d.closing with
    | nil => exact .none
    | cons lx rest =>
      have hlx := htest.closing (isSymbol_of_closing_eq hclosing)
      rw [Difference.expect, Difference.expect, hlx]
      exact .none
  · rw [Difference.expect, Difference.expect, htest.alike halike]
    split
    · next ha =>
      exact hread ha halike (hrest fun hregroups => isSymbol_eq_false (hopening hregroups a) ha)
    · exact .none

/-- Two readers have related answers on aligned lists, and none at the lexemes that may follow or
in a group that may be replaced. -/
structure Relates (d : Difference) (related : α → β → Prop) (read : List Lexeme → Option α)
    (read' : List Lexeme → Option β) : Prop where
  aligned : ∀ {lexemes lexemes' : List Lexeme}, d.Aligned lexemes lexemes' →
    Option.Rel related (read lexemes) (read' lexemes')
  closing : Unanswered read' d.closing
  replaced : ∀ {group group' : List Lexeme}, d.Replaced group group' →
    Unanswered read group ∧ Unanswered read' group'

/-- The first answers of related readers are related. -/
theorem Relates.firstSome {read : List Lexeme → Option α} {read' : List Lexeme → Option β}
    (hread : d.Relates related read read') (h : d.Aligned lexemes lexemes') :
    Option.Rel related (Lexeme.firstSome read lexemes) (Lexeme.firstSome read' lexemes') := by
  induction h with
  | nil =>
    rw [← List.append_nil d.closing, firstSome_append_of_unanswered hread.closing]
    exact .none
  | @cons a b rest rest' alike aligned ih =>
    have hhere := hread.aligned (.cons alike aligned)
    rw [Lexeme.firstSome, Lexeme.firstSome]
    generalize read (a :: rest) = here at hhere ⊢
    generalize read' (b :: rest') = here' at hhere ⊢
    cases hhere with
    | some hrelated => exact .some hrelated
    | none => exact ih
  | group replaced _ ih =>
    obtain ⟨hgroup, hgroup'⟩ := hread.replaced replaced
    rw [firstSome_append_of_unanswered hgroup, firstSome_append_of_unanswered hgroup']
    exact ih

/-- The last answers of related readers are related. -/
theorem Relates.lastSome {read : List Lexeme → Option α} {read' : List Lexeme → Option β}
    (hread : d.Relates related read read') (h : d.Aligned lexemes lexemes') :
    Option.Rel related (Lexeme.lastSome read lexemes) (Lexeme.lastSome read' lexemes') := by
  induction h with
  | nil =>
    rw [← List.append_nil d.closing, lastSome_append_of_unanswered hread.closing]
    exact .none
  | @cons a b rest rest' alike aligned ih =>
    have hhere := hread.aligned (.cons alike aligned)
    rw [Lexeme.lastSome, Lexeme.lastSome]
    generalize Lexeme.lastSome read rest = later at ih ⊢
    generalize Lexeme.lastSome read' rest' = later' at ih ⊢
    cases ih with
    | some hrelated => exact .some hrelated
    | none => exact hhere
  | group replaced _ ih =>
    obtain ⟨hgroup, hgroup'⟩ := hread.replaced replaced
    rw [lastSome_append_of_unanswered hgroup, lastSome_append_of_unanswered hgroup']
    exact ih

/-- Readers that answer only at words of a statement relate if they have related answers. -/
theorem relates_of_quiet {read : List Lexeme → Option α} {read' : List Lexeme → Option β}
    (haligned : ∀ {lexemes lexemes' : List Lexeme}, d.Aligned lexemes lexemes' →
      Option.Rel related (read lexemes) (read' lexemes'))
    (hquiet : ∀ lx : Lexeme, lx.Quiet d.limit → ∀ rest, read (lx :: rest) = none)
    (hquiet' : ∀ lx : Lexeme, lx.Quiet (d.limit + d.rise) → ∀ rest, read' (lx :: rest) = none) :
    d.Relates related read read' where
  aligned := haligned
  closing := fun lx hlx => hquiet' lx (quiet_closing lx hlx)
  replaced := fun hreplaced => ⟨fun lx hlx => hquiet lx (hreplaced.quiet lx hlx),
    fun lx hlx => hquiet' lx (hreplaced.quiet' lx hlx)⟩

/-- A reader that expects a word of the statement first relates to one that expects it likewise. -/
theorem relates_expect_word {words : List String}
    {read : Lexeme → List Lexeme → Option α} {read' : Lexeme → List Lexeme → Option β}
    (hread : ∀ {a b : Lexeme} {rest rest' : List Lexeme}, d.Aligned rest rest' →
      Option.Rel related (read a rest) (read' b rest')) :
    d.Relates related (expect (isWordWithin words d.limit) read)
      (expect (isWordWithin words (d.limit + d.rise)) read') := by
  refine relates_of_quiet (fun h => ?_) (fun lx hlx rest => ?_) fun lx hlx rest => ?_
  · refine h.expect (agree_isWordWithin words) (fun _ => ?_) fun _ _ hrest => hread hrest
    exact fun _ hopens => isWordWithin_of_isSymbol hopens words d.limit
  · rw [expect, hlx.isWordWithin]
    rfl
  · rw [expect, hlx.isWordWithin]
    rfl

/-- What is copied from a lexeme that is expected in front of aligned lists is related. -/
theorem Aligned.expect_text (h : d.Aligned lexemes lexemes') {test : Lexeme → Bool}
    (htest : d.Agree test test)
    (hopening : ∀ lx : Lexeme, lx.isSymbol "(" = true → test lx = false) :
    Option.Rel d.copied (Difference.expect test (fun lx _ => some lx.text) lexemes)
      (Difference.expect test (fun lx _ => some lx.text) lexemes') :=
  h.expect htest (fun _ => hopening) fun _ halike _ => .some halike.copied

end Readers

/-! ### Names -/

/-- The part that a dot joins to a name, and the lexemes behind it. -/
def nextPart? : List Lexeme → Option (Lexeme × List Lexeme) :=
  expect (isSymbol ".") fun _ => expect isIdentifier fun part rest => some (part, rest)

/-- The parts that dots join to a name are read one after the other. -/
theorem furtherParts_eq (lexemes : List Lexeme) :
    Lexeme.furtherParts lexemes =
      match nextPart? lexemes with
      | some (part, rest) =>
        ⟨part.text :: (Lexeme.furtherParts rest).parts, (Lexeme.furtherParts rest).rest⟩
      | none => ⟨[], lexemes⟩ := by
  cases lexemes with
  | nil => rfl
  | cons dot behind =>
    cases behind with
    | nil =>
      rw [nextPart?, Difference.expect, Difference.expect, ite_self]
      rfl
    | cons part rest =>
      rw [nextPart?, Difference.expect, Difference.expect, Lexeme.furtherParts]
      cases hdot : dot.isSymbol "." with
      | false => rfl
      | true =>
        cases hpart : part.isIdentifier with
        | false => rfl
        | true => rfl

/-- Fewer lexemes are left behind a further part. -/
theorem length_lt_of_nextPart? {part : Lexeme} {rest : List Lexeme}
    (h : nextPart? lexemes = some (part, rest)) : rest.length < lexemes.length := by
  cases lexemes with
  | nil => cases h
  | cons dot behind =>
    rw [nextPart?, Difference.expect] at h
    split at h
    · cases behind with
      | nil => cases h
      | cons lx behind =>
        rw [Difference.expect] at h
        split at h
        · cases h
          simp only [List.length_cons]
          omega
        · cases h
    · cases h

/-- Two names whose parts are related one by one, with aligned lists behind them. -/
structure NamesAlike (d : Difference) (name name' : DottedName) : Prop where
  parts : List.Forall₂ d.copied name.parts name'.parts
  rest : d.Aligned name.rest name'.rest

theorem Aligned.nextPart? (h : d.Aligned lexemes lexemes') :
    Option.Rel (fun next next' : Lexeme × List Lexeme =>
        d.copied next.1.text next'.1.text ∧ d.Aligned next.2 next'.2)
      (Difference.nextPart? lexemes) (Difference.nextPart? lexemes') := by
  refine h.expect (agree_isSymbol _ (by decide)) (fun _ => ?_) fun _ _ hrest => ?_
  · exact fun _ hopens => isSymbol_of_isSymbol hopens "."
  · refine hrest.expect agree_isIdentifier (fun _ _ => isIdentifier_of_isSymbol) ?_
    exact fun _ halike hrest => .some ⟨halike.copied, hrest⟩

theorem Aligned.furtherParts (h : d.Aligned lexemes lexemes') :
    d.NamesAlike (Lexeme.furtherParts lexemes) (Lexeme.furtherParts lexemes') := by
  induction hlength : lexemes.length using Nat.strongRecOn generalizing lexemes lexemes' with
  | ind length ih =>
    have hnext := h.nextPart?
    rw [furtherParts_eq, furtherParts_eq]
    cases hread : Difference.nextPart? lexemes with
    | none =>
      rw [hread] at hnext
      generalize Difference.nextPart? lexemes' = next' at hnext ⊢
      cases hnext
      exact ⟨.nil, h⟩
    | some next =>
      rw [hread] at hnext
      generalize Difference.nextPart? lexemes' = next' at hnext ⊢
      cases hnext with
      | some hrelated =>
        obtain ⟨htext, hrest⟩ := hrelated
        have hlater := ih _ (hlength ▸ length_lt_of_nextPart? hread) hrest rfl
        exact ⟨.cons htext hlater.parts, hlater.rest⟩

theorem Aligned.dottedName? (h : d.Aligned lexemes lexemes') :
    Option.Rel d.NamesAlike (Lexeme.dottedName? lexemes) (Lexeme.dottedName? lexemes') := by
  have hexpect (lexemes : List Lexeme) : Lexeme.dottedName? lexemes =
      Difference.expect isIdentifier (fun lx rest => some
        ⟨lx.text :: (Lexeme.furtherParts rest).parts, (Lexeme.furtherParts rest).rest⟩)
        lexemes := by
    cases lexemes <;> rfl
  rw [hexpect, hexpect]
  refine h.expect agree_isIdentifier (fun _ _ => isIdentifier_of_isSymbol) ?_
  intro a b rest rest' _ halike hrest
  exact .some ⟨.cons halike.copied hrest.furtherParts.parts, hrest.furtherParts.rest⟩

theorem NamesAlike.isCall {name name' : DottedName} (h : d.NamesAlike name name') :
    name'.isCall = name.isCall :=
  h.rest.head?_any (agree_isSymbol _ (by decide))

theorem Aligned.objectName? (h : d.Aligned lexemes lexemes') :
    Option.Rel d.NamesAlike (Lexeme.objectName? lexemes) (Lexeme.objectName? lexemes') := by
  have hname := h.dottedName?
  rw [Lexeme.objectName?, Lexeme.objectName?]
  generalize Lexeme.dottedName? lexemes = name at hname ⊢
  generalize Lexeme.dottedName? lexemes' = name' at hname ⊢
  cases hname with
  | none => exact .none
  | some hrelated =>
    rw [Option.filter_some, Option.filter_some, hrelated.isCall]
    split
    · exact .some hrelated
    · exact .none

end Difference

end SqlFacts
