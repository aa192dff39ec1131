import SqlFacts.Facts.Verb
import SqlFacts.Proofs.Aligned.Readers

/-!
# Kinds of statements that read alike

Statements with aligned lexemes have the same kind. To tell an alteration of rows from another one
a reader looks behind the name of a cluster without regard to groups, so no group is replaced there.
-/

namespace SqlFacts

open Lexeme

namespace Difference

variable {d : Difference} {lexemes lexemes' : List Lexeme}

/-- Without `ON` in front there is no clause to skip. -/
theorem skipCluster_of_head {lexemes : List Lexeme}
    (h : startsWith (isWord ["ON"]) lexemes = false) : skipCluster lexemes = lexemes := by
  match lexemes with
  | [] => rfl
  | [_] => rfl
  | [_, _] => rfl
  | on :: cluster :: name :: rest =>
    rw [startsWith_cons] at h
    rw [skipCluster, h]
    rfl

/-- Without `CLUSTER` behind the first lexeme there is no clause to skip. -/
theorem skipCluster_of_next {on : Lexeme} {rest : List Lexeme}
    (h : startsWith (isWord ["CLUSTER"]) rest = false) : skipCluster (on :: rest) = on :: rest := by
  match rest with
  | [] => rfl
  | [_] => rfl
  | cluster :: name :: rest =>
    rw [startsWith_cons] at h
    rw [skipCluster, h, Bool.and_false]
    rfl

/-- The lexemes that may follow begin with no word. -/
theorem startsWith_isWord_of_closing {lexemes : List Lexeme} (words : List String)
    (h : ∀ lx ∈ lexemes, lx.isSymbol ")" = true) : startsWith (isWord words) lexemes = false := by
  cases lexemes with
  | nil => rfl
  | cons lx rest => exact isWord_of_isSymbol (h lx List.mem_cons_self) words

namespace Aligned

/-- The command of an alteration begins alike, if no group is replaced. -/
theorem skipCluster (h : d.Aligned lexemes lexemes') (hkept : ¬ d.regroups) {words : List String}
    (hwords : words.contains "ON" = false) :
    startsWith (isWord words) (SqlFacts.skipCluster lexemes') =
      startsWith (isWord words) (SqlFacts.skipCluster lexemes) := by
  have hon := h.startsWith_isWord ["ON"]
  cases hfirst : startsWith (isWord ["ON"]) lexemes with
  | false =>
    rw [skipCluster_of_head hfirst, skipCluster_of_head (hon.trans hfirst)]
    exact h.startsWith_isWord words
  | true =>
    rcases h.uncons with ⟨rfl, -⟩ | ⟨on, on', rest, rest', rfl, rfl, halike, hrest⟩
    · cases hfirst
    have haligned := hrest fun hregroups => absurd hregroups hkept
    have hcluster := haligned.startsWith_isWord ["CLUSTER"]
    cases hsecond : startsWith (isWord ["CLUSTER"]) rest with
    | false =>
      rw [skipCluster_of_next hsecond, skipCluster_of_next (hcluster.trans hsecond)]
      exact h.startsWith_isWord words
    | true =>
      rcases haligned.uncons with ⟨rfl, -⟩ | ⟨cluster, cluster', rest, rest', rfl, rfl, -, hrest⟩
      · cases hsecond
      rw [hfirst] at hon
      rw [hsecond] at hcluster
      rw [startsWith_cons] at hfirst hsecond hon hcluster
      rcases (hrest fun hregroups => absurd hregroups hkept).uncons with
        ⟨rfl, rfl⟩ | ⟨name, name', rest, rest', rfl, rfl, -, hrest⟩
      · -- The clause has no name, and what may follow in its place does not begin with a word.
        have hnone : startsWith (isWord words) (SqlFacts.skipCluster [on, cluster]) = false :=
          isWord_of_disjoint hfirst (List.forall_mem_singleton.mpr hwords)
        rw [hnone]
        cases hclosing : d.closing with
        | nil => exact isWord_of_disjoint hon (List.forall_mem_singleton.mpr hwords)
        | cons lx more =>
          rw [SqlFacts.skipCluster, hon, hcluster]
          exact startsWith_isWord_of_closing words fun l hl =>
            d.isSymbol_closing l (hclosing ▸ List.mem_cons_of_mem lx hl)
      · rw [SqlFacts.skipCluster, SqlFacts.skipCluster, hfirst, hsecond, hon, hcluster]
        exact (hrest fun hregroups => absurd hregroups hkept).startsWith_isWord words

theorem kind_ofAlteration (h : d.Aligned lexemes lexemes') (hkept : ¬ d.regroups) :
    Kind.ofAlteration lexemes' = Kind.ofAlteration lexemes := by
  have hname := (h.skipWords ["TABLE", "TEMPORARY"]).dottedName?
  rw [Kind.ofAlteration, Kind.ofAlteration]
  generalize Lexeme.dottedName? (Lexeme.skipWords ["TABLE", "TEMPORARY"] lexemes) = name at hname ⊢
  generalize
    Lexeme.dottedName? (Lexeme.skipWords ["TABLE", "TEMPORARY"] lexemes') = name' at hname ⊢
  cases hname with
  | none => rfl
  | some halike =>
    dsimp only
    rw [halike.rest.skipCluster hkept (by decide), halike.rest.skipCluster hkept (by decide)]

end Aligned

/-- Only `ALTER` announces an alteration. -/
theorem eq_alter_of_ofVerb {verb : String} (h : Kind.ofVerb verb = .alter) : verb = "ALTER" := by
  unfold Kind.ofVerb at h
  split at h <;> first | rfl | cases h

theorem Aligned.kind_ofBeginning {verb verb' : Lexeme} (h : d.Aligned lexemes lexemes')
    (hverb : d.Alike verb verb') (hword : verb.kind = .word)
    (hkept : d.regroups → verb.capitals ≠ "ALTER") :
    Kind.ofBeginning (verb' :: lexemes') = Kind.ofBeginning (verb :: lexemes) := by
  rw [Kind.ofBeginning, Kind.ofBeginning, hverb.word hword, h.startsWith_isWord]
  by_cases halter : verb.capitals = "ALTER"
  · rw [halter]
    exact h.kind_ofAlteration fun hregroups => hkept hregroups halter
  · split
    · rfl
    · split
      · next hkind => exact absurd (eq_alter_of_ofVerb hkind) halter
      · rfl

/-- Statements that begin alike have the same kind. -/
theorem Begins.kind {head head' : Nat} {verb verb' : Lexeme} {rest rest' : List Lexeme}
    (h : d.Begins lexemes lexemes' head head' verb verb' rest rest')
    (hkept : d.regroups → verb.capitals ≠ "ALTER") :
    Kind.ofStatement lexemes' (some head') = Kind.ofStatement lexemes (some head) := by
  rw [Kind.ofStatement, Kind.ofStatement, h.drop, h.drop']
  exact h.aligned.kind_ofBeginning h.alike h.word hkept

end Difference

end SqlFacts
