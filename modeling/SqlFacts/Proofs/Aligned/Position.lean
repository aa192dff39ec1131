import SqlFacts.Proofs.Aligned.Lists
import SqlFacts.Proofs.Facts.Positions

/-!
# Places of keywords in statements that read alike

A scan of two aligned lists records the same keywords, at places that are the fixed distance apart.
A scan counts lexemes to find the object word. So groups may only be replaced by groups of another
length behind it.
-/

namespace SqlFacts

open Lexeme

namespace Difference

variable {d : Difference} {lexemes lexemes' : List Lexeme}

/-- Two scans for keywords that know alike things, save for their indices. -/
structure StatesAlike (d : Difference) (state state' : ScanState) : Prop where
  previous : Option.Rel d.Alike state.previous state'.previous
  inData : state'.inData = state.inData
  found : state'.found = state.found

theorem keywordWithin?_of_alike {a b : Lexeme} (h : d.Alike a b) :
    keywordWithin? (d.limit + d.rise) b = keywordWithin? d.limit a := by
  rw [keywordWithin?, keywordWithin?, h.kind, h.depth]
  by_cases hword : a.kind = .word
  · rw [h.word hword]
    simp
  · simp [hword]

theorem keywordWithin?_of_quiet {limit : Int} {lx : Lexeme} (h : lx.Quiet limit) :
    keywordWithin? limit lx = none := by
  rw [keywordWithin?]
  rcases h with hsymbol | hdeep
  · rw [hsymbol]
    rfl
  · rw [decide_eq_false (by omega), Bool.and_false]
    rfl

section Neighbours

variable {previous previous' : Option Lexeme}

/-- A word between alike neighbours is a column for both statements or for neither. -/
theorem isColumnName_of_alike (hprevious : Option.Rel d.Alike previous previous')
    (hnext : d.Aligned lexemes lexemes') :
    isColumnName previous' lexemes'.head? = isColumnName previous lexemes.head? := by
  have hbehind := hnext.head?_any (agree_or (agree_or (agree_or
    (agree_isWord ["AS", Keyword.from.name]) (agree_isSymbol "," (by decide)))
    (agree_isSymbol "=" (by decide))) (agree_isSymbol "." (by decide)))
  rw [isColumnName, isColumnName, hbehind]
  cases hprevious with
  | none => rfl
  | some halike => rw [Option.any_some, Option.any_some, halike.isSymbol]

/-- A keyword between alike neighbours is used as one in both statements or in neither. -/
theorem isUsed_of_alike (hprevious : Option.Rel d.Alike previous previous')
    (hnext : d.Aligned lexemes lexemes') (isObjectWord inData : Bool) (keyword : Keyword) :
    keyword.isUsed isObjectWord inData previous' lexemes'.head? =
      keyword.isUsed isObjectWord inData previous lexemes.head? := by
  cases keyword <;> try rfl
  case totals =>
    cases hprevious with
    | none => rfl
    | some halike => exact halike.isWord _
  case replace =>
    cases hprevious with
    | none => rfl
    | some halike => exact halike.isWord _
  case «exists» =>
    have hopens := hnext.head?_any (agree_isSymbol "(" (by decide))
    rw [Keyword.isUsed, Keyword.isUsed, hopens]

end Neighbours

section Scan

variable {state state' : ScanState} {objectWord objectWord' : Option Nat}

/-- Scans that know alike things record the same keyword at alike lexemes, if both or neither is
the object word. -/
theorem StatesAlike.recorded? (hstate : d.StatesAlike state state') {a b : Lexeme}
    (halike : d.Alike a b) (hnext : d.Aligned lexemes lexemes')
    (hindex : (objectWord' == some state'.index) = (objectWord == some state.index)) :
    state'.recorded? (d.limit + d.rise) objectWord' b lexemes'.head? =
      state.recorded? d.limit objectWord a lexemes.head? := by
  rw [ScanState.recorded?, ScanState.recorded?, keywordWithin?_of_alike halike, hstate.found,
    hstate.inData, hindex, isColumnName_of_alike hstate.previous hnext]
  congr 1
  funext keyword
  rw [isUsed_of_alike hstate.previous hnext]

/-- Scans that know alike things know alike things behind alike lexemes. -/
theorem StatesAlike.advance (hstate : d.StatesAlike state state') {a b : Lexeme}
    (halike : d.Alike a b) (recorded : Option Keyword) :
    d.StatesAlike (state.advance d.limit a recorded)
      (state'.advance (d.limit + d.rise) b recorded) := by
  refine ⟨.some halike, ?_, ?_⟩
  · simp only [ScanState.advance, keywordWithin?_of_alike halike, hstate.inData]
  · simp only [ScanState.advance, hstate.found]

/-- A scan passes over quiet lexemes. -/
theorem positionsFrom_append_of_quiet {limit : Int} {front rest : List Lexeme}
    (h : ∀ lx ∈ front, lx.Quiet limit) (state : ScanState) :
    positionsFrom limit objectWord state (front ++ rest) =
      positionsFrom limit objectWord ⟨state.index + front.length,
        front.getLast?.or state.previous, state.inData, state.found⟩ rest := by
  induction front generalizing state with
  | nil => rfl
  | cons lx front ih =>
    have hread := keywordWithin?_of_quiet (h lx List.mem_cons_self)
    have hrecorded (next : Option Lexeme) : state.recorded? limit objectWord lx next = none := by
      rw [ScanState.recorded?, hread]
      rfl
    rw [List.cons_append, positionsFrom_cons (hrecorded _),
      ih fun l hl => h l (List.mem_cons_of_mem _ hl)]
    have hindex : state.index + 1 + front.length = state.index + (lx :: front).length := by
      rw [List.length_cons]
      omega
    have hlast : front.getLast?.or (some lx) = (lx :: front).getLast?.or state.previous := by
      rw [List.getLast?_cons]
      cases front.getLast? <;> rfl
    have hinData : (state.inData && keywordWithin? limit lx != some .select) = state.inData := by
      rw [hread]
      exact Bool.and_true _
    simp only [ScanState.advance, hindex, hlast, hinData]
    rfl

/-- One step of two scans over alike lexemes. -/
theorem StatesAlike.positionsFrom_cons (hstate : d.StatesAlike state state') {a b : Lexeme}
    (halike : d.Alike a b) (hnext : d.Aligned lexemes lexemes')
    (hindex : (objectWord' == some state'.index) = (objectWord == some state.index))
    (hrest : ∀ recorded : Option Keyword,
      positionsFrom (d.limit + d.rise) objectWord'
          (state'.advance (d.limit + d.rise) b recorded) lexemes' =
        (positionsFrom d.limit objectWord (state.advance d.limit a recorded) lexemes).map
          fun entry => (entry.1, entry.2 + d.offset)) :
    positionsFrom (d.limit + d.rise) objectWord' state' (b :: lexemes') =
      (positionsFrom d.limit objectWord state (a :: lexemes)).map
        fun entry => (entry.1, entry.2 + d.offset) := by
  rw [SqlFacts.positionsFrom_cons (hstate.recorded? halike hnext hindex),
    SqlFacts.positionsFrom_cons rfl, hrest, List.map_append, halike.start]
  congr 1
  cases state.recorded? d.limit objectWord a lexemes.head? <;> rfl

/-- Aligned lists have the same keywords at places moved by the fixed distance, for scans whose
object words are at the same distance. If groups are replaced, both have passed the object word. -/
theorem Aligned.positionsFrom (h : d.Aligned lexemes lexemes') (hstate : d.StatesAlike state state')
    (hindex : ∀ ahead : Nat, (objectWord' == some (state'.index + ahead)) =
      (objectWord == some (state.index + ahead)))
    (hpassed : d.regroups → ∀ ahead : Nat, objectWord ≠ some (state.index + ahead) ∧
      objectWord' ≠ some (state'.index + ahead)) :
    SqlFacts.positionsFrom (d.limit + d.rise) objectWord' state' lexemes' =
      (SqlFacts.positionsFrom d.limit objectWord state lexemes).map
        fun entry => (entry.1, entry.2 + d.offset) := by
  induction h generalizing state state' with
  | nil =>
    rw [← List.append_nil d.closing, positionsFrom_append_of_quiet quiet_closing]
    rfl
  | cons alike aligned ih =>
    refine hstate.positionsFrom_cons alike aligned (hindex 0) fun recorded => ?_
    refine ih (hstate.advance alike recorded) (fun ahead => ?_) fun hregroups ahead => ?_
    · have := hindex (1 + ahead)
      rwa [← Nat.add_assoc, ← Nat.add_assoc] at this
    · have := hpassed hregroups (1 + ahead)
      rwa [← Nat.add_assoc, ← Nat.add_assoc] at this
  | group replaced aligned ih =>
    have hbehind := hpassed replaced.allowed
    rw [positionsFrom_append_of_quiet replaced.quiet, positionsFrom_append_of_quiet replaced.quiet']
    refine ih ?_ (fun ahead => ?_) fun _ ahead => ?_
    · obtain ⟨a, b, front, front', rfl, rfl, halike⟩ := replaced.closing
      refine ⟨?_, hstate.inData, hstate.found⟩
      rw [List.getLast?_concat, List.getLast?_concat]
      exact .some halike
    · rw [beq_eq_false_iff_ne.mpr (Nat.add_assoc _ _ _ ▸ (hbehind _).2),
        beq_eq_false_iff_ne.mpr (Nat.add_assoc _ _ _ ▸ (hbehind _).1)]
    · exact ⟨Nat.add_assoc _ _ _ ▸ (hbehind _).1, Nat.add_assoc _ _ _ ▸ (hbehind _).2⟩

/-- The places in aligned lists are at the fixed distance too if the object words stand among
lexemes in front that agree one by one, and groups are replaced behind these only. -/
theorem Aligned.positionsFrom_append {front front' : List Lexeme}
    (hfront : List.Forall₂ d.Alike front front') (h : d.Aligned lexemes lexemes')
    (hstate : d.StatesAlike state state')
    (hindex : ∀ ahead : Nat, (objectWord' == some (state'.index + ahead)) =
      (objectWord == some (state.index + ahead)))
    (hpassed : ∀ ahead : Nat, objectWord ≠ some (state.index + front.length + ahead) ∧
      objectWord' ≠ some (state'.index + front.length + ahead)) :
    SqlFacts.positionsFrom (d.limit + d.rise) objectWord' state' (front' ++ lexemes') =
      (SqlFacts.positionsFrom d.limit objectWord state (front ++ lexemes)).map
        fun entry => (entry.1, entry.2 + d.offset) := by
  induction hfront generalizing state state' with
  | nil => exact h.positionsFrom hstate hindex fun _ => hpassed
  | @cons a b front front' alike hfront ih =>
    rw [List.cons_append, List.cons_append]
    refine hstate.positionsFrom_cons alike (.append hfront h) (hindex 0) fun recorded => ?_
    refine ih (hstate.advance alike recorded) (fun ahead => ?_) fun ahead => ?_
    · have := hindex (1 + ahead)
      rwa [← Nat.add_assoc, ← Nat.add_assoc] at this
    · have := hpassed ahead
      rw [List.length_cons, Nat.add_comm front.length 1, ← Nat.add_assoc, ← Nat.add_assoc] at this
      exact this

end Scan

end Difference

end SqlFacts
