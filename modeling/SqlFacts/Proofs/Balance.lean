import Mathlib.Data.List.Infix

/-!
# Balanced runs

A level rises and falls along a list, but never below zero. A run is balanced if, read on its own
and without that bound, it ends where it begins and lies nowhere lower. The bound is not met inside
such a run, so it leaves every level as it was, whatever was opened or closed in front of it.
-/

namespace SqlFacts

universe u

variable {α : Type u} {change : α → Int}

/-- How far a run raises a level that has no bound, if each element changes it as given. -/
def rise (change : α → Int) : List α → Int
  | [] => 0
  | x :: run => change x + rise change run

/-- A run ends on the level on which it begins and lies nowhere lower. -/
structure Balanced (change : α → Int) (run : List α) : Prop where
  rise_eq : rise change run = 0
  rise_nonneg : ∀ part, part <+: run → 0 ≤ rise change part

@[simp] theorem rise_nil : rise change [] = 0 := rfl

@[simp] theorem rise_cons (x : α) (run : List α) :
    rise change (x :: run) = change x + rise change run := rfl

@[simp] theorem rise_append (front back : List α) :
    rise change (front ++ back) = rise change front + rise change back := by
  induction front with
  | nil => rw [List.nil_append, rise_nil, Int.zero_add]
  | cons x front ih => rw [List.cons_append, rise_cons, rise_cons, ih, Int.add_assoc]

/-- Whether a run is balanced can be computed. -/
instance (change : α → Int) (run : List α) : Decidable (Balanced change run) :=
  decidable_of_iff (rise change run = 0 ∧ ∀ part ∈ run.inits, 0 ≤ rise change part)
    ⟨fun ⟨hrise, hparts⟩ =>
        ⟨hrise, fun part hpart => hparts part ((List.mem_inits part run).mpr hpart)⟩,
      fun ⟨hrise, hparts⟩ =>
        ⟨hrise, fun part hpart => hparts part ((List.mem_inits part run).mp hpart)⟩⟩

/-- The beginning of a balanced run is balanced exactly if it ends where it begins. -/
theorem Balanced.prefix_iff {front run : List α} (h : Balanced change run)
    (hfront : front <+: run) : Balanced change front ↔ rise change front = 0 :=
  ⟨rise_eq, fun hzero => ⟨hzero, fun part hpart => h.rise_nonneg part (hpart.trans hfront)⟩⟩

/-! ### Levels with a bound -/

section Bounded

variable {step : Int → α → Int} {level : Int} {front run : List α}

-- What each step does to a level that is not below zero.
variable (hstep : ∀ level x, 0 ≤ level → step level x = max (level + change x) 0)
  (hlevel : 0 ≤ level)

include hstep hlevel

/-- A level that is bounded at each step is not negative behind a run. -/
theorem foldl_nonneg (run : List α) : 0 ≤ run.foldl step level := by
  induction run generalizing level with
  | nil => exact hlevel
  | cons x run ih =>
    rw [List.foldl_cons, hstep level x hlevel]
    exact ih (Int.le_max_right _ _)

/-- A run that meets the bound nowhere changes a level as if there were none. -/
theorem foldl_eq_add_rise (h : ∀ part, part <+: run → 0 ≤ level + rise change part) :
    run.foldl step level = level + rise change run := by
  induction run generalizing level with
  | nil => rw [List.foldl_nil, rise_nil, Int.add_zero]
  | cons x run ih =>
    have hfirst : 0 ≤ level + change x := by
      have hone := h [x] (List.prefix_append [x] run)
      rwa [rise_cons, rise_nil, Int.add_zero] at hone
    have hrest : ∀ part, part <+: run → 0 ≤ level + change x + rise change part := by
      intro part hpart
      have hlonger := h (x :: part) ((List.prefix_cons_inj x).mpr hpart)
      rwa [rise_cons, ← Int.add_assoc] at hlonger
    rw [List.foldl_cons, hstep level x hlevel, Int.max_eq_left hfirst, ih hfirst hrest, rise_cons,
      Int.add_assoc]

/-- The beginning of a balanced run changes a level as if there were no bound. -/
theorem Balanced.foldl_prefix (h : Balanced change run) (hfront : front <+: run) :
    front.foldl step level = level + rise change front :=
  foldl_eq_add_rise hstep hlevel fun part hpart =>
    Int.add_nonneg hlevel (h.rise_nonneg part (hpart.trans hfront))

/-- A balanced run leaves every level as it was. -/
theorem Balanced.foldl_eq (h : Balanced change run) : run.foldl step level = level := by
  rw [h.foldl_prefix hstep hlevel (List.prefix_refl run), h.rise_eq, Int.add_zero]

end Bounded

end SqlFacts
