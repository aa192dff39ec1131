import Mathlib.Data.List.Induction
import Mathlib.Data.List.Nodup
import Mathlib.Data.List.Perm.Subperm
import SqlFacts.OrderedMap

/-!
# Values and names of maps in insertion order

A map that is made up of a list of entries has its names in the order in which they are first given,
and each name has the value that it is given last. Maps that have the same entries in some order are
those that give every name the same value.
-/

namespace SqlFacts

universe u v

namespace OrderedMap

variable {α : Type u} {β : Type v}

/-! ### Maps of lists -/

private theorem keys_place (key : String) (value : α) (entries : List (String × α)) :
    (place key value entries).map Prod.fst =
      if key ∈ entries.map Prod.fst then entries.map Prod.fst
      else entries.map Prod.fst ++ [key] := by
  induction entries with
  | nil => simp [place]
  | cons entry rest ih =>
    obtain ⟨name, old⟩ := entry
    by_cases same : name = key
    · simp [place, same]
    · simp only [place, same, if_false, List.map_cons, ih, List.mem_cons, Ne.symm same, false_or]
      split
      · rfl
      · rfl

/-- A name that is given stays in its place, or comes last if it is new. -/
theorem keys_insert (m : OrderedMap α) (key : String) (value : α) :
    (m.insert key value).keys = if key ∈ m.keys then m.keys else m.keys ++ [key] :=
  keys_place key value m.entries

theorem ofList_concat (entries : List (String × α)) (entry : String × α) :
    ofList (entries ++ [entry]) = (ofList entries).insert entry.1 entry.2 := by
  simp only [ofList, List.foldl_append, List.foldl_cons, List.foldl_nil]

/-- Names stand in the order in which they are first given. -/
theorem keys_ofList (entries : List (String × α)) :
    (ofList entries).keys = (entries.map Prod.fst).eraseDups := by
  induction entries using List.reverseRecOn with
  | nil => rfl
  | append_singleton entries entry ih =>
    rw [ofList_concat, keys_insert, ih, List.map_append, List.eraseDups_append]
    by_cases h : entry.1 ∈ entries.map Prod.fst
    · simp [h, List.removeAll]
    · simp [h, List.removeAll, List.eraseDups_cons]

/-- A name has the value that it is given last. -/
theorem get?_ofList (entries : List (String × α)) (key : String) :
    (ofList entries).get? key = entries.reverse.lookup key := by
  induction entries using List.reverseRecOn with
  | nil => rfl
  | append_singleton entries entry ih =>
    rw [ofList_concat, get?_insert, ih, List.reverse_append, List.reverse_singleton,
      List.singleton_append, List.lookup_cons]
    by_cases h : key = entry.1
    · simp [h]
    · simp [h, beq_eq_false_iff_ne.mpr h]

@[simp] theorem entries_filterMap (m : OrderedMap α) (f : α → Option β) :
    (m.filterMap f).entries = m.entries.filterMap fun entry => (f entry.2).map (entry.1, ·) := rfl

/-- A name has the image of its value, if there is one. -/
theorem get?_filterMap (m : OrderedMap α) (f : α → Option β) (key : String) :
    (m.filterMap f).get? key = (m.get? key).bind f := by
  ext image
  rw [get?_eq_some_iff, Option.bind_eq_some_iff]
  constructor
  · intro h
    rw [entries_filterMap] at h
    obtain ⟨entry, hentry, hmap⟩ := List.mem_filterMap.mp h
    obtain ⟨found, hfound, hsame⟩ := Option.map_eq_some_iff.mp hmap
    cases hsame
    exact ⟨entry.2, get?_eq_some_iff.mpr hentry, hfound⟩
  · rintro ⟨value, hvalue, himage⟩
    rw [entries_filterMap]
    exact List.mem_filterMap.mpr ⟨(key, value), get?_eq_some_iff.mp hvalue, by rw [himage]; rfl⟩

/-! ### The same entries -/

theorem nodup_entries (m : OrderedMap α) : m.entries.Nodup := .of_map Prod.fst m.nodup_keys

section Same

variable [BEq α] [LawfulBEq α] {m n : OrderedMap α}

/-- Maps have the same entries if the one has those of the other in some order. -/
theorem sameEntries_iff_perm : m.sameEntries n = true ↔ m.entries.Perm n.entries := by
  rw [sameEntries, Bool.and_eq_true, beq_iff_eq, List.all_eq_true]
  constructor
  · rintro ⟨hlength, hvalues⟩
    have hsubset : m.entries ⊆ n.entries := by
      intro entry hentry
      exact get?_eq_some_iff.mp (beq_iff_eq.mp (hvalues entry hentry))
    exact (m.nodup_entries.subperm hsubset).perm_of_length_le (Nat.le_of_eq hlength.symm)
  · intro hperm
    refine ⟨hperm.length_eq, fun entry hentry => ?_⟩
    rw [beq_iff_eq, get?_eq_some_iff]
    exact hperm.subset hentry

/-- Maps have the same entries if they give every name the same value. -/
theorem sameEntries_iff : m.sameEntries n = true ↔ ∀ key, m.get? key = n.get? key := by
  rw [sameEntries_iff_perm, List.perm_ext_iff_of_nodup m.nodup_entries n.nodup_entries]
  constructor
  · intro h key
    ext value
    rw [get?_eq_some_iff, get?_eq_some_iff]
    exact h (key, value)
  · rintro h ⟨key, value⟩
    rw [← get?_eq_some_iff, ← get?_eq_some_iff, h]

end Same

end OrderedMap

end SqlFacts
