/-!
# Maps in insertion order

A finite map from names to values that remembers the order in which its names were first given.
Giving a name again replaces its value and keeps its place. The view is the list of entries; no
name occurs in it twice.
-/

namespace SqlFacts

universe u v

/-- A finite map from names to values, in order of first insertion. -/
structure OrderedMap (α : Type u) where
  entries : List (String × α)
  nodup_keys : (entries.map Prod.fst).Nodup

namespace OrderedMap

variable {α : Type u} {β : Type v}

/-- The map without entries. -/
def empty : OrderedMap α := ⟨[], List.nodup_nil⟩

/-- There is always the map without entries. -/
instance : Inhabited (OrderedMap α) := ⟨empty⟩

/-- The names, in order of first insertion. -/
def keys (m : OrderedMap α) : List String := m.entries.map Prod.fst

/-- The value of a name. -/
def get? (m : OrderedMap α) (key : String) : Option α := m.entries.lookup key

/-- Tests whether a name has a value. -/
def contains (m : OrderedMap α) (key : String) : Bool := (m.get? key).isSome

/-- Tests whether there are no entries. -/
def isEmpty (m : OrderedMap α) : Bool := m.entries.isEmpty

/-- Puts a value into a list of entries, in the place of its name if it has one. -/
def place (key : String) (value : α) : List (String × α) → List (String × α)
  | [] => [(key, value)]
  | (k, v) :: rest => if k = key then (k, value) :: rest else (k, v) :: place key value rest

/-- Placing a value adds its name to the names and loses none. -/
theorem mem_keys_place {key k : String} {value : α} {entries : List (String × α)} :
    k ∈ (place key value entries).map Prod.fst ↔ k = key ∨ k ∈ entries.map Prod.fst := by
  induction entries with
  | nil => simp [place]
  | cons entry rest ih =>
    obtain ⟨name, old⟩ := entry
    by_cases same : name = key
    · simp only [place, same, if_pos, List.map_cons, List.mem_cons]
      grind
    · simp only [place, same, if_false, List.map_cons, List.mem_cons, ih]
      grind

/-- Placing a value keeps names distinct. -/
theorem nodup_keys_place {key : String} {value : α} {entries : List (String × α)}
    (h : (entries.map Prod.fst).Nodup) : ((place key value entries).map Prod.fst).Nodup := by
  induction entries with
  | nil => simp [place]
  | cons entry rest ih =>
    obtain ⟨name, old⟩ := entry
    simp only [List.map_cons, List.nodup_cons] at h
    by_cases same : name = key
    · subst same
      simpa only [place, if_pos, List.map_cons, List.nodup_cons] using h
    · simp only [place, same, if_false, List.map_cons, List.nodup_cons, mem_keys_place]
      exact ⟨by grind, ih h.2⟩

/-- Gives a name a value: in its place if it has one, at the end otherwise. -/
def insert (m : OrderedMap α) (key : String) (value : α) : OrderedMap α :=
  ⟨place key value m.entries, nodup_keys_place m.nodup_keys⟩

/-- The map that results from giving names their values one after the other. -/
def ofList (entries : List (String × α)) : OrderedMap α :=
  entries.foldl (fun m entry => m.insert entry.1 entry.2) empty

/-- Dropping and replacing values keeps names distinct. -/
theorem nodup_keys_filterMap {f : α → Option β} {entries : List (String × α)}
    (h : (entries.map Prod.fst).Nodup) :
    ((entries.filterMap fun entry => (f entry.2).map (entry.1, ·)).map Prod.fst).Nodup := by
  have sub : ((entries.filterMap fun entry => (f entry.2).map (entry.1, ·)).map Prod.fst).Sublist
      (entries.map Prod.fst) := by
    clear h
    induction entries with
    | nil => simp
    | cons entry rest ih =>
      cases hf : f entry.2 with
      | none => simpa [List.filterMap_cons, hf] using ih.cons _
      | some b => simpa [List.filterMap_cons, hf] using ih
  exact sub.nodup h

/-- Keeps the entries whose values have an image, with that image. -/
def filterMap (f : α → Option β) (m : OrderedMap α) : OrderedMap β :=
  ⟨m.entries.filterMap fun entry => (f entry.2).map (entry.1, ·), nodup_keys_filterMap m.nodup_keys⟩

/-- The map with every value replaced by its image. -/
def map (f : α → β) (m : OrderedMap α) : OrderedMap β := m.filterMap (some ∘ f)

/-- The map without a name. -/
def erase (m : OrderedMap α) (key : String) : OrderedMap α :=
  ⟨m.entries.filter (·.1 != key), (List.filter_sublist.map Prod.fst).nodup m.nodup_keys⟩

/-- The entries whose names and values pass a test. -/
def filter (test : String → α → Bool) (m : OrderedMap α) : OrderedMap α :=
  ⟨m.entries.filter fun entry => test entry.1 entry.2,
    (List.filter_sublist.map Prod.fst).nodup m.nodup_keys⟩

/-- Tests whether two maps have the same entries, in whatever order. -/
def sameEntries [BEq α] (m n : OrderedMap α) : Bool :=
  m.entries.length == n.entries.length && m.entries.all fun entry => n.get? entry.1 == some entry.2

@[simp] theorem entries_empty : (empty : OrderedMap α).entries = [] := rfl

@[simp] theorem entries_insert (m : OrderedMap α) (key : String) (value : α) :
    (m.insert key value).entries = place key value m.entries := rfl

/-- Replacing values by their images keeps names and order. -/
@[simp] theorem entries_map (m : OrderedMap α) (f : α → β) :
    (m.map f).entries = m.entries.map fun entry => (entry.1, f entry.2) :=
  congrFun List.filterMap_eq_map' m.entries

/-- Placing a value of a name again replaces it. -/
theorem place_place (key : String) (old value : α) (entries : List (String × α)) :
    place key value (place key old entries) = place key value entries := by
  induction entries with
  | nil => simp [place]
  | cons entry rest ih =>
    obtain ⟨name, earlier⟩ := entry
    by_cases same : name = key
    · simp [place, same]
    · simp [place, same, ih]

/-- A value given again replaces the earlier one. -/
theorem insert_insert (m : OrderedMap α) (key : String) (old value : α) :
    (m.insert key old).insert key value = m.insert key value := by
  simp only [insert, place_place]

/-- A name that was just given has the value it was given, and other names keep theirs. -/
theorem get?_insert (m : OrderedMap α) (key k : String) (value : α) :
    (m.insert key value).get? k = if k = key then some value else m.get? k := by
  have differ {a b : String} (h : a ≠ b) : (a == b) = false := beq_eq_false_iff_ne.mpr h
  simp only [get?, entries_insert]
  induction m.entries with
  | nil => by_cases h : k = key <;> simp [place, List.lookup_cons, h, differ]
  | cons entry rest ih =>
    obtain ⟨name, old⟩ := entry
    by_cases same : name = key
    · subst same
      by_cases h : k = name <;> simp [place, List.lookup_cons, h, differ]
    · simp only [place, same, if_false, List.lookup_cons]
      by_cases h : k = name
      · subst h; simp [same]
      · simp only [differ h, ih]

/-- Placing the value of a new name puts it at the end. -/
theorem place_of_not_mem {key : String} {value : α} {entries : List (String × α)}
    (h : key ∉ entries.map Prod.fst) : place key value entries = entries ++ [(key, value)] := by
  induction entries with
  | nil => rfl
  | cons entry rest ih =>
    obtain ⟨name, old⟩ := entry
    simp only [List.map_cons, List.mem_cons, not_or] at h
    rw [place, if_neg (Ne.symm h.1), ih h.2, List.cons_append]

private theorem entries_foldl_insert {m : OrderedMap α} {entries : List (String × α)}
    (h : (m.keys ++ entries.map Prod.fst).Nodup) :
    (entries.foldl (fun m entry => m.insert entry.1 entry.2) m).entries = m.entries ++ entries := by
  induction entries generalizing m with
  | nil => rw [List.foldl_nil, List.append_nil]
  | cons entry rest ih =>
    have hnew : entry.1 ∉ m.keys := by
      intro hmem
      rw [List.nodup_append] at h
      exact h.2.2 _ hmem _ List.mem_cons_self rfl
    have hplace : place entry.1 entry.2 m.entries = _ := place_of_not_mem hnew
    rw [List.foldl_cons, ih, entries_insert, hplace, List.append_assoc]
    · rfl
    · rw [keys, entries_insert, hplace, List.map_append, List.append_assoc]
      exact h

/-- A list of entries without a name twice makes up the entries of its map. -/
theorem entries_ofList {entries : List (String × α)} (h : (entries.map Prod.fst).Nodup) :
    (ofList entries).entries = entries := entries_foldl_insert h

/-- Lists of entries without a name twice make up the same map only if they are the same. -/
theorem ofList_inj {entries others : List (String × α)} (h : (entries.map Prod.fst).Nodup)
    (h' : (others.map Prod.fst).Nodup) : ofList entries = ofList others ↔ entries = others := by
  refine ⟨fun heq => ?_, congrArg ofList⟩
  rw [← entries_ofList h, heq, entries_ofList h']

private theorem lookup_eq_some_iff_mem {key : String} {value : α} {entries : List (String × α)}
    (h : (entries.map Prod.fst).Nodup) :
    entries.lookup key = some value ↔ (key, value) ∈ entries := by
  induction entries with
  | nil => simp
  | cons entry rest ih =>
    obtain ⟨name, old⟩ := entry
    rw [List.map_cons, List.nodup_cons] at h
    rw [List.lookup_cons, List.mem_cons]
    by_cases same : key = name
    · subst same
      have hrest : (key, value) ∉ rest := fun hmem =>
        h.1 (List.mem_map.mpr ⟨_, hmem, rfl⟩)
      simp [hrest, eq_comm]
    · simp [same, beq_eq_false_iff_ne.mpr same, ih h.2]

/-- A name has a value exactly if they are an entry. -/
theorem get?_eq_some_iff {m : OrderedMap α} {key : String} {value : α} :
    m.get? key = some value ↔ (key, value) ∈ m.entries := lookup_eq_some_iff_mem m.nodup_keys

@[simp] theorem get?_empty (key : String) : (empty : OrderedMap α).get? key = none := rfl

/-- A name keeps its value if both pass the test. -/
theorem get?_filter (m : OrderedMap α) (test : String → α → Bool) (key : String) :
    (m.filter test).get? key = (m.get? key).filter (test key) := by
  apply Option.ext
  intro value
  rw [Option.filter_eq_some_iff, get?_eq_some_iff, get?_eq_some_iff]
  exact List.mem_filter

/-- A name that is erased has no value any more, and other names keep theirs. -/
theorem get?_erase (m : OrderedMap α) (key k : String) :
    (m.erase key).get? k = if k = key then none else m.get? k := by
  have herase : m.erase key = m.filter fun name _ => name != key := rfl
  rw [herase, get?_filter]
  by_cases same : k = key
  · simp [same]
  · cases m.get? k with
    | none => simp
    | some value => simp [same]

/-- Two maps with the same list of entries are the same. -/
theorem ext {m n : OrderedMap α} (h : m.entries = n.entries) : m = n := by
  cases m; cases n; congr

/-- Entries that passed a test pass it again. -/
theorem filter_filter_self (m : OrderedMap α) (test : String → α → Bool) :
    (m.filter test).filter test = m.filter test := by
  apply ext
  simp [filter]

/-- A map is empty if no name has a value. -/
theorem isEmpty_iff {m : OrderedMap α} : m.isEmpty = true ↔ ∀ key, m.get? key = none := by
  rw [isEmpty, List.isEmpty_iff, List.eq_nil_iff_forall_not_mem]
  constructor
  · intro h key
    rw [Option.eq_none_iff_forall_ne_some]
    exact fun value hvalue => h _ (get?_eq_some_iff.mp hvalue)
  · rintro h ⟨key, value⟩ hmem
    have hvalue := (h key).symm.trans (get?_eq_some_iff.mpr hmem)
    cases hvalue

/-- Maps are compared by their entries, order included. -/
instance [DecidableEq α] : DecidableEq (OrderedMap α) := fun m n =>
  decidable_of_iff (m.entries = n.entries) ⟨ext, fun h => h ▸ rfl⟩

end OrderedMap

end SqlFacts
