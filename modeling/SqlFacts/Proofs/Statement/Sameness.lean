import Mathlib.Data.Finset.Card
import SqlFacts.Proofs.OrderedMap
import SqlFacts.Statement.Descriptor

/-!
# Sameness of descriptors

A descriptor keeps the order in which its positions and settings were given, but whether two
descriptors are the same does not depend on it. The main statement says which fields make the same
descriptor, that the fields of a descriptor make it again, and that the different descriptors of a
list are counted by their classes, even if only those with equal hashes are compared.
-/

namespace SqlFacts

/-! ### Named values -/

section Named

variable {α β : Type} {value : α → Option β}

/-- What entries make the value of a name: the value of its last entry, if that is present. -/
def lastValue (value : α → Option β) (entries : List (Option String × α)) (name : String) :
    Option β :=
  (entries.reverse.lookup (some name)).bind value

/-- A name is looked up among the named entries as among all of them. -/
theorem lookup_named (entries : List (Option String × α)) (name : String) :
    (entries.filterMap fun entry => entry.1.map (·, entry.2)).lookup name =
      entries.lookup (some name) := by
  induction entries with
  | nil => rfl
  | cons entry entries ih =>
    obtain ⟨key, given⟩ := entry
    cases key with
    | none => simpa [List.lookup_cons] using ih
    | some key => simp [List.lookup_cons, ih]

theorem get?_presentEntries (entries : List (Option String × α)) (name : String) :
    (Descriptor.presentEntries value entries).get? name = lastValue value entries name := by
  rw [Descriptor.presentEntries, OrderedMap.get?_filterMap, OrderedMap.get?_ofList,
    ← List.filterMap_reverse, lookup_named, lastValue]

/-- The entries of a map make it again if its values are kept as they are. -/
theorem presentEntries_entries (given : β → α) (h : ∀ b, value (given b) = some b)
    (m : OrderedMap β) :
    Descriptor.presentEntries value (m.entries.map fun entry => (some entry.1, given entry.2)) =
      m := by
  have hnamed : (m.entries.map fun entry => (some entry.1, given entry.2)).filterMap
      (fun entry => entry.1.map (·, entry.2)) =
        m.entries.map fun entry => (entry.1, given entry.2) := by
    rw [List.filterMap_map, ← List.filterMap_eq_map]
    rfl
  have hnodup : ((m.entries.map fun entry => (entry.1, given entry.2)).map Prod.fst).Nodup := by
    rw [List.map_map]
    exact m.nodup_keys
  apply OrderedMap.ext
  rw [Descriptor.presentEntries, OrderedMap.entries_filterMap, hnamed,
    OrderedMap.entries_ofList hnodup]
  simp [List.filterMap_map, h]

end Named

/-! ### Fields that make the same descriptor -/

/-- Two sets of fields say the same: the maps are equal name by name, and the other fields are equal
once their defaults stand in. -/
@[mk_iff]
structure DescriptorFields.Agree (a b : DescriptorFields) : Prop where
  sql : a.sql = b.sql
  kind : a.kind.getD .unknown = b.kind.getD .unknown
  cluster : a.cluster = b.cluster
  database : a.database = b.database
  table : Descriptor.tableOrDefault a.table = Descriptor.tableOrDefault b.table
  input : a.input = b.input
  format : a.format = b.format
  outfile : a.outfile = b.outfile
  parameters : a.parameters = b.parameters
  positions : ∀ name, lastValue id a.positions name = lastValue id b.positions name
  settings : ∀ name, lastValue SettingValue.text? a.settings name =
    lastValue SettingValue.text? b.settings name

/-- The fields of a descriptor that its hash is taken of, the maps as finite sets. -/
structure HashedFields where
  sql : String
  kind : Kind
  cluster : Option String
  database : Option String
  table : String
  input : Option String
  format : Option String
  outfile : Option String
  parameters : List Int
  positions : Finset (String × Int)
  settings : Finset (String × String)
  deriving DecidableEq

namespace Descriptor

/-- What the hash of a descriptor is taken of. -/
def hashed (d : Descriptor) : HashedFields :=
  ⟨d.sql, d.kind, d.cluster, d.database, d.table, d.input, d.format, d.outfile, d.parameters,
    d.positions.entries.toFinset, d.settings.entries.toFinset⟩

/-- Two descriptors are the same exactly if all that their hashes are taken of is. -/
theorem same_iff_hashed {d e : Descriptor} : d.same e = true ↔ d.hashed = e.hashed := by
  have hsets {α : Type} [DecidableEq α] (m n : OrderedMap α) :
      m.sameEntries n = true ↔ m.entries.toFinset = n.entries.toFinset := by
    rw [OrderedMap.sameEntries_iff_perm]
    exact ⟨List.toFinset_eq_of_perm _ _,
      List.perm_of_nodup_nodup_toFinset_eq m.nodup_entries n.nodup_entries⟩
  simp only [same, Bool.and_eq_true, beq_iff_eq, and_assoc, hashed, HashedFields.mk.injEq, hsets]

/-- Fields make the same descriptor exactly if they say the same. -/
theorem same_ofFields_iff {a b : DescriptorFields} :
    (ofFields a).same (ofFields b) = true ↔ a.Agree b := by
  simp only [same, Bool.and_eq_true, beq_iff_eq, and_assoc, OrderedMap.sameEntries_iff, ofFields,
    get?_presentEntries, DescriptorFields.agree_iff]

/-- A name whose last value is missing drops out, and a value counts by its text. -/
example :
    let fields : DescriptorFields :=
      { sql := "", settings := [(some "a", .integer 1), (some "b", .bool true),
        (some "c", .text "2"), (none, .null), (some "a", .null)] }
    let others : DescriptorFields :=
      { sql := "", settings := [(some "c", .integer 2), (some "b", .text "True")] }
    (ofFields fields).same (ofFields others) = true := by
  decide +kernel

/-- A setting drops out if it is not given, and if its last value is absent. -/
theorem get?_settings_ofFields_eq_none_iff {fields : DescriptorFields} {name : String} :
    (ofFields fields).settings.get? name = none ↔
      (fields.settings.reverse.lookup (some name)).getD .null = .null := by
  rw [ofFields, get?_presentEntries, lastValue]
  cases fields.settings.reverse.lookup (some name) with
  | none => simp
  | some value => simp [SettingValue.text?_eq_none_iff]

theorem tableOrDefault_idem (table : Option String) :
    tableOrDefault (some (tableOrDefault table)) = tableOrDefault table := by
  cases table with
  | none => rfl
  | some table => by_cases h : table = "" <;> simp [tableOrDefault_some, h]

/-- A descriptor whose table needs no default is made again by its own fields, the order of its
maps included. -/
theorem ofFields_toFields {d : Descriptor} (h : tableOrDefault (some d.table) = d.table) :
    ofFields d.toFields = d := by
  have hpositions : presentEntries id d.toFields.positions = d.positions :=
    presentEntries_entries some (fun _ => rfl) d.positions
  have hsettings : presentEntries SettingValue.text? d.toFields.settings = d.settings :=
    presentEntries_entries SettingValue.text SettingValue.text?_text d.settings
  rw [ofFields, hpositions, hsettings]
  cases d
  simp only [toFields, Option.getD_some]
  rw [h]

/-! ### Classes of descriptors -/

/-- Sameness is an equivalence of descriptors. -/
instance sameness : Setoid Descriptor where
  r d e := d.same e = true
  iseqv := {
    refl := fun _ => same_iff_hashed.mpr rfl
    symm := fun h => same_iff_hashed.mpr (same_iff_hashed.mp h).symm
    trans := fun h h' =>
      same_iff_hashed.mpr ((same_iff_hashed.mp h).trans (same_iff_hashed.mp h')) }

instance (d e : Descriptor) : Decidable (d ≈ e) := inferInstanceAs (Decidable (d.same e = true))

/-- The classes of the descriptors in a list. -/
def classes (ds : List Descriptor) : Finset (Quotient sameness) :=
  (ds.map (Quotient.mk sameness)).toFinset

theorem countDistinct_eq_card (ds : List Descriptor) : countDistinct ds = (classes ds).card := by
  induction ds with
  | nil => rfl
  | cons d ds ih =>
    have hmem : Quotient.mk sameness d ∈ classes ds ↔ ds.any d.same = true := by
      rw [classes, List.mem_toFinset, List.mem_map, List.any_eq_true]
      exact exists_congr fun e => and_congr_right fun _ => eq_comm.trans Quotient.eq
    have hclasses : classes (d :: ds) = insert (Quotient.mk sameness d) (classes ds) :=
      List.toFinset_cons
    rw [countDistinct, hclasses, ih]
    by_cases h : ds.any d.same = true
    · rw [if_pos h, Finset.insert_eq_of_mem (hmem.mpr h)]
    · rw [if_neg h, Finset.card_insert_of_notMem (mt hmem.mp h)]

/-- The number of different descriptors in a list, if only those with equal hashes are compared. -/
def countHashed (hash : HashedFields → Nat) : List Descriptor → Nat
  | [] => 0
  | d :: ds =>
    if ds.any fun e => hash d.hashed == hash e.hashed && d.same e then countHashed hash ds
    else countHashed hash ds + 1

/-- The hash that is compared first does not change the number of different descriptors. -/
theorem countHashed_eq (hash : HashedFields → Nat) (ds : List Descriptor) :
    countHashed hash ds = countDistinct ds := by
  have hsame (d e : Descriptor) : (hash d.hashed == hash e.hashed && d.same e) = d.same e := by
    cases h : d.same e with
    | false => rw [Bool.and_false]
    | true => rw [same_iff_hashed.mp h, beq_self_eq_true, Bool.true_and]
  induction ds with
  | nil => rfl
  | cons d ds ih => simp only [countHashed, countDistinct, hsame, ih]

/-- Every descriptor that is built from fields is built again, order included, from its own fields.
Two sets of fields make the same descriptor exactly if they say the same: in their maps each name
has the same last value, or none, and the other fields are equal behind their defaults. This is an
equivalence, and the different descriptors of a list are counted by its classes, whatever hash is
compared first. -/
theorem sameness_of_fields :
    (∀ fields : DescriptorFields, ofFields (ofFields fields).toFields = ofFields fields) ∧
      (∀ a b : DescriptorFields, (ofFields a).same (ofFields b) = true ↔ a.Agree b) ∧
      Equivalence (fun d e : Descriptor => d.same e = true) ∧
      ∀ ds : List Descriptor, countDistinct ds = (classes ds).card ∧
        ∀ hash, countHashed hash ds = (classes ds).card := by
  refine ⟨fun fields => ofFields_toFields (tableOrDefault_idem fields.table),
    fun a b => same_ofFields_iff, sameness.iseqv, fun ds => ?_⟩
  have hcount := countDistinct_eq_card ds
  exact ⟨hcount, fun hash => (countHashed_eq hash ds).trans hcount⟩

end Descriptor

end SqlFacts
