import Mathlib.Data.List.AList

namespace std

/-- A map with one value for each key, traversed in the order of its entries.
    That order is unspecified, and no result depends on it. -/
abbrev UnorderedMap (κ α : Type) := AList fun _ : κ => α

namespace UnorderedMap

variable {κ α β : Type}

/-- Every value is replaced in place, as by a loop over references. -/
def map_values (f : α → β) (map : UnorderedMap κ α) : UnorderedMap κ β where
  entries := map.entries.map fun entry => ⟨entry.1, f entry.2⟩
  nodupKeys := by
    have hkeys : (map.entries.map fun entry => (⟨entry.1, f entry.2⟩ : Sigma fun _ : κ => β)).keys =
        map.entries.keys := by simp [List.keys, Function.comp_def]
    rw [List.NodupKeys, hkeys]
    exact map.nodupKeys

variable [DecidableEq κ]

/-- `map[key]`: the value at a key, made first if there is none. -/
def index (map : UnorderedMap κ α) (key : κ) (fresh : α) : α × UnorderedMap κ α :=
  match AList.lookup key map with
  | some value => (value, map)
  | none => (fresh, AList.insert key fresh map)

/-- The entries are what can be looked up. -/
theorem mem_entries {map : UnorderedMap κ α} {key : κ} {value : α} :
    (⟨key, value⟩ : Sigma fun _ : κ => α) ∈ map.entries ↔ AList.lookup key map = some value := by
  rw [← AList.mem_lookup_iff, Option.mem_def]

/-- A map of the values changes what is found, and not where. -/
@[simp]
theorem lookup_map_values (f : α → β) (map : UnorderedMap κ α) (key : κ) :
    AList.lookup key (map_values f map) = (AList.lookup key map).map f := by
  have hmem := fun value => @mem_entries κ β _ (map_values f map) key value
  have hmap : ∀ value, (⟨key, value⟩ : Sigma fun _ : κ => β) ∈ (map_values f map).entries ↔
      ∃ old, AList.lookup key map = some old ∧ f old = value := by
    intro value
    simp only [map_values, List.mem_map]
    constructor
    · rintro ⟨⟨other, old⟩, hold, heq⟩
      cases heq
      exact ⟨old, mem_entries.mp hold, rfl⟩
    · rintro ⟨old, hold, rfl⟩
      exact ⟨⟨key, old⟩, mem_entries.mpr hold, rfl⟩
  apply Option.ext
  intro value
  rw [← hmem value, hmap value, Option.map_eq_some_iff]

/-- The operator finds the value of a key, or the fresh one which it inserts. -/
@[simp]
theorem index_fst (map : UnorderedMap κ α) (key : κ) (fresh : α) :
    (index map key fresh).1 = (AList.lookup key map).getD fresh := by
  unfold index
  cases AList.lookup key map <;> rfl

/-- Reading a value at most makes it; it changes no value that exists. -/
theorem lookup_index (map : UnorderedMap κ α) (key other : κ) (fresh : α) :
    AList.lookup other (index map key fresh).2 =
      if other = key then some ((AList.lookup key map).getD fresh) else AList.lookup other map := by
  unfold index
  cases hlookup : AList.lookup key map with
  | some value =>
    by_cases hkey : other = key
    · subst hkey
      simp [hlookup]
    · simp [hkey]
  | none =>
    by_cases hkey : other = key
    · subst hkey
      simp
    · simp [hkey, AList.lookup_insert_ne hkey]

end UnorderedMap

end std
