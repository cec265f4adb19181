import Krepe.Hdf5.Call

namespace hdf5

/-- The file with one more attribute, when the name is free. -/
def File.add_attr (file : File) (loc : Path) (name : String) (value : AttrValue) : Option File :=
  match file.group? loc with
  | none => none
  | some group =>
    if name = "" ∨ (group.attrs.lookup name).isSome then none
    else some (file.set loc (.group { group with attrs := group.attrs ++ [(name, value)] }))

/-- Attributes added to an object one after the other, where one of an existing name fails. -/
def File.add_attrs (file : File) (loc : Path) : List (String × AttrValue) → Option File
  | [] => some file
  | attr :: rest => (file.add_attr loc attr.1 attr.2).bind fun file => file.add_attrs loc rest

theorem File.set_set (file : File) (path : Path) (first second : Object) :
    (file.set path first).set path second = file.set path second := Function.update_idem _ _ _

theorem File.add_attr_eq_some {file final : File} {loc : Path} {name : String} {value : AttrValue} :
    file.add_attr loc name value = some final ↔
      ∃ group, file loc = some (.group group) ∧ name ≠ "" ∧ group.attrs.lookup name = none ∧
        final = file.set loc (.group { group with attrs := group.attrs ++ [(name, value)] }) := by
  unfold File.add_attr
  cases hgroup : file.group? loc with
  | none =>
    simp only [reduceCtorEq, false_iff]
    intro hexists
    obtain ⟨group, hloc, _⟩ := hexists
    rw [File.group?_eq_some.mpr hloc] at hgroup
    cases hgroup
  | some group =>
    have hloc := File.group?_eq_some.mp hgroup
    simp only [hloc, Option.some.injEq, Object.group.injEq, exists_eq_left', Option.ite_none_left_eq_some,
      not_or, Option.not_isSome_iff_eq_none, ne_eq, and_assoc, eq_comm (a := final)]

/-- Adding attributes appends them, all under new names. -/
theorem File.add_attrs_eq_some {file final : File} {loc : Path} {group : Group}
    {attrs : List (String × AttrValue)} (hgroup : file loc = some (.group group)) :
    file.add_attrs loc attrs = some final ↔
      (∀ attr ∈ attrs, attr.1 ≠ "" ∧ group.attrs.lookup attr.1 = none) ∧ (attrs.map Prod.fst).Nodup ∧
        final = file.set loc (.group { group with attrs := group.attrs ++ attrs }) := by
  induction attrs generalizing file group with
  | nil =>
    have hsame : file.set loc (.group { group with attrs := group.attrs ++ [] }) = file := by
      rw [List.append_nil]
      exact (congrArg (Function.update file loc) hgroup.symm).trans (Function.update_eq_self _ _)
    rw [hsame]
    refine ⟨fun hadded => ⟨by simp, List.nodup_nil, (Option.some.inj hadded).symm⟩, fun hfree => ?_⟩
    rw [hfree.2.2]
    rfl
  | cons attr rest ih =>
    have hlookup : ∀ name, (group.attrs ++ [(attr.1, attr.2)]).lookup name = none ↔
        group.attrs.lookup name = none ∧ name ≠ attr.1 := by
      intro name
      rw [List.lookup_append, Option.or_eq_none_iff]
      simp [List.lookup_eq_none_iff]
    rw [File.add_attrs, Option.bind_eq_some_iff]
    refine ⟨fun hadded => ?_, fun hfree => ?_⟩
    · obtain ⟨next, hnext, hrest⟩ := hadded
      obtain ⟨found, hfound, hname, hnew, rfl⟩ := File.add_attr_eq_some.mp hnext
      rw [hgroup] at hfound
      cases hfound
      obtain ⟨hall, hnodup, rfl⟩ := (ih (File.set_self _ _ _)).mp hrest
      refine ⟨fun other hother => ?_, ?_, ?_⟩
      · cases List.mem_cons.mp hother with
        | inl hhead => exact hhead ▸ ⟨hname, hnew⟩
        | inr htail => exact ⟨(hall other htail).1, ((hlookup other.1).mp (hall other htail).2).1⟩
      · rw [List.map_cons, List.nodup_cons]
        refine ⟨fun hmem => ?_, hnodup⟩
        obtain ⟨other, hother, heq⟩ := List.mem_map.mp hmem
        exact ((hlookup other.1).mp (hall other hother).2).2 heq
      · rw [File.set_set]
        simp
    · obtain ⟨hall, hnodup, rfl⟩ := hfree
      obtain ⟨hname, hnew⟩ := hall attr List.mem_cons_self
      rw [List.map_cons, List.nodup_cons] at hnodup
      refine ⟨_, File.add_attr_eq_some.mpr ⟨group, hgroup, hname, hnew, rfl⟩, ?_⟩
      refine (ih (File.set_self _ _ _)).mpr ⟨fun other hother => ?_, hnodup.2, ?_⟩
      · obtain ⟨hotherName, hotherNew⟩ := hall other (List.mem_cons_of_mem _ hother)
        refine ⟨hotherName, (hlookup other.1).mpr ⟨hotherNew, fun heq => hnodup.1 ?_⟩⟩
        exact heq ▸ List.mem_map_of_mem hother
      · rw [File.set_set]
        simp

theorem path_ne_child (loc : Path) (name : String) : loc ++ [name] ≠ loc := by simp

/-- The file with more datasets in a group, when their names are free. -/
def File.add_datasets (file : File) (loc : Path) : List (String × Dataset) → Option File
  | [] => some file
  | dataset :: rest =>
    (file.link loc dataset.1 (.dataset dataset.2)).bind fun file => file.add_datasets loc rest

/-- Datasets under new names are all added, and nothing else but the links of
    their group changes. -/
theorem File.add_datasets_of_free {file : File} {loc : Path} {group : Group}
    {datasets : List (String × Dataset)} (hgroup : file loc = some (.group group))
    (hfree : ∀ dataset ∈ datasets, dataset.1 ≠ "" ∧ dataset.1 ∉ group.links)
    (hnodup : (datasets.map Prod.fst).Nodup) :
    ∃ final, file.add_datasets loc datasets = some final ∧
      final loc = some (.group { group with links := group.links ++ datasets.map Prod.fst }) ∧
      (∀ dataset ∈ datasets, final (loc ++ [dataset.1]) = some (.dataset dataset.2)) ∧
      ∀ path, path ≠ loc → (∀ dataset ∈ datasets, path ≠ loc ++ [dataset.1]) →
        final path = file path := by
  induction datasets generalizing file group with
  | nil => exact ⟨file, rfl, by simpa using hgroup, by simp, fun _ _ _ => rfl⟩
  | cons dataset rest ih =>
    obtain ⟨hname, hlinks⟩ := hfree dataset List.mem_cons_self
    rw [List.map_cons, List.nodup_cons] at hnodup
    obtain ⟨next, hnext⟩ : ∃ next, (file.set loc (.group
        { group with links := group.links ++ [dataset.1] })).set (loc ++ [dataset.1])
          (.dataset dataset.2) = next := ⟨_, rfl⟩
    have hlink : file.link loc dataset.1 (.dataset dataset.2) = some next :=
      File.link_eq_some.mpr ⟨group, hgroup, hname, hlinks, hnext.symm⟩
    have hnextLoc : next loc = some (.group { group with links := group.links ++ [dataset.1] }) := by
      rw [← hnext, File.set_of_ne _ _ (path_ne_child loc dataset.1).symm, File.set_self]
    have hnextDataset : next (loc ++ [dataset.1]) = some (.dataset dataset.2) := by
      rw [← hnext, File.set_self]
    obtain ⟨final, hadded, hfinalLoc, hfinalDatasets, hframe⟩ := ih hnextLoc
      (fun other hother => ⟨(hfree other (List.mem_cons_of_mem _ hother)).1, fun hmem => by
        rcases List.mem_append.mp hmem with hold | hnew
        · exact (hfree other (List.mem_cons_of_mem _ hother)).2 hold
        · exact hnodup.1 (List.mem_singleton.mp hnew ▸ List.mem_map_of_mem hother)⟩) hnodup.2
    have hdistinct : ∀ other ∈ rest, loc ++ [dataset.1] ≠ loc ++ [other.1] := by
      intro other hother heq
      have hsame : dataset.1 = other.1 := by simpa using heq
      exact hnodup.1 (hsame ▸ List.mem_map_of_mem hother)
    refine ⟨final, ?_, ?_, fun other hother => ?_, fun path hloc hpath => ?_⟩
    · rw [File.add_datasets, hlink, Option.bind_some, hadded]
    · rw [hfinalLoc]
      simp
    · cases List.mem_cons.mp hother with
      | inl hhead =>
        rw [hhead, hframe _ (path_ne_child _ _) hdistinct, hnextDataset]
      | inr htail => exact hfinalDatasets other htail
    · rw [hframe path hloc fun other hother => hpath other (List.mem_cons_of_mem _ hother), ← hnext,
        File.set_of_ne _ _ (hpath dataset List.mem_cons_self), File.set_of_ne _ _ hloc]

/-- An attribute with a new name is created and written. -/
theorem exec_attribute (loc : Path) (name : String) (type : AttrType) (value : AttrValue)
    (rest : List Call) :
    exec (.H5Acreate2 loc name type :: .H5Awrite loc name value :: rest) =
      fun file => (file.add_attr loc name value).bind (exec rest) := by
  funext file
  unfold File.add_attr
  cases hgroup : file.group? loc with
  | none => simp [exec_cons, Call.apply, hgroup]
  | some group =>
    by_cases hfree : name = "" ∨ (group.attrs.lookup name).isSome
    · simp only [exec_cons, Call.apply, hgroup, hfree, if_true, Option.bind_none]
    · have hnone := Option.not_isSome_iff_eq_none.mp (not_or.mp hfree).2
      have hkeep : ∀ attr ∈ group.attrs, (if attr.1 = name then (name, value) else attr) = attr := by
        intro attr hattr
        have hother := List.lookup_eq_none_iff.mp hnone attr hattr
        rw [if_neg fun heq => by simp [heq] at hother]
      have hwritten : (group.attrs ++ [(name, type.fill)]).map
          (fun attr => if attr.1 = name then (name, value) else attr) =
          group.attrs ++ [(name, value)] := by
        rw [List.map_append, List.map_congr_left hkeep]
        simp
      have hadded : ((group.attrs ++ [(name, type.fill)]).lookup name).isSome = true := by
        simp [List.lookup_append, hnone]
      simp only [exec_cons, Call.apply, hgroup, hfree, if_false, Option.bind_some,
        File.group?_eq_some.mpr (File.set_self _ _ _), hadded, if_true, File.set_set, hwritten]

/-- A dataset with a new name is created and written. -/
theorem exec_dataset (loc : Path) (name : String) (type : DataType) (dims : List Nat) (data : Elements)
    (rest : List Call) :
    exec (.H5Dcreate2 loc name type dims :: .H5Dwrite loc name data :: rest) =
      fun file => (file.link loc name (.dataset ⟨type, dims, some data⟩)).bind (exec rest) := by
  funext file
  simp only [exec_cons, Call.apply, File.link]
  cases file.group? loc with
  | none => rfl
  | some group =>
    by_cases hfree : name = "" ∨ name ∈ group.links
    · simp only [hfree, if_true, Option.bind_none]
    · simp only [hfree, if_false, Option.bind_some, exec_cons, Call.apply,
        File.dataset?_eq_some.mpr (File.set_self _ _ _), Option.map_some, File.set_set]

/-- An object under a new name is linked to its group. -/
theorem File.link_of_free {file : File} {loc : Path} {name : String} {group : Group}
    (hgroup : file loc = some (.group group)) (hname : name ≠ "") (hfree : name ∉ group.links)
    (object : Object) :
    ∃ next, file.link loc name object = some next ∧ next (loc ++ [name]) = some object := by
  have hlink := File.link_eq_some.mpr ⟨group, hgroup, hname, hfree, @rfl _
    ((file.set loc (.group { group with links := group.links ++ [name] })).set (loc ++ [name]) object)⟩
  exact ⟨_, hlink, File.set_self _ _ _⟩

/-- New attributes under different names are added to a group. -/
theorem File.add_attrs_of_new {file : File} {loc : Path} {group : Group}
    (hgroup : file loc = some (.group group)) {attrs : List (String × AttrValue)}
    (hnew : ∀ attr ∈ attrs, attr.1 ≠ "" ∧ group.attrs.lookup attr.1 = none)
    (hnodup : (attrs.map Prod.fst).Nodup) :
    ∃ next, file.add_attrs loc attrs = some next ∧
      next loc = some (.group { group with attrs := group.attrs ++ attrs }) :=
  ⟨_, (File.add_attrs_eq_some hgroup).mpr ⟨hnew, hnodup, rfl⟩, File.set_self _ _ _⟩

end hdf5
