import Krepe.Hdf5.Call

namespace hdf5

/-- A part of a file which each call changes without a look at the rest of the
    file, and only if the call is relevant. -/
structure Observation (V : Type) where
  read : File → V
  relevant : Call → Bool
  effect : V → Call → V
  of_apply : ∀ {call : Call} {file next : File}, call.apply file = some next →
    read next = if relevant call then effect (read file) call else read file

variable {V : Type} (observation : Observation V)

/-- What is observed after some calls depends on the relevant ones. -/
theorem Observation.of_exec {calls : List Call} {file final : File}
    (hexec : exec calls file = some final) :
    observation.read final =
      (calls.filter observation.relevant).foldl observation.effect (observation.read file) := by
  induction calls generalizing file with
  | nil =>
    cases hexec
    rfl
  | cons call rest ih =>
    obtain ⟨next, hcall, hrest⟩ := Option.bind_eq_some_iff.mp hexec
    rw [ih hrest, observation.of_apply hcall, List.filter_cons]
    split <;> rfl

/-- An attribute, by the path of its object and its name. -/
def attr_relevant (path : Path) (name : String) : Call → Bool
  | .H5Fcreate => true
  | .H5Gcreate2 loc child | .H5Dcreate2 loc child _ _ => loc ++ [child] = path
  | .H5Acreate2 loc attr _ | .H5Awrite loc attr _ => loc = path ∧ attr = name
  | _ => false

/-- What the relevant calls do to the value of an attribute. -/
def attr_effect (old : Option AttrValue) : Call → Option AttrValue
  | .H5Acreate2 _ _ type => some type.fill
  | .H5Awrite _ _ value => some value
  | .handle _ | .H5Fopen | .H5Dwrite _ _ _ => old
  | .H5Fcreate | .H5Gcreate2 _ _ | .H5Dcreate2 _ _ _ _ => none

/-- A group which is set has its own attributes, and no other is changed. -/
theorem File.attr?_set_group (file : File) (loc path : Path) (group : Group) (name : String) :
    (file.set loc (.group group)).attr? path name =
      if path = loc then group.attrs.lookup name else file.attr? path name := by
  by_cases hpath : path = loc
  · subst hpath
    rw [if_pos rfl, File.attr?_of_group (File.set_self _ _ _)]
  · rw [if_neg hpath, File.attr?, File.attr?, File.group?, File.group?, File.set_of_ne _ _ hpath]

/-- A link leaves the attributes of its group, and makes an object without any. -/
theorem File.attr?_link {file next : File} {loc : Path} {child : String} {object : Object}
    (hlink : file.link loc child object = some next)
    (hobject : object = .group Group.empty ∨ ∃ dataset, object = .dataset dataset)
    (path : Path) (name : String) :
    next.attr? path name = if loc ++ [child] = path then none else file.attr? path name := by
  obtain ⟨group, hgroup, _, _, rfl⟩ := File.link_eq_some.mp hlink
  by_cases hpath : loc ++ [child] = path
  · subst hpath
    rw [if_pos rfl, File.attr?, File.group?, File.set_self]
    rcases hobject with rfl | ⟨dataset, rfl⟩ <;> rfl
  · have hframe := File.set_of_ne (file.set loc (.group { group with links := group.links ++ [child] }))
      object (Ne.symm hpath)
    rw [if_neg hpath, File.attr?, File.group?, hframe, ← File.group?, ← File.attr?,
      File.attr?_set_group]
    split
    · next hloc => rw [hloc, File.attr?_of_group hgroup]
    · rfl

/-- Writing an attribute replaces its value, where there is one. -/
theorem lookup_written (attrs : List (String × AttrValue)) (attr name : String) (value : AttrValue) :
    (attrs.map fun old => if old.1 = attr then (attr, value) else old).lookup name =
      if attr = name then (attrs.lookup name).map fun _ => value else attrs.lookup name := by
  induction attrs with
  | nil => simp
  | cons old rest ih =>
    obtain ⟨key, data⟩ := old
    rw [List.map_cons, List.lookup_cons, List.lookup_cons]
    by_cases hkey : key = attr
    · subst hkey
      by_cases hname : name = key
      · subst hname
        simp
      · have hne : (name == key) = false := beq_eq_false_iff_ne.mpr hname
        simp [ih, hne, Ne.symm hname]
    · by_cases hname : name = key
      · subst hname
        simp [hkey, Ne.symm hkey]
      · have hne : (name == key) = false := beq_eq_false_iff_ne.mpr hname
        simp [hkey, ih, hne]

/-- The value of an attribute is determined by the calls that concern it. -/
def attr_observation (path : Path) (name : String) : Observation (Option AttrValue) where
  read file := file.attr? path name
  relevant := attr_relevant path name
  effect := attr_effect
  of_apply {call file next} happly := by
    cases call with
    | handle => cases happly; rfl
    | H5Fcreate =>
      cases happly
      by_cases hpath : path = []
      · subst hpath
        rfl
      · simp [File.attr?, File.group?, attr_relevant, attr_effect, Function.update_of_ne hpath]
    | H5Fopen =>
      obtain ⟨_, _, rfl⟩ := Option.map_eq_some_iff.mp happly
      rfl
    | H5Gcreate2 loc child =>
      rw [File.attr?_link happly (Or.inl rfl)]
      simp [attr_relevant, attr_effect]
    | H5Acreate2 loc attr type =>
      simp only [Call.apply] at happly
      split at happly
      · cases happly
      · next group hgroup =>
        split at happly
        · cases happly
        · next hfree =>
          cases happly
          have hnone := Option.not_isSome_iff_eq_none.mp (not_or.mp hfree).2
          rw [File.attr?_set_group]
          by_cases hloc : path = loc
          · subst hloc
            rw [if_pos rfl, List.lookup_append, File.attr?_of_group (File.group?_eq_some.mp hgroup)]
            by_cases hname : attr = name
            · subst hname
              simp [attr_relevant, attr_effect, hnone]
            · have hne : (name == attr) = false := beq_eq_false_iff_ne.mpr (Ne.symm hname)
              simp [attr_relevant, hname, List.lookup_cons, hne]
          · simp [attr_relevant, hloc, Ne.symm hloc]
    | H5Awrite loc attr value =>
      simp only [Call.apply] at happly
      split at happly
      · cases happly
      · next group hgroup =>
        split at happly
        · next hsome =>
          cases happly
          rw [File.attr?_set_group]
          by_cases hloc : path = loc
          · subst hloc
            rw [if_pos rfl, File.attr?_of_group (File.group?_eq_some.mp hgroup), lookup_written]
            by_cases hname : attr = name
            · subst hname
              obtain ⟨old, hold⟩ := Option.isSome_iff_exists.mp hsome
              simp [attr_relevant, attr_effect, hold]
            · simp [attr_relevant, hname]
          · simp [attr_relevant, hloc, Ne.symm hloc]
        · cases happly
    | H5Dcreate2 loc child type dims =>
      rw [File.attr?_link happly (Or.inr ⟨_, rfl⟩)]
      simp [attr_relevant, attr_effect]
    | H5Dwrite loc child data =>
      obtain ⟨dataset, hdataset, rfl⟩ := Option.map_eq_some_iff.mp happly
      by_cases hpath : path = loc ++ [child]
      · subst hpath
        simp [attr_relevant, File.attr?, File.group?, File.dataset?_eq_some.mp hdataset]
      · simp [attr_relevant, File.attr?, File.group?, File.set_of_ne _ _ hpath]

/-- A dataset, by its path. -/
def dataset_relevant (path : Path) : Call → Bool
  | .H5Fcreate => true
  | .H5Gcreate2 loc child | .H5Dcreate2 loc child _ _ | .H5Dwrite loc child _ => loc ++ [child] = path
  | _ => false

/-- What the relevant calls do to a dataset. -/
def dataset_effect (old : Option Dataset) : Call → Option Dataset
  | .H5Dcreate2 _ _ type dims => some ⟨type, dims, none⟩
  | .H5Dwrite _ _ data => old.map fun dataset => { dataset with data := some data }
  | .H5Fcreate | .H5Gcreate2 _ _ => none
  | .handle _ | .H5Fopen | .H5Acreate2 _ _ _ | .H5Awrite _ _ _ => old

theorem File.dataset?_set_group {file : File} {loc : Path} {group : Group}
    (hgroup : file loc = some (.group group)) (other : Group) (path : Path) :
    (file.set loc (.group other)).dataset? path = file.dataset? path := by
  by_cases hpath : path = loc
  · subst hpath
    simp [File.dataset?, hgroup]
  · rw [File.dataset?, File.dataset?, File.set_of_ne _ _ hpath]

/-- A link makes at most one dataset, at its own path. -/
theorem File.dataset?_link {file next : File} {loc : Path} {child : String} {object : Object}
    (hlink : file.link loc child object = some next) (path : Path) :
    next.dataset? path =
      if loc ++ [child] = path then
        (match object with
        | .dataset dataset => some dataset
        | .group _ => none)
      else file.dataset? path := by
  obtain ⟨group, hgroup, _, _, rfl⟩ := File.link_eq_some.mp hlink
  by_cases hpath : loc ++ [child] = path
  · subst hpath
    rw [if_pos rfl, File.dataset?, File.set_self]
    cases object <;> rfl
  · have hframe := File.set_of_ne (file.set loc (.group { group with links := group.links ++ [child] }))
      object (Ne.symm hpath)
    rw [if_neg hpath, File.dataset?, hframe, ← File.dataset?, File.dataset?_set_group hgroup]

/-- The dataset at a path is determined by the calls that concern it. -/
def dataset_observation (path : Path) : Observation (Option Dataset) where
  read file := file.dataset? path
  relevant := dataset_relevant path
  effect := dataset_effect
  of_apply {call file next} happly := by
    cases call with
    | handle => cases happly; rfl
    | H5Fcreate =>
      cases happly
      by_cases hpath : path = []
      · subst hpath
        rfl
      · simp [File.dataset?, dataset_relevant, dataset_effect, Function.update_of_ne hpath]
    | H5Fopen =>
      obtain ⟨_, _, rfl⟩ := Option.map_eq_some_iff.mp happly
      rfl
    | H5Gcreate2 loc child =>
      rw [File.dataset?_link happly]
      simp [dataset_relevant, dataset_effect]
    | H5Acreate2 loc attr type =>
      simp only [Call.apply] at happly
      split at happly
      · cases happly
      · next group hgroup =>
        split at happly
        · cases happly
        · cases happly
          exact File.dataset?_set_group (File.group?_eq_some.mp hgroup) _ _
    | H5Awrite loc attr value =>
      simp only [Call.apply] at happly
      split at happly
      · cases happly
      · next group hgroup =>
        split at happly
        · cases happly
          exact File.dataset?_set_group (File.group?_eq_some.mp hgroup) _ _
        · cases happly
    | H5Dcreate2 loc child type dims =>
      rw [File.dataset?_link happly]
      simp [dataset_relevant, dataset_effect]
    | H5Dwrite loc child data =>
      obtain ⟨dataset, hdataset, rfl⟩ := Option.map_eq_some_iff.mp happly
      by_cases hpath : loc ++ [child] = path
      · subst hpath
        rw [hdataset]
        simp [dataset_relevant, dataset_effect, File.dataset?]
      · simp [dataset_relevant, hpath, File.dataset?, File.set_of_ne _ _ (Ne.symm hpath)]

/-- The links of a group, by its path. -/
def links_relevant (path : Path) : Call → Bool
  | .H5Fcreate => true
  | .H5Gcreate2 loc child | .H5Dcreate2 loc child _ _ => loc = path ∨ loc ++ [child] = path
  | _ => false

/-- What the relevant calls do to the links of a group. -/
def links_effect (path : Path) (old : Option (List String)) : Call → Option (List String)
  | .H5Gcreate2 loc child => if loc = path then old.map (· ++ [child]) else some []
  | .H5Dcreate2 loc child _ _ => if loc = path then old.map (· ++ [child]) else none
  | .H5Fcreate => if path = [] then some [] else none
  | .handle _ | .H5Fopen | .H5Acreate2 _ _ _ | .H5Awrite _ _ _ | .H5Dwrite _ _ _ => old

/-- The names of the links of the group at a path. -/
def File.links? (file : File) (path : Path) : Option (List String) := (file.group? path).map Group.links

theorem File.links?_of_group {file : File} {path : Path} {group : Group}
    (hgroup : file path = some (.group group)) : file.links? path = some group.links := by
  rw [File.links?, File.group?_eq_some.mpr hgroup, Option.map_some]

theorem File.links?_set_group {file : File} {loc : Path} {group : Group}
    (hgroup : file loc = some (.group group)) (attrs : List (String × AttrValue)) (path : Path) :
    (file.set loc (.group { group with attrs := attrs })).links? path = file.links? path := by
  by_cases hpath : path = loc
  · subst hpath
    rw [File.links?_of_group (File.set_self _ _ _), File.links?_of_group hgroup]
  · rw [File.links?, File.links?, File.group?, File.group?, File.set_of_ne _ _ hpath]

/-- A link adds its name to its group, and is a group without links or no group. -/
theorem File.links?_link {file next : File} {loc : Path} {child : String} {object : Object}
    (hlink : file.link loc child object = some next) (path : Path) :
    next.links? path =
      if loc = path then (file.links? path).map (· ++ [child])
      else if loc ++ [child] = path then
        (match object with
        | .dataset _ => none
        | .group group => some group.links)
      else file.links? path := by
  obtain ⟨group, hgroup, _, _, rfl⟩ := File.link_eq_some.mp hlink
  by_cases hpath : loc ++ [child] = path
  · subst hpath
    have hloc : loc ≠ loc ++ [child] := by simp
    rw [if_neg hloc, if_pos rfl, File.links?, File.group?, File.set_self]
    cases object <;> rfl
  · have hframe := File.set_of_ne (file.set loc (.group { group with links := group.links ++ [child] }))
      object (Ne.symm hpath)
    rw [if_neg hpath, File.links?, File.group?, hframe, ← File.group?, ← File.links?]
    by_cases hloc : loc = path
    · subst hloc
      rw [if_pos rfl, File.links?_of_group (File.set_self _ _ _), File.links?_of_group hgroup,
        Option.map_some]
    · rw [if_neg hloc, File.links?, File.links?, File.group?, File.group?,
        File.set_of_ne _ _ (Ne.symm hloc)]

/-- The links of a group are determined by the calls that concern it. -/
def links_observation (path : Path) : Observation (Option (List String)) where
  read file := file.links? path
  relevant := links_relevant path
  effect := links_effect path
  of_apply {call file next} happly := by
    cases call with
    | handle => cases happly; rfl
    | H5Fcreate =>
      cases happly
      by_cases hpath : path = []
      · subst hpath
        rfl
      · simp [File.links?, File.group?, links_relevant, links_effect, hpath]
    | H5Fopen =>
      obtain ⟨_, _, rfl⟩ := Option.map_eq_some_iff.mp happly
      rfl
    | H5Gcreate2 loc child =>
      rw [File.links?_link happly]
      by_cases hloc : loc = path <;> simp [links_relevant, links_effect, hloc, Group.empty]
    | H5Acreate2 loc attr type =>
      simp only [Call.apply] at happly
      split at happly
      · cases happly
      · next group hgroup =>
        split at happly
        · cases happly
        · cases happly
          exact File.links?_set_group (File.group?_eq_some.mp hgroup) _ _
    | H5Awrite loc attr value =>
      simp only [Call.apply] at happly
      split at happly
      · cases happly
      · next group hgroup =>
        split at happly
        · cases happly
          exact File.links?_set_group (File.group?_eq_some.mp hgroup) _ _
        · cases happly
    | H5Dcreate2 loc child type dims =>
      rw [File.links?_link happly]
      by_cases hloc : loc = path <;> simp [links_relevant, links_effect, hloc]
    | H5Dwrite loc child data =>
      obtain ⟨dataset, hdataset, rfl⟩ := Option.map_eq_some_iff.mp happly
      by_cases hpath : path = loc ++ [child]
      · subst hpath
        simp [links_relevant, File.links?, File.group?, File.dataset?_eq_some.mp hdataset]
      · simp [links_relevant, File.links?, File.group?, File.set_of_ne _ _ hpath]

end hdf5
