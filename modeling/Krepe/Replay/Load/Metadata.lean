import Krepe.Outcome.Ends
import Krepe.Replay.KernelReplayer

open std hdf5 outcome

namespace krepe

/-- The value at a key, where `at` does not throw. -/
def get_metadata (guard : ScopeGuard) (key : String) : Option String := guard.metadata.lookup key

namespace impl

variable {machine : ReplayMachine} {file : File} {group : Path}

/-- A dataset is handed on with its data, or nothing is returned. -/
theorem allocate_hdf5_dataset_keeps {A : Type} {P : A → Prop}
    {allocate_fun : String → String → Nat → List UInt8 → A → Except Failure A} {name : String} {data : A}
    (hcallback : ∀ label space address buffer,
      Ends (fun _ => True) P (allocate_fun label space address buffer data)) :
    Ends (fun _ => True) P (allocate_hdf5_dataset machine file group allocate_fun name data) := by
  rw [allocate_hdf5_dataset]
  refine (ends_any _).bind fun label _ => (ends_any _).bind fun space _ => ?_
  refine (ends_any _).bind fun p_data _ => (ends_any _).bind fun address _ => ?_
  refine (ends_any _).bind fun dataset _ => (ends_any _).bind fun size _ => ?_
  split
  · exact hcallback label space 0 []
  · refine (ends_any _).bind fun buffer _ => (ends_any _).bind fun bytes _ => ?_
    exact (ends_any _).bind fun buffer _ => hcallback label space address buffer

theorem allocate_output_metadata (guard : ScopeGuard) (label space : String) (data : List UInt8) :
    Ends (fun _ => True) (fun next => next.metadata = guard.metadata)
      (guard.allocate_output machine label space data) := by
  unfold ScopeGuard.allocate_output
  dsimp only
  split
  · trivial
  · split
    · exact ends_pure.mpr rfl
    · split
      · trivial
      · exact ends_pure.mpr rfl

theorem output_step_metadata (guard : ScopeGuard) (name : String) :
    Ends (fun _ => True) (fun next => next.metadata = guard.metadata)
      (allocate_hdf5_output_dataset machine file group
        (fun label memory_space _ data guard => guard.allocate_output machine label memory_space data)
        name guard) := by
  rw [allocate_hdf5_output_dataset]
  refine (ends_any _).bind fun bytes_dumped _ => ?_
  split
  · exact ends_pure.mpr rfl
  · exact allocate_hdf5_dataset_keeps fun label space _ data =>
      allocate_output_metadata guard label space data

/-- The outputs are allocated beside the metadata. -/
theorem load_output_metadata (guard : ScopeGuard) :
    Ends (fun _ => True) (fun next => next.metadata = guard.metadata)
      (ScopeGuard.load_output machine file guard) := by
  rw [ScopeGuard.load_output]
  refine (ends_any _).bind fun has_output _ => ?_
  split
  · rw [literate]
    split
    · trivial
    · refine @ends_foldlM _ _ _ _ (fun _ (next : ScopeGuard) => next.metadata = guard.metadata) _ _ _ rfl
        fun visited name rest next _ hkept => ?_
      exact (output_step_metadata next name).mono (fun _ hnext => hnext.trans hkept) fun _ _ => trivial
  · exact ends_pure.mpr rfl

/-- A guard has the metadata of its file. -/
theorem load_input_metadata :
    Ends (fun _ => True) (fun guard => read_metadata machine file = .ok guard.metadata)
      (ScopeGuard.load_input machine file) := by
  rw [ScopeGuard.load_input]
  refine (ends_any _).bind fun guard _ => (ends_any _).bind fun _ _ => ?_
  refine (ends_any _).bind fun guard _ => (ends_any _).bind fun guard _ => ?_
  cases hread : read_metadata machine file with
  | error failure => trivial
  | ok metadata =>
    rw [ok_bind]
    exact (ends_any _).bind fun functor _ => (ends_any _).bind fun policy _ => ends_pure.mpr rfl

/-- A name whose values agree is found with that value. -/
theorem read_hdf5_metadata_lookup {metadata : UnorderedMap String String} {name value : String}
    (hread : get_hdf5_string_attribute file group name = .ok value)
    (hsame : ∀ other, AList.lookup name metadata = some other → other = value) :
    Ends (fun _ => True) (fun next => ∀ key, AList.lookup key next =
        if key = name then some value else AList.lookup key metadata)
      (read_hdf5_metadata file group name metadata) := by
  rw [read_hdf5_metadata, hread]
  refine ends_pure.mpr fun key => ?_
  cases hlookup : AList.lookup name metadata with
  | none =>
    by_cases hkey : key = name
    · subst hkey
      simp
    · simp [hkey, AList.lookup_insert_ne hkey]
  | some other =>
    obtain rfl := hsame other hlookup
    by_cases hkey : key = name
    · subst hkey
      simp [hlookup]
    · simp [hkey]

theorem toOption_get_hdf5_string_attribute {node : Group} (hgroup : file.group? group = some node)
    {key : String} (hkey : key ∉ node.attrs.map Prod.fst) :
    (get_hdf5_string_attribute file group key).toOption = none := by
  have hattr : file.attr? group key = none := by
    rw [File.attr?, hgroup, Option.bind_some, List.lookup_eq_none_iff]
    intro attr hattr
    exact bne_iff_ne.mpr fun heq => hkey (heq ▸ List.mem_map_of_mem hattr)
  rw [get_hdf5_string_attribute, hattr]
  rfl

/-- The metadata are the string attributes of their group. -/
theorem read_metadata_lookup :
    Ends (fun _ => True) (fun metadata => ∀ key, AList.lookup key metadata =
        (get_hdf5_string_attribute file ["metadata"] key).toOption)
      (read_metadata machine file) := by
  rw [read_metadata]
  cases hgroup : file.group? ["metadata"] with
  | none => trivial
  | some node =>
    -- The attributes which were visited are there, and no others.
    have hvisit := @ends_foldlM _ _ _ (fun _ => True)
      (fun visited (metadata : UnorderedMap String String) => ∀ key, AList.lookup key metadata =
        if key ∈ visited then (get_hdf5_string_attribute file ["metadata"] key).toOption else none)
      (fun metadata name => read_hdf5_metadata file ["metadata"] name metadata)
      (machine.iteration_order (node.attrs.map Prod.fst)) ∅ (fun key => rfl)
      fun visited name rest metadata _ hmetadata => by
        cases hread : get_hdf5_string_attribute file ["metadata"] name with
        | error failure =>
          rw [read_hdf5_metadata, hread]
          trivial
        | ok value =>
          refine (read_hdf5_metadata_lookup hread fun other hother => ?_).mono (fun next hnext key => ?_)
            fun _ _ => trivial
          · rw [hmetadata name, hread] at hother
            split at hother <;> cases hother
            rfl
          · rw [hnext, hmetadata]
            by_cases hkey : key = name
            · subst hkey
              simp [hread, Except.toOption]
            · simp [hkey]
    refine hvisit.mono (fun metadata hmetadata key => ?_) fun _ _ => trivial
    rw [hmetadata]
    split
    · rfl
    · next hkey =>
      refine (toOption_get_hdf5_string_attribute hgroup fun hmem => hkey ?_).symm
      exact (machine.iteration_order_perm _).symm.subset hmem

/-- A guard has the metadata which are stored in its file. -/
theorem get_metadata_of_load {guard : ScopeGuard} (hload : ScopeGuard.load machine file = .ok guard)
    (key : String) :
    get_metadata guard key = (get_hdf5_string_attribute file ["metadata"] key).toOption := by
  obtain ⟨restored, hinput, houtput⟩ := bind_eq_ok.mp hload
  rw [get_metadata, (load_output_metadata restored).of_ok houtput]
  exact read_metadata_lookup.of_ok (load_input_metadata.of_ok hinput) key

end impl

end krepe
