import Krepe.Replay.Entry

open std hdf5 ordered_set

namespace krepe.impl

section

variable {file other : File}

theorem attr?_congr {object : Path} (hsame : other object = file object) (attr_name : String) :
    other.attr? object attr_name = file.attr? object attr_name := by
  rw [File.attr?, File.attr?, File.group?, File.group?, hsame]

theorem dataset?_congr {object : Path} (hsame : other object = file object) :
    other.dataset? object = file.dataset? object := by
  rw [File.dataset?, File.dataset?, hsame]

theorem get_hdf5_string_attribute_congr {object : Path} (hsame : other object = file object)
    (attr_name : String) :
    get_hdf5_string_attribute other object attr_name = get_hdf5_string_attribute file object attr_name := by
  rw [get_hdf5_string_attribute, get_hdf5_string_attribute, attr?_congr hsame]

theorem get_hdf5_int_attribute_congr {object : Path} (hsame : other object = file object)
    (attr_name : String) :
    get_hdf5_int_attribute other object attr_name = get_hdf5_int_attribute file object attr_name := by
  rw [get_hdf5_int_attribute, get_hdf5_int_attribute, attr?_congr hsame]

theorem get_hdf5_uint64_attribute_congr {object : Path} (hsame : other object = file object)
    (attr_name : String) :
    get_hdf5_uint64_attribute other object attr_name = get_hdf5_uint64_attribute file object attr_name := by
  rw [get_hdf5_uint64_attribute, get_hdf5_uint64_attribute, attr?_congr hsame]

theorem open_uchar_dataset_congr {dataset_name : Path} (hsame : other dataset_name = file dataset_name)
    (expr : String) : open_uchar_dataset other dataset_name expr = open_uchar_dataset file dataset_name expr := by
  rw [open_uchar_dataset, open_uchar_dataset, dataset?_congr hsame]

theorem read_hdf5_int64_dataset_congr {name : Path} (hsame : other name = file name) :
    read_hdf5_int64_dataset other name = read_hdf5_int64_dataset file name := by
  rw [read_hdf5_int64_dataset, read_hdf5_int64_dataset, dataset?_congr hsame]

end

variable {machine : ReplayMachine} {file other : File}

theorem literate_congr {A : Type} {group : Path} (hsame : other group = file group) (expr : String)
    (callback : String → A → Except Failure A) (data : A) :
    literate machine other group expr callback data = literate machine file group expr callback data := by
  rw [literate, literate, File.group?, File.group?, hsame]

/-- What is reserved for an entry depends on what is below its group. -/
theorem get_hdf5_dataset_alloc_info_congr {group : Path}
    (hsame : ∀ path, group <+: path → other path = file path) (target_memory_space : MemorySpaceType) :
    get_hdf5_dataset_alloc_info machine target_memory_space other group =
      get_hdf5_dataset_alloc_info machine target_memory_space file group := by
  funext name allocation_set
  have hobject := hsame (group ++ [name]) (List.prefix_append _ _)
  have hbytes := hsame (group ++ [name] ++ ["bytes"]) ⟨[name, "bytes"], by simp⟩
  simp only [get_hdf5_dataset_alloc_info, bytes_dataset, get_hdf5_string_attribute_congr hobject,
    open_uchar_dataset_congr hbytes]

/-- What is copied of an entry depends on what is below its group. -/
theorem allocate_hdf5_dataset_congr {A : Type} {group : Path}
    (hsame : ∀ path, group <+: path → other path = file path)
    (allocate_fun : String → String → Nat → List UInt8 → A → Except Failure A) :
    allocate_hdf5_dataset machine other group allocate_fun =
      allocate_hdf5_dataset machine file group allocate_fun := by
  funext name data
  have hobject := hsame (group ++ [name]) (List.prefix_append _ _)
  have hbytes := hsame (group ++ [name] ++ ["bytes"]) ⟨[name, "bytes"], by simp⟩
  simp only [allocate_hdf5_dataset, bytes_dataset, get_hdf5_string_attribute_congr hobject,
    open_uchar_dataset_congr hbytes]

/-- The metadata depend on their group. -/
theorem read_metadata_congr (hsame : other ["metadata"] = file ["metadata"]) :
    read_metadata machine other = read_metadata machine file := by
  have hread : read_hdf5_metadata other ["metadata"] = read_hdf5_metadata file ["metadata"] := by
    funext name metadata
    simp only [read_hdf5_metadata, get_hdf5_string_attribute_congr hsame]
  rw [read_metadata, read_metadata, File.group?, File.group?, hsame, hread]

/-- The functor depends on its two datasets. -/
theorem read_functor_from_hdf5_congr
    (hsame : ∀ name, other ["functor", name] = file ["functor", name]) :
    read_functor_from_hdf5 machine other = read_functor_from_hdf5 machine file := by
  have harray : ∀ name expr, read_functor_array other ["functor", name] expr =
      read_functor_array file ["functor", name] expr := by
    intro name expr
    rw [read_functor_array, read_functor_array, open_uchar_dataset_congr (hsame name)]
  rw [read_functor_from_hdf5, read_functor_from_hdf5, harray, harray]

/-- The policy depends on its group and the datasets in it. -/
theorem read_policy_from_hdf5_congr (build : ReplayBuild) (hpolicy : other policy_path = file policy_path)
    (hdatasets : ∀ name, other ["policy", name] = file ["policy", name]) :
    read_policy_from_hdf5 build other = read_policy_from_hdf5 build file := by
  have hstring : get_hdf5_string_attribute other policy_path = get_hdf5_string_attribute file policy_path :=
    funext fun attr_name => get_hdf5_string_attribute_congr hpolicy attr_name
  have hint : get_hdf5_int_attribute other policy_path = get_hdf5_int_attribute file policy_path :=
    funext fun attr_name => get_hdf5_int_attribute_congr hpolicy attr_name
  have huint64 : get_hdf5_uint64_attribute other policy_path = get_hdf5_uint64_attribute file policy_path :=
    funext fun attr_name => get_hdf5_uint64_attribute_congr hpolicy attr_name
  have hrange : read_range_policy other = read_range_policy file := by
    funext index_type schedule exec_space
    rw [read_range_policy, read_range_policy, huint64, hint]
  have hmdrange : read_mdrange_policy build other = read_mdrange_policy build file := by
    funext index_type schedule exec_space
    rw [read_mdrange_policy, read_mdrange_policy, hstring, hint,
      read_hdf5_int64_dataset_congr (hdatasets "begin"), read_hdf5_int64_dataset_congr (hdatasets "end"),
      read_hdf5_int64_dataset_congr (hdatasets "tile")]
  have hteam : read_team_policy other = read_team_policy file := by
    funext index_type schedule exec_space
    rw [read_team_policy, read_team_policy, hint]
  rw [read_policy_from_hdf5, read_policy_from_hdf5, hstring, hint, huint64, hrange, hmdrange, hteam]

theorem Reads.congr {object : Path} {entry : Entry} (hread : Reads file object entry)
    (hsame : ∀ path, object <+: path → other path = file path) : Reads other object entry := by
  have hstring := get_hdf5_string_attribute_congr (hsame object (List.prefix_refl _))
  have hbytes := dataset?_congr (hsame (object ++ ["bytes"]) (List.prefix_append _ _))
  refine ⟨by rw [hstring, hread.label], by rw [hstring, hread.space], ?_, ?_, ?_⟩
  · rw [hstring]
    exact hread.p_data
  · rw [hbytes]
    exact hread.no_bytes
  · rw [hbytes]
    exact hread.bytes

theorem Visits.congr {group : Path} {entries : List Entry} (hvisits : Visits machine file group entries)
    (hsame : ∀ path, group <+: path → other path = file path) : Visits machine other group entries := by
  obtain ⟨node, hnode, hreads⟩ := hvisits
  exact ⟨node, by rw [hsame group (List.prefix_refl _), hnode], hreads.imp fun name entry hread =>
    hread.congr fun path hpath => hsame path ((List.prefix_append _ _).trans hpath)⟩

/-- The inputs are loaded from nothing but what is outside of the outputs. -/
theorem load_input_congr
    (hsame : ∀ path, path ≠ [] → ¬ ["out"] <+: path → other path = file path) :
    ScopeGuard.load_input machine other = ScopeGuard.load_input machine file := by
  have hviews : ∀ path, ScopeGuard.in_views <+: path → other path = file path := by
    rintro path ⟨rest, rfl⟩
    exact hsame _ (by simp [ScopeGuard.in_views]) (by simp [ScopeGuard.in_views])
  have hgroup := hviews ScopeGuard.in_views (List.prefix_refl _)
  have hpolicy := read_policy_from_hdf5_congr machine.build (hsame policy_path (by simp [policy_path])
    (by simp [policy_path])) fun name => hsame _ (by simp) (by simp)
  have hreserve : ∀ memory_space callback allocation_locs guard,
      ScopeGuard.reserve machine other memory_space callback allocation_locs guard =
        ScopeGuard.reserve machine file memory_space callback allocation_locs guard := by
    intro memory_space callback allocation_locs guard
    rw [ScopeGuard.reserve, ScopeGuard.reserve, literate_congr hgroup,
      get_hdf5_dataset_alloc_info_congr hviews]
  simp only [ScopeGuard.load_input, hreserve, literate_congr hgroup, allocate_hdf5_dataset_congr hviews,
    read_metadata_congr (hsame ["metadata"] (by simp) (by simp)),
    read_functor_from_hdf5_congr fun name => hsame ["functor", name] (by simp) (by simp), hpolicy]

end krepe.impl
