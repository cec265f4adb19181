import Krepe.Capture.ViewDump.Policy
import Krepe.Extract.KernelExtractor
import Krepe.Outcome.Ends
import Krepe.Replay.ParallelFor

open std hdf5 kokkos

namespace krepe.impl

/-- A schedule is found again by its name. -/
theorem get_policy_schedule_from_name_to_string (schedule : Schedule) :
    get_policy_schedule_from_name (schedule_to_string schedule) = .ok schedule := by
  cases schedule <;> rfl

/-- A direction is found again by its name. -/
theorem iteration_pattern_from_to_string {direction : Iterate} {name : String}
    (hname : iteration_pattern_to_string direction = .ok name) :
    iteration_pattern_from_string name = .ok direction := by
  cases direction with
  | Default => cases hname
  | Left | Right =>
    cases hname
    rfl

/-- Extending a bound by its sign and narrowing it again is lossless. -/
theorem narrow_bound_index_type_to_u64 {index_type : IndexType} (bound : index_type.Value) :
    ParallelForVisitor.narrow_bound index_type (index_type_to_u64 index_type bound) = bound := by
  unfold ParallelForVisitor.narrow_bound index_type_to_u64
  cases hsigned : index_type.is_signed with
  | true =>
    obtain ⟨hlow, hhigh⟩ := IndexType.toInt_bounds hsigned bound
    have hexact : (Int64.ofInt (index_type.toInt bound)).toInt = index_type.toInt bound :=
      Int64.toInt_ofInt_of_le (by simpa using hlow) (by simpa using hhigh)
    simp [hexact]
  | false =>
    obtain ⟨hvalue, hlt⟩ := IndexType.toInt_unsigned hsigned bound
    have hexact : (UInt64.ofNat bound.toNat).toNat = bound.toNat := UInt64.toNat_ofNat_of_lt' hlt
    simp only [Bool.false_eq_true, if_false]
    rw [hexact, ← hvalue, IndexType.ofInt_toInt]

/-- A chunk size which fits an `int` comes back as it was. -/
theorem ofInt_narrowed {index_type : IndexType} {value : index_type.Value}
    (hlow : -2 ^ 31 ≤ index_type.toInt value) (hhigh : index_type.toInt value < 2 ^ 31) :
    index_type.ofInt (Int32.ofInt (index_type.toInt value)).toInt = value := by
  rw [Int32.toInt_ofInt_of_le hlow hhigh, IndexType.ofInt_toInt]

/-- A scratch size which fits an `int` comes back as it was. -/
theorem as_size_t_ofNat {size : UInt64} (hfits : size.toNat < 2 ^ 31) :
    as_size_t (Int32.ofNat size.toNat) = size := by
  have hmax : (size.toNat : Int) ≤ Int32.maxValue.toInt := by
    rw [Int32.toInt_maxValue]
    omega
  rw [as_size_t, Int32.toInt64_ofNat' hmax, Int64.toUInt64_ofNat', UInt64.ofNat_toNat]

/-- A scratch size which fits an `int` is not taken for an unknown one. -/
theorem ofNat_ne_sentinel {size : UInt64} (hfits : size.toNat < 2 ^ 31) :
    Int32.ofNat size.toNat ≠ -1 := by
  intro heq
  have hvalue := congrArg Int32.toInt heq
  have hsentinel : (-1 : Int32).toInt = -1 := by simp
  rw [Int32.toInt_ofNat_of_lt hfits, hsentinel] at hvalue
  omega

/-- An array of the rank is copied as it is. -/
theorem copy_array_toList {rank : Nat} (values : Vector Int64 rank) :
    copy_array rank values.toList = .ok values := by
  have hlength : rank ≤ values.toList.length := by simp
  rw [copy_array, dif_pos hlength]
  exact congrArg Except.ok (Vector.ext fun i hi => by simp)

/-- Both sizes of a team policy are restored by the four cases of the reader. -/
theorem new_team_policy_extent (exec_space : ExecutionSpace) (schedule : Schedule)
    (index_type : IndexType) (team_size vector_length : TeamExtent) (league_size : Int32) :
    new_team_policy exec_space schedule index_type (extent_or_auto team_size) league_size
        (extent_or_auto vector_length) =
      ⟨exec_space, schedule, index_type, league_size, team_size, vector_length, .unset, .unset, 0⟩ := by
  have hauto : (-1 : Int32) < 0 := by simp
  unfold new_team_policy
  cases team_size with
  | AUTO =>
    rw [extent_or_auto, dif_pos hauto]
    cases vector_length with
    | AUTO => rw [extent_or_auto, dif_pos hauto]
    | fixed vector_length hvector => rw [extent_or_auto, dif_neg (Int32.not_lt.mpr hvector)]
  | fixed team_size hteam =>
    rw [extent_or_auto, dif_neg (Int32.not_lt.mpr hteam)]
    cases vector_length with
    | AUTO => rw [extent_or_auto, dif_pos hauto]
    | fixed vector_length hvector => rw [extent_or_auto, dif_neg (Int32.not_lt.mpr hvector)]

section

variable {build : ReplayBuild} {file : File} {index_type : IndexType} {space : ExecutionSpace}
  {schedule : Schedule}

/-- After the attributes which three of the policies share, the reader goes on with
    those of its own. -/
theorem read_policy_shared {type space_name schedule_name : String} {index_type_desc : IndexTypeDesc}
    {policy : PolicyDesc} (hstored : PolicyStored policy_path policy file)
    (hcommon : common_attributes type index_type_desc space_name schedule_name ⊆ policy_attributes policy)
    (hnone : type ≠ "none") (hscalar : type ≠ "scalar") :
    read_policy_from_hdf5 build file = (do
      let index_type ← get_policy_index_type_from_props (as_int index_type_desc.is_signed.toNat != 0)
        (as_int index_type_desc.size).toInt64.toUInt64
      let exec_space ← get_policy_exec_space_from_name build space_name
      let schedule ← get_policy_schedule_from_name schedule_name
      if type = "range" then read_range_policy file index_type schedule exec_space
      else if type = "mdrange" then read_mdrange_policy build file index_type schedule exec_space
      else if type = "team" then read_team_policy file index_type schedule exec_space
      else throw (.runtime_error ("Unknown policy type '" ++ type ++ "'"))) := by
  have hstring : ∀ {name text}, (name, string_data text) ∈
      common_attributes type index_type_desc space_name schedule_name →
      get_hdf5_string_attribute file policy_path name = .ok text :=
    fun hmem => get_hdf5_string_attribute_of_attr? (hstored.attr? (hcommon hmem))
  have hint : ∀ {name value}, (name, .int value) ∈
      common_attributes type index_type_desc space_name schedule_name →
      get_hdf5_int_attribute file policy_path name = .ok value :=
    fun hmem => get_hdf5_int_attribute_of_attr? (hstored.attr? (hcommon hmem))
  have htype := @hstring "type" type (by simp [common_attributes])
  have hsize := @hint "index_type_size" (as_int index_type_desc.size) (by simp [common_attributes])
  have hsigned := @hint "index_type_signed" (as_int index_type_desc.is_signed.toNat)
    (by simp [common_attributes])
  have hspace := @hstring "space" space_name (by simp [common_attributes])
  have hschedule := @hstring "schedule" schedule_name (by simp [common_attributes])
  simp only [read_policy_from_hdf5, htype, hsigned, hsize, hspace, hschedule, hnone, hscalar, if_false,
    outcome.ok_bind]

/-- The attributes which three of the policies share select the reader of the rest. -/
theorem read_policy_common {type : String} {policy : PolicyDesc}
    (hstored : PolicyStored policy_path policy file) (hspace : space ∈ exec_space_var build)
    (hcommon : common_attributes type ⟨index_type.size, index_type.is_signed⟩ space.name
      (schedule_to_string schedule) ⊆ policy_attributes policy)
    (hnone : type ≠ "none") (hscalar : type ≠ "scalar") :
    read_policy_from_hdf5 build file =
      if type = "range" then read_range_policy file index_type schedule (some space)
      else if type = "mdrange" then read_mdrange_policy build file index_type schedule (some space)
      else if type = "team" then read_team_policy file index_type schedule (some space)
      else throw (.runtime_error ("Unknown policy type '" ++ type ++ "'")) := by
  have hindex : get_policy_index_type_from_props (as_int index_type.is_signed.toNat != 0)
      (as_int index_type.size).toInt64.toUInt64 = .ok index_type := by
    cases index_type <;> rfl
  simp only [read_policy_shared hstored hcommon hnone hscalar, hindex,
    get_policy_exec_space_from_name_name hspace, get_policy_schedule_from_name_to_string, outcome.ok_bind]

/-- A stored range policy is read with its bounds and its chunk size. -/
theorem read_range_policy_of_stored {policy : krepe.RangePolicyDesc}
    (hstored : PolicyStored policy_path (.range policy) file)
    (hindex : policy.index_type_desc = ⟨index_type.size, index_type.is_signed⟩)
    (hname : policy.space = space.name) (hspace : space ∈ exec_space_var build)
    (hschedule : policy.schedule = schedule_to_string schedule) :
    read_policy_from_hdf5 build file =
      .ok (.range ⟨policy.begin, policy.end, policy.chunk_size, index_type, schedule, some space⟩) := by
  have huint64 : ∀ {name value}, (name, .uint64 value) ∈ policy_attributes (.range policy) →
      get_hdf5_uint64_attribute file policy_path name = .ok value :=
    fun hmem => get_hdf5_uint64_attribute_of_attr? (hstored.attr? hmem)
  have hbegin := @huint64 "begin" policy.begin (by simp [policy_attributes])
  have hend := @huint64 "end" policy.end (by simp [policy_attributes])
  have hchunk : get_hdf5_int_attribute file policy_path "chunk_size" = .ok policy.chunk_size :=
    get_hdf5_int_attribute_of_attr? (hstored.attr? (by simp [policy_attributes]))
  have hcommon : common_attributes "range" ⟨index_type.size, index_type.is_signed⟩ space.name
      (schedule_to_string schedule) ⊆ policy_attributes (.range policy) := by
    rw [policy_attributes, hindex, hname, hschedule]
    exact List.subset_append_left _ _
  rw [read_policy_common hstored hspace hcommon (by simp) (by simp), if_pos rfl]
  simp only [read_range_policy, hbegin, hend, hchunk, bind, Except.bind, pure, Except.pure]

theorem read_hdf5_int64_dataset_of_stored {name : Path} {values : List Int64}
    (hdataset : file name = some (.dataset (stored_dataset (.int64 values)))) :
    read_hdf5_int64_dataset file name = .ok values := by
  rw [read_hdf5_int64_dataset, File.dataset?_eq_some.mpr hdataset]
  by_cases hempty : values = []
  · simp [stored_dataset, Dataset.read_int64, elements_size, Hdf5Datatype, hempty, extent, pure,
      Except.pure]
  · simp [stored_dataset, Dataset.read_int64, elements_size, Hdf5Datatype, hempty, pure, Except.pure]

/-- A stored policy over several dimensions is read with its rank, directions, bounds and tile. -/
theorem read_mdrange_policy_of_stored {policy : krepe.MDRangePolicyDesc} {outer_dir inner_dir : Iterate}
    (hstored : PolicyStored policy_path (.mdrange policy) file)
    (hindex : policy.index_type_desc = ⟨index_type.size, index_type.is_signed⟩)
    (hname : policy.space = space.name) (hspace : space ∈ exec_space_var build)
    (hschedule : policy.schedule = schedule_to_string schedule)
    (hrank : policy.rank ∈ mdrange_rank_var build)
    (houter : iteration_pattern_to_string outer_dir = .ok policy.outer_dir)
    (hinner : iteration_pattern_to_string inner_dir = .ok policy.inner_dir) :
    read_policy_from_hdf5 build file =
      .ok (.mdrange ⟨policy.begin, policy.end, policy.tile, index_type, schedule, some space,
        policy.rank, outer_dir, inner_dir⟩) := by
  have hrankAttr : get_hdf5_int_attribute file policy_path "rank" = .ok (as_int policy.rank) :=
    get_hdf5_int_attribute_of_attr? (hstored.attr? (by simp [policy_attributes]))
  have hstring : ∀ {name text}, (name, string_data text) ∈ policy_attributes (.mdrange policy) →
      get_hdf5_string_attribute file policy_path name = .ok text :=
    fun hmem => get_hdf5_string_attribute_of_attr? (hstored.attr? hmem)
  have houterAttr := @hstring "outer_dir" policy.outer_dir (by simp [policy_attributes])
  have hinnerAttr := @hstring "inner_dir" policy.inner_dir (by simp [policy_attributes])
  have hdataset : ∀ {name values}, (name, stored_dataset (.int64 values)) ∈
      policy_datasets (.mdrange policy) → read_hdf5_int64_dataset file ["policy", name] = .ok values :=
    fun hmem => read_hdf5_int64_dataset_of_stored (hstored.datasets _ hmem)
  have hbegin := @hdataset "begin" policy.begin (by simp [policy_datasets])
  have hend := @hdataset "end" policy.end (by simp [policy_datasets])
  have htile := @hdataset "tile" policy.tile (by simp [policy_datasets])
  have hrankVar : mdrange_rank build (as_int policy.rank) = .ok policy.rank := mdrange_rank_ofNat hrank
  have hcommon : common_attributes "mdrange" ⟨index_type.size, index_type.is_signed⟩ space.name
      (schedule_to_string schedule) ⊆ policy_attributes (.mdrange policy) := by
    rw [policy_attributes, hindex, hname, hschedule]
    exact List.subset_append_left _ _
  rw [read_policy_common hstored hspace hcommon (by simp) (by simp), if_neg (by simp), if_pos rfl]
  simp only [read_mdrange_policy, hrankAttr, hrankVar, houterAttr, hinnerAttr, hbegin, hend, htile,
    iteration_pattern_from_to_string houter, iteration_pattern_from_to_string hinner, bind, Except.bind,
    pure, Except.pure]

/-- A stored team policy is read with its extents and scratch sizes. -/
theorem read_team_policy_of_stored {policy : krepe.TeamPolicyDesc}
    (hstored : PolicyStored policy_path (.team policy) file)
    (hindex : policy.index_type_desc = ⟨index_type.size, index_type.is_signed⟩)
    (hname : policy.space = space.name) (hspace : space ∈ exec_space_var build)
    (hschedule : policy.schedule = schedule_to_string schedule) :
    read_policy_from_hdf5 build file =
      .ok (.team ⟨policy.team_size, policy.league_size, policy.vector_length, policy.team_scratch_0,
        policy.team_scratch_1, policy.thread_scratch_0, policy.thread_scratch_1, policy.chunk_size,
        index_type, schedule, some space⟩) := by
  have hint : ∀ {name value}, (name, .int value) ∈ policy_attributes (.team policy) →
      get_hdf5_int_attribute file policy_path name = .ok value :=
    fun hmem => get_hdf5_int_attribute_of_attr? (hstored.attr? hmem)
  have hteam := @hint "team_size" policy.team_size (by simp [policy_attributes])
  have hleague := @hint "league_size" policy.league_size (by simp [policy_attributes])
  have hvector := @hint "vector_length" policy.vector_length (by simp [policy_attributes])
  have hteam0 := @hint "team_scratch_0" policy.team_scratch_0 (by simp [policy_attributes])
  have hteam1 := @hint "team_scratch_1" policy.team_scratch_1 (by simp [policy_attributes])
  have hthread0 := @hint "thread_scratch_0" policy.thread_scratch_0 (by simp [policy_attributes])
  have hthread1 := @hint "thread_scratch_1" policy.thread_scratch_1 (by simp [policy_attributes])
  have hchunk := @hint "chunk_size" policy.chunk_size (by simp [policy_attributes])
  have hcommon : common_attributes "team" ⟨index_type.size, index_type.is_signed⟩ space.name
      (schedule_to_string schedule) ⊆ policy_attributes (.team policy) := by
    rw [policy_attributes, hindex, hname, hschedule]
    exact List.subset_append_left _ _
  rw [read_policy_common hstored hspace hcommon (by simp) (by simp), if_neg (by simp),
    if_neg (by simp), if_pos rfl]
  simp only [read_team_policy, hteam, hleague, hvector, hteam0, hteam1, hthread0, hthread1, hchunk,
    bind, Except.bind, pure, Except.pure]

end

/-- Chunk and scratch sizes are in the range of the `int` fields of the format. -/
def FitsFormat : Policy → Prop
  | .scalar _ | .mdrange _ => True
  | .range policy =>
    -2 ^ 31 ≤ policy.index_type.toInt policy.chunk_size ∧
      policy.index_type.toInt policy.chunk_size < 2 ^ 31
  | .team policy =>
    (policy.team_scratch_size.level0.toNat < 2 ^ 31 ∧ policy.team_scratch_size.level1.toNat < 2 ^ 31) ∧
      policy.thread_scratch_size.level0.toNat < 2 ^ 31 ∧
      policy.thread_scratch_size.level1.toNat < 2 ^ 31

/-- The replayer is built for the execution space and the rank. -/
def Supported (build : ReplayBuild) : Policy → Prop
  | .scalar _ => True
  | .range policy => policy.execution_space ∈ exec_space_var build
  | .mdrange policy =>
    policy.execution_space ∈ exec_space_var build ∧ policy.rank ∈ mdrange_rank_var build
  | .team policy => policy.execution_space ∈ exec_space_var build

/-- The functor can be called with what the policy passes to it. -/
def Callable (functor : Functor) : Policy → Prop
  | .scalar _ | .range _ => functor.supports_n_args 1 = true
  | .mdrange policy => functor.supports_n_args policy.rank = true
  | .team policy =>
    functor.is_team_functor policy.execution_space policy.schedule_type policy.index_type = true

/-- A policy with its scratch sizes only where they can be queried. -/
def queried_policy (build : ExtractBuild) : Policy → Policy
  | .team policy =>
    if supports_querying_scratch_size build policy.execution_space then .team policy
    else .team { policy with team_scratch_size := .unset, thread_scratch_size := .unset }
  | policy => policy

section

variable {extract : ExtractBuild} {replay : ReplayBuild} {file : File} {desc : PolicyDesc}
  (label : String) {functor : Functor}

/-- A stored scalar policy launches the same number of indices. -/
theorem visit_scalar_of_stored {N : UInt64}
    (hstored : PolicyStored policy_path (register_bounds_scalar N) file)
    (hcallable : Callable functor (.scalar N)) :
    ∃ replay_policy, read_policy_from_hdf5 replay file = .ok replay_policy ∧
      ParallelForVisitor.visit ⟨label, functor⟩ replay_policy = .ok [⟨label, .scalar N, functor⟩] := by
  have htype : get_hdf5_string_attribute file policy_path "type" = .ok "scalar" :=
    get_hdf5_string_attribute_of_attr? (hstored.attr? List.mem_cons_self)
  have hend : get_hdf5_uint64_attribute file policy_path "end" = .ok N :=
    get_hdf5_uint64_attribute_of_attr? (hstored.attr? (List.mem_cons_of_mem _ List.mem_cons_self))
  have hcall : functor.supports_n_args 1 = true := hcallable
  refine ⟨.scalar ⟨N⟩, ?_, ?_⟩
  · simp [read_policy_from_hdf5, htype, hend, bind, Except.bind, pure, Except.pure]
  · simp only [ParallelForVisitor.visit, ParallelForVisitor.visit_scalar, hcall, if_true]
    rfl

/-- A stored range policy launches the same range. -/
theorem visit_range_of_stored {policy : RangePolicy}
    (hstored : PolicyStored policy_path (register_bounds_range policy) file)
    (hfits : FitsFormat (.range policy)) (hsupported : Supported replay (.range policy))
    (hcallable : Callable functor (.range policy)) :
    ∃ replay_policy, read_policy_from_hdf5 replay file = .ok replay_policy ∧
      ParallelForVisitor.visit ⟨label, functor⟩ replay_policy = .ok [⟨label, .range policy, functor⟩] := by
  refine ⟨_, read_range_policy_of_stored hstored rfl rfl hsupported rfl, ?_⟩
  have hcall : functor.supports_n_args 1 = true := hcallable
  simp only [ParallelForVisitor.visit, ParallelForVisitor.visit_range, hcall, if_true,
    get_range_policy, narrow_bound_index_type_to_u64, ofInt_narrowed hfits.1 hfits.2]
  rfl

/-- A direction which is resolved has a name. -/
theorem iteration_pattern_to_string_ok {direction : Iterate} (hresolved : direction ≠ .Default) :
    ∃ name, iteration_pattern_to_string direction = .ok name := by
  cases direction with
  | Default => exact absurd rfl hresolved
  | Left => exact ⟨"left", rfl⟩
  | Right => exact ⟨"right", rfl⟩

/-- Both directions of a policy are resolved, so that it can be described. -/
theorem register_bounds_mdrange_eq_ok (policy : MDRangePolicy) : ∃ outer_dir inner_dir,
    iteration_pattern_to_string policy.outer_direction = .ok outer_dir ∧
    iteration_pattern_to_string policy.inner_direction = .ok inner_dir ∧
    register_bounds_mdrange policy = .ok (.mdrange
      ⟨⟨policy.index_type.size, policy.index_type.is_signed⟩, policy.execution_space.name,
        schedule_to_string policy.schedule_type, policy.rank, outer_dir, inner_dir,
        policy.m_lower.toList, policy.m_upper.toList, policy.m_tile.toList⟩) := by
  have htake : ∀ values : Vector Int64 policy.rank, values.toList.take policy.rank = values.toList :=
    fun values => List.take_of_length_le (by simp)
  obtain ⟨outer_dir, houter⟩ := iteration_pattern_to_string_ok policy.outer_resolved
  obtain ⟨inner_dir, hinner⟩ := iteration_pattern_to_string_ok policy.inner_resolved
  refine ⟨outer_dir, inner_dir, houter, hinner, ?_⟩
  simp [register_bounds_mdrange, houter, hinner, bind, Except.bind, pure, Except.pure,
    get_index_type_props, register_mdrange_policy, krepe_kernel_dump_register_mdrange_policy, htake]

/-- Every policy is accepted, since Kokkos resolves the directions of a policy. -/
theorem register_bounds_ok (build : ExtractBuild) (policy : Policy) :
    ∃ desc, register_bounds build policy = .ok desc := by
  cases policy with
  | scalar N => exact ⟨_, rfl⟩
  | range policy => exact ⟨_, rfl⟩
  | mdrange policy =>
    obtain ⟨_, _, _, _, haccepted⟩ := register_bounds_mdrange_eq_ok policy
    exact ⟨_, haccepted⟩
  | team policy => exact ⟨_, rfl⟩

/-- A stored policy over several dimensions launches the same policy. -/
theorem visit_mdrange_of_stored {policy : MDRangePolicy}
    (haccepted : register_bounds_mdrange policy = .ok desc)
    (hstored : PolicyStored policy_path desc file) (hsupported : Supported replay (.mdrange policy))
    (hcallable : Callable functor (.mdrange policy)) :
    ∃ replay_policy, read_policy_from_hdf5 replay file = .ok replay_policy ∧
      ParallelForVisitor.visit ⟨label, functor⟩ replay_policy =
        .ok [⟨label, .mdrange policy, functor⟩] := by
  obtain ⟨outer_dir, inner_dir, houter, hinner, hbounds⟩ := register_bounds_mdrange_eq_ok policy
  rw [hbounds] at haccepted
  cases haccepted
  refine ⟨_, read_mdrange_policy_of_stored hstored rfl rfl hsupported.1 rfl hsupported.2 houter hinner, ?_⟩
  have hcall : functor.supports_n_args policy.rank = true := hcallable
  have hpolicy : ∀ outer inner (houter : outer ≠ .Default) (hinner : inner ≠ .Default),
      policy.outer_direction = outer → policy.inner_direction = inner →
      get_mdrange_policy policy.rank outer inner policy.execution_space policy.schedule_type
        policy.index_type policy.m_lower.toList policy.m_upper.toList policy.m_tile.toList
        houter hinner = .ok policy := by
    intro outer inner _ _ houter hinner
    subst houter hinner
    rw [get_mdrange_policy, copy_array_toList, copy_array_toList, copy_array_toList]
    rfl
  simp only [ParallelForVisitor.visit, ParallelForVisitor.visit_mdrange, hcall, if_true]
  -- A resolved direction which is not `Right` is `Left`.
  cases houterDir : policy.outer_direction with
  | Default => exact absurd houterDir policy.outer_resolved
  | Right =>
    cases hinnerDir : policy.inner_direction with
    | Default => exact absurd hinnerDir policy.inner_resolved
    | Right => simp [hpolicy .Right .Right _ _ houterDir hinnerDir, bind, Except.bind, pure, Except.pure]
    | Left => simp [hpolicy .Right .Left _ _ houterDir hinnerDir, bind, Except.bind, pure, Except.pure]
  | Left =>
    cases hinnerDir : policy.inner_direction with
    | Default => exact absurd hinnerDir policy.inner_resolved
    | Right => simp [hpolicy .Left .Right _ _ houterDir hinnerDir, bind, Except.bind, pure, Except.pure]
    | Left => simp [hpolicy .Left .Left _ _ houterDir hinnerDir, bind, Except.bind, pure, Except.pure]

/-- A stored team policy launches the same policy, its scratch sizes where they can be queried. -/
theorem visit_team_of_stored {policy : TeamPolicy}
    (hstored : PolicyStored policy_path (register_bounds_team extract policy) file)
    (hfits : FitsFormat (.team policy)) (hsupported : Supported replay (.team policy))
    (hcallable : Callable functor (.team policy)) :
    ∃ replay_policy, read_policy_from_hdf5 replay file = .ok replay_policy ∧
      ParallelForVisitor.visit ⟨label, functor⟩ replay_policy =
        .ok [⟨label, queried_policy extract (.team policy), functor⟩] := by
  refine ⟨_, read_team_policy_of_stored hstored rfl rfl hsupported rfl, ?_⟩
  have hcall : functor.is_team_functor policy.execution_space policy.schedule_type
      policy.index_type = true := hcallable
  obtain ⟨⟨hteam0, hteam1⟩, hthread0, hthread1⟩ := hfits
  simp only [ParallelForVisitor.visit, ParallelForVisitor.visit_team, hcall, if_true,
    get_team_policy, new_team_policy_extent, queried_policy]
  cases supports_querying_scratch_size extract policy.execution_space with
  | true =>
    simp only [if_true, scratch_description_of, ofNat_ne_sentinel hteam0, ne_eq, not_false_eq_true,
      as_size_t_ofNat hteam0, as_size_t_ofNat hteam1, as_size_t_ofNat hthread0,
      as_size_t_ofNat hthread1]
    rfl
  | false => simp [pure, Except.pure]

end

/-- Let a policy fit the format of a dump and be supported by the replayer, and let the functor
    be callable with it. The extractor can describe it, its descriptor can be written to a new
    group and read again, and the visitor then makes one launch with that policy and functor;
    scratch sizes are the same where they can be queried, and unset elsewhere. -/
theorem policy_round_trip (extract : ExtractBuild) (replay : ReplayBuild) (policy : Policy)
    (label : String) (functor : Functor) {file : File} (hfits : FitsFormat policy)
    (hsupported : Supported replay policy) (hcallable : Callable functor policy)
    (hgroup : file policy_path = some (.group Group.empty)) :
    ∃ desc final replay_policy, register_bounds extract policy = .ok desc ∧
      exec (write_policy policy_path desc) file = some final ∧
      read_policy_from_hdf5 replay final = .ok replay_policy ∧
      ParallelForVisitor.visit ⟨label, functor⟩ replay_policy =
        .ok [⟨label, queried_policy extract policy, functor⟩] := by
  obtain ⟨desc, haccepted⟩ := register_bounds_ok extract policy
  obtain ⟨final, hfinal, hstored, _⟩ := write_policy_stored desc hgroup
  suffices hvisit : ∃ replay_policy, read_policy_from_hdf5 replay final = .ok replay_policy ∧
      ParallelForVisitor.visit ⟨label, functor⟩ replay_policy =
        .ok [⟨label, queried_policy extract policy, functor⟩] by
    obtain ⟨replay_policy, hread, hlaunch⟩ := hvisit
    exact ⟨desc, final, replay_policy, haccepted, hfinal, hread, hlaunch⟩
  cases policy with
  | scalar N =>
    cases haccepted
    exact visit_scalar_of_stored label hstored hcallable
  | range policy =>
    cases haccepted
    exact visit_range_of_stored label hstored hfits hsupported hcallable
  | mdrange policy => exact visit_mdrange_of_stored label haccepted hstored hsupported hcallable
  | team policy =>
    cases haccepted
    exact visit_team_of_stored label hstored hfits hsupported hcallable

/-- A team policy with one extent left to Kokkos, on a backend whose scratch sizes can be
    queried. -/
theorem policy_round_trip_example :
    let policy : Policy := .team ⟨.Cuda, .Dynamic, .int32, 7, .AUTO, .fixed 32 (by decide), ⟨64, 0⟩,
      ⟨8, 1024⟩, 4⟩
    let functor : Functor := ⟨[1, 2], fun _ => false, fun space _ _ => space = .Cuda⟩
    ∃ desc final replay_policy,
      register_bounds ⟨false, true, false, false⟩ policy = .ok desc ∧
      exec (write_policy policy_path desc) (Function.update (fun _ => none) policy_path
        (some (.group Group.empty))) = some final ∧
      read_policy_from_hdf5 ⟨fun _ => true, true⟩ final = .ok replay_policy ∧
      ParallelForVisitor.visit ⟨"kernel", functor⟩ replay_policy = .ok [⟨"kernel", policy, functor⟩] := by
  intro policy functor
  exact policy_round_trip ⟨false, true, false, false⟩ ⟨fun _ => true, true⟩ policy "kernel" functor
    ⟨⟨by decide, by decide⟩, by decide, by decide⟩ (List.mem_filter.mpr ⟨by decide, rfl⟩) rfl
    (Function.update_self policy_path _ _)

end krepe.impl
