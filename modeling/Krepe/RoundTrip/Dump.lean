import Krepe.Capture.ViewDump.Contents
import Krepe.PolicyRoundTrip
import Krepe.Replay.Load.Frame
import Krepe.Replay.Load.Input
import Krepe.Replay.Load.Output
import Krepe.RoundTrip.Snapshot

open std hdf5 outcome

namespace krepe

open impl

/-- The process goes on with an access which it may not make, where an exception
    would have ended the load. -/
def Fault (failure : Failure) : Prop :=
  failure = .segmentation_fault ∨ failure = .undefined_behavior

@[simp]
theorem not_fault_runtime_error (what : String) : ¬ Fault (.runtime_error what) := by
  simp [Fault]

@[simp]
theorem not_fault_bad_alloc : ¬ Fault .bad_alloc := by
  simp [Fault]

section

variable {file : File}

theorem index_type_ends (index_type_signed : Bool) (index_type_size : UInt64) :
    Ends (fun failure => ¬ Fault failure) (fun _ => True)
      (get_policy_index_type_from_props index_type_signed index_type_size) := by
  unfold get_policy_index_type_from_props
  split <;> split <;> simp

theorem exec_space_ends (build : ReplayBuild) (space : String) :
    Ends (fun failure => ¬ Fault failure) (fun _ => True) (get_policy_exec_space_from_name build space) := by
  unfold get_policy_exec_space_from_name
  split_ifs <;> simp

theorem schedule_ends (schedule : String) :
    Ends (fun failure => ¬ Fault failure) (fun _ => True) (get_policy_schedule_from_name schedule) := by
  unfold get_policy_schedule_from_name
  split_ifs <;> simp

theorem iteration_pattern_ends (dir_name : String) :
    Ends (fun failure => ¬ Fault failure) (fun _ => True) (iteration_pattern_from_string dir_name) := by
  unfold iteration_pattern_from_string
  split_ifs <;> simp

theorem mdrange_rank_ends (build : ReplayBuild) (rank : Int32) :
    Ends (fun failure => ¬ Fault failure) (fun _ => True) (mdrange_rank build rank) := by
  unfold mdrange_rank
  split_ifs <;> simp

/-- After the part which the policies share, only the part of its own remains. -/
theorem read_policy_common_ends {policy : PolicyDesc} {type space schedule : String}
    {index_type_desc : IndexTypeDesc} (hstored : PolicyStored policy_path policy file)
    (hcommon : common_attributes type index_type_desc space schedule ⊆ policy_attributes policy)
    (hnone : type ≠ "none") (hscalar : type ≠ "scalar") {build : ReplayBuild}
    (hrest : ∀ index_type schedule exec_space, Ends (fun failure => ¬ Fault failure) (fun _ => True)
      (if type = "range" then read_range_policy file index_type schedule exec_space
      else if type = "mdrange" then read_mdrange_policy build file index_type schedule exec_space
      else if type = "team" then read_team_policy file index_type schedule exec_space
      else throw (.runtime_error ("Unknown policy type '" ++ type ++ "'")))) :
    Ends (fun failure => ¬ Fault failure) (fun _ => True) (read_policy_from_hdf5 build file) := by
  rw [read_policy_shared hstored hcommon hnone hscalar]
  refine (index_type_ends _ _).bind fun index_type _ => ?_
  refine (exec_space_ends build space).bind fun exec_space _ => ?_
  exact (schedule_ends schedule).bind fun schedule _ => hrest index_type schedule exec_space

/-- Whatever the policy is, to read it is no fault. -/
theorem read_policy_ends {policy : PolicyDesc} (hstored : PolicyStored policy_path policy file)
    (build : ReplayBuild) :
    Ends (fun failure => ¬ Fault failure) (fun _ => True) (read_policy_from_hdf5 build file) := by
  have hstring : ∀ {name text}, (name, string_data text) ∈ policy_attributes policy →
      get_hdf5_string_attribute file policy_path name = .ok text :=
    fun hmem => get_hdf5_string_attribute_of_attr? (hstored.attr? hmem)
  have hint : ∀ {name value}, (name, .int value) ∈ policy_attributes policy →
      get_hdf5_int_attribute file policy_path name = .ok value :=
    fun hmem => get_hdf5_int_attribute_of_attr? (hstored.attr? hmem)
  have huint64 : ∀ {name value}, (name, .uint64 value) ∈ policy_attributes policy →
      get_hdf5_uint64_attribute file policy_path name = .ok value :=
    fun hmem => get_hdf5_uint64_attribute_of_attr? (hstored.attr? hmem)
  cases policy with
  | no_policy =>
    rw [read_policy_from_hdf5, @hstring "type" "none" (by simp [policy_attributes])]
    trivial
  | scalar policy =>
    rw [read_policy_from_hdf5, @hstring "type" "scalar" (by simp [policy_attributes]),
      @huint64 "end" policy.end (by simp [policy_attributes])]
    trivial
  | range policy =>
    refine read_policy_common_ends hstored (List.subset_append_left _ _) (by simp) (by simp)
      fun index_type schedule exec_space => ?_
    rw [if_pos rfl, read_range_policy, @huint64 "begin" policy.begin (by simp [policy_attributes]),
      @huint64 "end" policy.end (by simp [policy_attributes]),
      @hint "chunk_size" policy.chunk_size (by simp [policy_attributes])]
    trivial
  | mdrange policy =>
    have hdataset : ∀ {name values}, (name, stored_dataset (.int64 values)) ∈
        policy_datasets (.mdrange policy) → read_hdf5_int64_dataset file ["policy", name] = .ok values :=
      fun hmem => read_hdf5_int64_dataset_of_stored (hstored.datasets _ hmem)
    refine read_policy_common_ends hstored (List.subset_append_left _ _) (by simp) (by simp)
      fun index_type schedule exec_space => ?_
    rw [if_neg (by simp), if_pos rfl, read_mdrange_policy,
      @hint "rank" (as_int policy.rank) (by simp [policy_attributes]),
      @hstring "outer_dir" policy.outer_dir (by simp [policy_attributes]),
      @hstring "inner_dir" policy.inner_dir (by simp [policy_attributes]),
      @hdataset "begin" policy.begin (by simp [policy_datasets]),
      @hdataset "end" policy.end (by simp [policy_datasets]),
      @hdataset "tile" policy.tile (by simp [policy_datasets])]
    refine (mdrange_rank_ends build _).bind fun rank _ => ?_
    refine (iteration_pattern_ends policy.outer_dir).bind fun outer_dir _ => ?_
    exact (iteration_pattern_ends policy.inner_dir).bind fun inner_dir _ => trivial
  | team policy =>
    refine read_policy_common_ends hstored (List.subset_append_left _ _) (by simp) (by simp)
      fun index_type schedule exec_space => ?_
    rw [if_neg (by simp), if_neg (by simp), if_pos rfl, read_team_policy,
      @hint "team_size" policy.team_size (by simp [policy_attributes]),
      @hint "league_size" policy.league_size (by simp [policy_attributes]),
      @hint "vector_length" policy.vector_length (by simp [policy_attributes]),
      @hint "team_scratch_0" policy.team_scratch_0 (by simp [policy_attributes]),
      @hint "team_scratch_1" policy.team_scratch_1 (by simp [policy_attributes]),
      @hint "thread_scratch_0" policy.thread_scratch_0 (by simp [policy_attributes]),
      @hint "thread_scratch_1" policy.thread_scratch_1 (by simp [policy_attributes]),
      @hint "chunk_size" policy.chunk_size (by simp [policy_attributes])]
    trivial

end

section

variable {machine : CaptureMachine} {dump : KernelDump} {file : File}

/-- The entries of a dump, as they are visited. -/
def input_entries (machine : CaptureMachine) (replay : ReplayMachine) (dump : KernelDump) : List Entry :=
  (visited replay dump.input_snapshot.allocations).map fun position => stored_entry machine position.1

theorem mem_input_entries {replay : ReplayMachine} {entry : Entry} :
    entry ∈ input_entries machine replay dump ↔
      ∃ allocation ∈ dump.input_snapshot.allocations, stored_entry machine allocation = entry :=
  mem_map_visited

/-- An allocation was dumped when its memory is reserved from its group. -/
theorem dumped_of_reservable {replay : ReplayMachine} {allocation : ActiveAllocation}
    (hreservable : ∀ memory_space, (stored_entry machine allocation).Reservable replay memory_space) :
    Dumped machine allocation := by
  by_contra hskipped
  exact (hreservable _).1 rfl (if_neg hskipped)

/-- A stored dump is visited with the entries of its inputs. -/
theorem DumpStored.visits (hstored : DumpStored machine dump file) (replay : ReplayMachine) :
    Visits replay file ScopeGuard.in_views (input_entries machine replay dump) := by
  obtain ⟨written, hwritten, hsame⟩ := hstored.input
  have hnew : ∀ path, ["in"] <+: path → labelled_file dump path = none := by
    rintro path ⟨rest, rfl⟩
    exact labelled_file_of_ne (by simp)
  exact (visits_of_snapshot hwritten hnew replay).congr fun path hpath =>
    hsame path ((List.prefix_append _ _).trans hpath)

/-- The group of an allocation in a dump. -/
theorem DumpStored.reads (hstored : DumpStored machine dump file) {position : ActiveAllocation × Nat}
    (hposition : position ∈ dump.input_snapshot.allocations.zipIdx) :
    Reads file (position_path "in" position) (stored_entry machine position.1) := by
  obtain ⟨written, hwritten, hsame⟩ := hstored.input
  have hnew : ∀ path, ["in"] <+: path → labelled_file dump path = none := by
    rintro path ⟨rest, rfl⟩
    exact labelled_file_of_ne (by simp)
  exact (reads_of_snapshot hposition hwritten hnew).congr fun path hpath =>
    hsame path ((List.prefix_append _ _).trans hpath)

/-- The metadata of a stored dump can be read. -/
theorem DumpStored.read_metadata (hstored : DumpStored machine dump file) (replay : ReplayMachine) :
    ∃ metadata, impl.read_metadata replay file = .ok metadata := by
  obtain ⟨hnodup, hgroup⟩ := hstored.metadata
  have hends : Ends (fun _ => False) (fun _ => True) (impl.read_metadata replay file) := by
    rw [impl.read_metadata, File.group?_eq_some.mpr hgroup]
    refine @ends_foldlM _ _ _ _ (fun _ _ => True) _ _ _ trivial
      fun before name after metadata hnames _ => ?_
    have hname : name ∈ (metadata_attributes dump.metadata).map Prod.fst :=
      (replay.iteration_order_perm _).subset (hnames ▸ by simp)
    obtain ⟨⟨key, value⟩, hattr, rfl⟩ := List.mem_map.mp hname
    obtain ⟨entry, _, hentry⟩ := List.mem_map.mp hattr
    have hread : get_hdf5_string_attribute file ["metadata"] key = .ok entry.2 := by
      refine get_hdf5_string_attribute_of_attr? ?_
      rw [File.attr?_of_mem hgroup hnodup hattr]
      exact congrArg some (Prod.ext_iff.mp hentry).2.symm
    rw [read_hdf5_metadata, hread]
    trivial
  obtain ⟨metadata, hread, _⟩ := hends.eq_ok
  exact ⟨metadata, hread⟩

theorem read_functor_array_of_stored {dataset_name : Path} {data : List UInt8}
    (hdataset : file dataset_name = some (.dataset (stored_dataset (.uchar data)))) (expr : String) :
    read_functor_array file dataset_name expr = .ok data := by
  rw [read_functor_array, open_uchar_dataset, File.dataset?_eq_some.mpr hdataset]
  by_cases hempty : data = []
  · subst hempty
    rfl
  · have hlength : elements_size (.uchar data) ≠ 0 := by simpa [elements_size] using hempty
    simp [stored_dataset, Hdf5Datatype, hlength, read_uchar, Dataset.read_uchar, bind, Except.bind, pure,
      Except.pure]

/-- The functor of a stored dump is read with its bytes, and with those of the host lambda where
    the workaround is in use. -/
theorem DumpStored.read_functor (hstored : DumpStored machine dump file) (replay : ReplayMachine) :
    read_functor_from_hdf5 replay file = .ok (dump.functor_data,
      if replay.use_nvcc_hdl_workaround then dump.nvcc_inner_lambda_data else []) := by
  rw [read_functor_from_hdf5, read_functor_array_of_stored hstored.functor,
    read_functor_array_of_stored hstored.nvcc_inner_lambda]
  cases replay.use_nvcc_hdl_workaround <;> rfl

/-- Whatever the policy is, to read it is no fault. -/
theorem DumpStored.read_policy (hstored : DumpStored machine dump file) (build : ReplayBuild) :
    Ends (fun failure => ¬ Fault failure) (fun _ => True) (read_policy_from_hdf5 build file) :=
  read_policy_ends hstored.policy build

theorem DumpStored.has_output (hstored : DumpStored machine dump file) :
    ScopeGuard.has_output file = .ok false := by
  obtain ⟨root, hroot, hlinks⟩ := hstored.root
  simp [ScopeGuard.has_output, File.group?_eq_some.mpr hroot, hlinks, pure, Except.pure]

/-- A dump without outputs is loaded by its inputs alone. -/
theorem DumpStored.load (hstored : DumpStored machine dump file) (replay : ReplayMachine) :
    ScopeGuard.load replay file = ScopeGuard.load_input replay file := by
  rw [ScopeGuard.load]
  simp only [load_output_of_none hstored.has_output]
  cases ScopeGuard.load_input replay file <;> rfl

end

end krepe
