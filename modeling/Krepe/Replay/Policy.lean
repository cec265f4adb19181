import Krepe.Kokkos.Policy
import Krepe.Replay.Hdf5

open std hdf5 kokkos

namespace krepe

/-- The Kokkos which the replayer is built with. -/
structure ReplayBuild where
  enabled : ExecutionSpace → Bool
  /-- Kokkos 5.2 or later. -/
  kokkos_5_2 : Bool

namespace impl

/-- The execution spaces of `exec_space_var_t`. -/
def exec_space_var (build : ReplayBuild) : List ExecutionSpace :=
  [.Serial, .OpenMP, .Threads, .HPX, .Cuda, .HIP].filter build.enabled

/-- The ranks of `mdrange_rank_var_t`. -/
def mdrange_rank_var (build : ReplayBuild) : List Nat :=
  if build.kokkos_5_2 then [1, 2, 3, 4, 5, 6] else [2, 3, 4, 5, 6]

/-- The number of indices of a launch. -/
structure ScalarPolicyDesc where
  N : UInt64
  deriving DecidableEq, Repr

/-- An execution space is `none` for the `std::monostate`. -/
structure RangePolicyDesc where
  begin : UInt64
  «end» : UInt64
  chunk_size : Int32
  index_type : IndexType
  schedule : Schedule
  exec_space : Option ExecutionSpace
  deriving DecidableEq, Repr

/-- A policy over several dimensions as it was read. -/
structure MDRangePolicyDesc where
  begin : List Int64
  «end» : List Int64
  tile : List Int64
  index_type : IndexType
  schedule : Schedule
  exec_space : Option ExecutionSpace
  /-- The value of the integral constant. -/
  rank : Nat
  outer_iter_dir : Iterate
  inner_iter_dir : Iterate
  deriving DecidableEq, Repr

/-- A team policy as it was read, with -1 for extents and scratch sizes that are not known. -/
structure TeamPolicyDesc where
  team_size : Int32
  league_size : Int32
  vector_length : Int32
  team_scratch_0 : Int32
  team_scratch_1 : Int32
  thread_scratch_0 : Int32
  thread_scratch_1 : Int32
  chunk_size : Int32
  index_type : IndexType
  schedule : Schedule
  exec_space : Option ExecutionSpace
  deriving DecidableEq, Repr

/-- The policy which a guard has read; `monostate` before that, and for a dump without a policy. -/
inductive PolicyVar where
  | monostate
  | scalar (policy : ScalarPolicyDesc)
  | range (policy : RangePolicyDesc)
  | mdrange (policy : MDRangePolicyDesc)
  | team (policy : TeamPolicyDesc)
  deriving DecidableEq, Repr

/-- The index type of a size and a sign. -/
def get_policy_index_type_from_props (index_type_signed : Bool) (index_type_size : UInt64) :
    Except Failure IndexType :=
  if index_type_signed then
    match index_type_size with
    | 1 => pure .int8
    | 2 => pure .int16
    | 4 => pure .int32
    | 8 => pure .int64
    | _ => throw (.runtime_error ("unexpected index type size " ++ to_string index_type_size.toNat))
  else
    match index_type_size with
    | 1 => pure .uint8
    | 2 => pure .uint16
    | 4 => pure .uint32
    | 8 => pure .uint64
    | _ => throw (.runtime_error ("unexpected index type size " ++ to_string index_type_size.toNat))

/-- The schedule of a name. -/
def get_policy_schedule_from_name (schedule : String) : Except Failure Schedule :=
  if schedule = "static" then pure .Static
  else if schedule = "dynamic" then pure .Dynamic
  else throw (.runtime_error ("Unexpected schedule type '" ++ schedule ++ "' found in the dump"))

/-- The enabled execution space of a name. -/
def get_policy_exec_space_from_name (build : ReplayBuild) (space : String) :
    Except Failure (Option ExecutionSpace) :=
  if build.enabled .Serial ∧ space = "Serial" then pure (some .Serial)
  else if build.enabled .OpenMP ∧ space = "OpenMP" then pure (some .OpenMP)
  else if build.enabled .Threads ∧ space = "Threads" then pure (some .Threads)
  else if build.enabled .HPX ∧ space = "HPX" then pure (some .HPX)
  else if build.enabled .Cuda ∧ space = "Cuda" then pure (some .Cuda)
  else if build.enabled .HIP ∧ space = "HIP" then pure (some .HIP)
  else throw (.runtime_error ("No enabled execution space corresponds to " ++ space))

/-- The ranks for which the replayer has an integral constant. -/
def mdrange_rank (build : ReplayBuild) (rank : Int32) : Except Failure Nat :=
  if build.kokkos_5_2 ∧ rank = 1 then pure 1
  else if rank = 2 then pure 2
  else if rank = 3 then pure 3
  else if rank = 4 then pure 4
  else if rank = 5 then pure 5
  else if rank = 6 then pure 6
  else throw (.runtime_error ("Unexpected mdrange policy rank " ++ toString rank.toInt))

/-- The direction of a name; a dump never names the default direction. -/
def iteration_pattern_from_string (dir_name : String) : Except Failure Iterate :=
  if dir_name = "left" then pure .Left
  else if dir_name = "right" then pure .Right
  else throw (.runtime_error ("Unexpected iteration pattern '" ++ dir_name ++ "'"))

/-- The name of each enabled execution space reads back as that space. -/
theorem get_policy_exec_space_from_name_name {build : ReplayBuild} {space : ExecutionSpace}
    (hspace : space ∈ exec_space_var build) :
    get_policy_exec_space_from_name build space.name = .ok (some space) := by
  obtain ⟨hreplayable, henabled⟩ := List.mem_filter.mp hspace
  cases space <;> simp_all [get_policy_exec_space_from_name, ExecutionSpace.name] <;> rfl

/-- A rank which the build supports is accepted. -/
theorem mdrange_rank_ofNat {build : ReplayBuild} {rank : Nat} (hrank : rank ∈ mdrange_rank_var build) :
    mdrange_rank build (Int32.ofNat rank) = .ok rank := by
  have hcases : build.kokkos_5_2 = true ∧ rank = 1 ∨ 2 ≤ rank ∧ rank ≤ 6 := by
    unfold mdrange_rank_var at hrank
    split at hrank
    · next hbuild =>
      simp only [hbuild, true_and, List.mem_cons, List.not_mem_nil, or_false] at hrank ⊢
      omega
    · simp only [List.mem_cons, List.not_mem_nil, or_false] at hrank
      omega
  rcases hcases with ⟨hbuild, rfl⟩ | ⟨hlow, hhigh⟩
  · simp [mdrange_rank, hbuild, pure, Except.pure]
  · interval_cases rank <;> simp [mdrange_rank, pure, Except.pure]

/-- The group with the policy. -/
def policy_path : Path := ["policy"]

/-- Reads what is particular to a range policy. -/
def read_range_policy (file : File) (index_type : IndexType) (schedule : Schedule)
    (exec_space : Option ExecutionSpace) : Except Failure PolicyVar := do
  let begin ← get_hdf5_uint64_attribute file policy_path "begin"
  let «end» ← get_hdf5_uint64_attribute file policy_path "end"
  let chunk_size ← get_hdf5_int_attribute file policy_path "chunk_size"
  pure (.range ⟨begin, «end», chunk_size, index_type, schedule, exec_space⟩)

/-- Reads what is particular to a policy over several dimensions, whose rank has to be one that
    the build supports. -/
def read_mdrange_policy (build : ReplayBuild) (file : File) (index_type : IndexType)
    (schedule : Schedule) (exec_space : Option ExecutionSpace) : Except Failure PolicyVar := do
  let rank ← get_hdf5_int_attribute file policy_path "rank"
  let policy_rank ← mdrange_rank build rank
  let outer_dir_name ← get_hdf5_string_attribute file policy_path "outer_dir"
  let outer_dir ← iteration_pattern_from_string outer_dir_name
  let inner_dir_name ← get_hdf5_string_attribute file policy_path "inner_dir"
  let inner_dir ← iteration_pattern_from_string inner_dir_name
  let begin ← read_hdf5_int64_dataset file ["policy", "begin"]
  let «end» ← read_hdf5_int64_dataset file ["policy", "end"]
  let tile ← read_hdf5_int64_dataset file ["policy", "tile"]
  pure (.mdrange ⟨begin, «end», tile, index_type, schedule, exec_space, policy_rank, outer_dir,
    inner_dir⟩)

/-- Reads what is particular to a team policy. -/
def read_team_policy (file : File) (index_type : IndexType) (schedule : Schedule)
    (exec_space : Option ExecutionSpace) : Except Failure PolicyVar := do
  let team_size ← get_hdf5_int_attribute file policy_path "team_size"
  let league_size ← get_hdf5_int_attribute file policy_path "league_size"
  let vector_length ← get_hdf5_int_attribute file policy_path "vector_length"
  let team_scratch_0 ← get_hdf5_int_attribute file policy_path "team_scratch_0"
  let team_scratch_1 ← get_hdf5_int_attribute file policy_path "team_scratch_1"
  let thread_scratch_0 ← get_hdf5_int_attribute file policy_path "thread_scratch_0"
  let thread_scratch_1 ← get_hdf5_int_attribute file policy_path "thread_scratch_1"
  let chunk_size ← get_hdf5_int_attribute file policy_path "chunk_size"
  pure (.team ⟨team_size, league_size, vector_length, team_scratch_0, team_scratch_1,
    thread_scratch_0, thread_scratch_1, chunk_size, index_type, schedule, exec_space⟩)

/-- The value of `replay_policy` after the call. -/
def read_policy_from_hdf5 (build : ReplayBuild) (file : File) : Except Failure PolicyVar := do
  let type ← get_hdf5_string_attribute file policy_path "type"
  if type = "none" then return .monostate
  if type = "scalar" then
    let N ← get_hdf5_uint64_attribute file policy_path "end"
    return .scalar ⟨N⟩
  let index_type_signed ← get_hdf5_int_attribute file policy_path "index_type_signed"
  let index_type_size ← get_hdf5_int_attribute file policy_path "index_type_size"
  let index_type ← get_policy_index_type_from_props (index_type_signed != 0)
    index_type_size.toInt64.toUInt64
  let exec_space_name ← get_hdf5_string_attribute file policy_path "space"
  let exec_space ← get_policy_exec_space_from_name build exec_space_name
  let schedule_name ← get_hdf5_string_attribute file policy_path "schedule"
  let schedule ← get_policy_schedule_from_name schedule_name
  if type = "range" then read_range_policy file index_type schedule exec_space
  else if type = "mdrange" then read_mdrange_policy build file index_type schedule exec_space
  else if type = "team" then read_team_policy file index_type schedule exec_space
  else throw (.runtime_error ("Unknown policy type '" ++ type ++ "'"))

end impl
end krepe
