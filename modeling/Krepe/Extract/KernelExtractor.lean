import Krepe.Capture.KokkosHooks.Policy
import Krepe.Common.Text
import Krepe.Kokkos.Policy

open std kokkos

namespace krepe

/-- The Kokkos which an application is built with. -/
structure ExtractBuild where
  /-- Kokkos 5.3 or later. -/
  kokkos_5_3 : Bool
  enable_cuda : Bool
  enable_hip : Bool
  enable_sycl : Bool

namespace impl

/-- The scratch sizes of the two levels as `int` values, -1 where they are not known. -/
structure scratch_description where
  level0 : Int32
  level1 : Int32

/-- Each function of the extractor calls the hook of the same name, since the
    tool is loaded. -/
def register_scalar_policy (N : UInt64) : PolicyDesc := krepe_kernel_dump_register_scalar_policy N

/-- Hands a range policy to the hook of the tool. -/
def register_range_policy (space schedule : String) (index_type_size : Nat)
    (index_type_signed : Bool) (begin «end» : UInt64) (chunk_size : Int32) : PolicyDesc :=
  krepe_kernel_dump_register_range_policy space schedule index_type_size index_type_signed begin
    «end» chunk_size

/-- Hands a policy over several dimensions to the hook of the tool. -/
def register_mdrange_policy (space schedule : String) (rank : Nat) (outer_dir inner_dir : String)
    (index_type_size : Nat) (index_type_signed : Bool) (begin «end» tile : List Int64) : PolicyDesc :=
  krepe_kernel_dump_register_mdrange_policy space schedule rank outer_dir inner_dir index_type_size
    index_type_signed begin «end» tile

/-- Hands a team policy to the hook of the tool, with the levels of scratch memory side by side. -/
def register_team_policy (space schedule : String) (index_type_size : Nat) (index_type_signed : Bool)
    (team_size league_size vector_length : Int32) (team_scratch thread_scratch : scratch_description)
    (chunk_size : Int32) : PolicyDesc :=
  krepe_kernel_dump_register_team_policy space schedule index_type_size index_type_signed team_size
    league_size vector_length team_scratch.level0 team_scratch.level1 thread_scratch.level0
    thread_scratch.level1 chunk_size

/-- The size of an index type and whether it has a sign. -/
def get_index_type_props (index_type : IndexType) : Nat × Bool :=
  (index_type.size, index_type.is_signed)

/-- A signed index goes through `std::int64_t`, and so is extended by its sign. -/
def index_type_to_u64 (index_type : IndexType) (N : index_type.Value) : UInt64 :=
  if index_type.is_signed then
    let lN := Int64.ofInt (index_type.toInt N)
    lN.toUInt64
  else UInt64.ofNat N.toNat

/-- The name of a direction in a dump; the default direction is resolved by the constructor of
    the policy. -/
def iteration_pattern_to_string : Iterate → Except Failure String
  | .Left => pure "left"
  | .Right => pure "right"
  | .Default =>
    throw (.runtime_error "default iteration pattern should already be resolved at this point")

/-- The name of a schedule in a dump. -/
def schedule_to_string : Schedule → String
  | .Static => "static"
  | .Dynamic => "dynamic"

/-- The descriptor for a number of indices. -/
def register_bounds_scalar (upper_bound : UInt64) : PolicyDesc := register_scalar_policy upper_bound

/-- The bounds are widened to 64 bits, and the chunk size becomes an `int`. -/
def register_bounds_range (policy : RangePolicy) : PolicyDesc :=
  let (idx_type_size, idx_type_signed) := get_index_type_props policy.index_type
  let begin := index_type_to_u64 policy.index_type policy.begin
  let «end» := index_type_to_u64 policy.index_type policy.end
  register_range_policy policy.execution_space.name (schedule_to_string policy.schedule_type)
    idx_type_size idx_type_signed begin «end» (Int32.ofInt (policy.index_type.toInt policy.chunk_size))

/-- The bounds and the tile as the policy stores them, and the directions by their names. -/
def register_bounds_mdrange (policy : MDRangePolicy) : Except Failure PolicyDesc := do
  let (idx_type_size, idx_type_signed) := get_index_type_props policy.index_type
  let outer_dir ← iteration_pattern_to_string policy.outer_direction
  let inner_dir ← iteration_pattern_to_string policy.inner_direction
  pure (register_mdrange_policy policy.execution_space.name
    (schedule_to_string policy.schedule_type) policy.rank outer_dir inner_dir idx_type_size
    idx_type_signed policy.m_lower.toList policy.m_upper.toList policy.m_tile.toList)

/-- Before Kokkos 5.3 the scratch size can be queried on one backend at most:
    the first of the three that is enabled. -/
def supports_querying_scratch_size (build : ExtractBuild) (execution_space : ExecutionSpace) : Bool :=
  if build.kokkos_5_3 then true
  else if build.enable_cuda then execution_space = .Cuda
  else if build.enable_hip then execution_space = .HIP
  else if build.enable_sycl then execution_space = .SYCL
  else false

/-- A size given to Kokkos, and `-1` for one left to Kokkos. -/
def extent_or_auto : TeamExtent → Int32
  | .AUTO => -1
  | .fixed value _ => value

/-- The two levels of a scratch size, narrowed to `int`. -/
def scratch_description_of (scratch : ScratchSize) : scratch_description :=
  ⟨Int32.ofNat scratch.level0.toNat, Int32.ofNat scratch.level1.toNat⟩

/-- Extents which Kokkos chooses become -1, and so do scratch sizes which cannot be queried. -/
def register_bounds_team (build : ExtractBuild) (policy : TeamPolicy) : PolicyDesc :=
  let (idx_type_size, idx_type_signed) := get_index_type_props policy.index_type
  let queryable := supports_querying_scratch_size build policy.execution_space
  let team_scratch := if queryable then scratch_description_of policy.team_scratch_size else ⟨-1, -1⟩
  let thread_scratch :=
    if queryable then scratch_description_of policy.thread_scratch_size else ⟨-1, -1⟩
  let team_size := extent_or_auto policy.team_size
  let vector_length := extent_or_auto policy.vector_length
  register_team_policy policy.execution_space.name (schedule_to_string policy.schedule_type)
    idx_type_size idx_type_signed team_size policy.league_size vector_length team_scratch
    thread_scratch policy.chunk_size

/-- The policy which the hooks hold after the call. -/
def register_bounds (build : ExtractBuild) : Policy → Except Failure PolicyDesc
  | .scalar upper_bound => pure (register_bounds_scalar upper_bound)
  | .range policy => pure (register_bounds_range policy)
  | .mdrange policy => register_bounds_mdrange policy
  | .team policy => pure (register_bounds_team build policy)

end impl
end krepe
