import Krepe.PolicyRoundTrip

open std kokkos

namespace krepe

/-! What a descriptor says of a policy, field by field, apart from the functions
which register it. -/

/-- The size in bytes and the sign of an index type. -/
structure DescribesIndexType (index_type : IndexType) (desc : IndexTypeDesc) : Prop where
  size : desc.size = index_type.size
  is_signed : desc.is_signed = index_type.is_signed

/-- The name of a schedule. -/
inductive DescribesSchedule : Schedule → String → Prop where
  | static : DescribesSchedule .Static "static"
  | dynamic : DescribesSchedule .Dynamic "dynamic"

/-- The name of a direction, which Kokkos has resolved. -/
inductive DescribesDirection : Iterate → String → Prop where
  | left : DescribesDirection .Left "left"
  | right : DescribesDirection .Right "right"

/-- Eight bytes are congruent to the bound of an iteration. -/
def DescribesBound (index_type : IndexType) (bound : index_type.Value) (stored : UInt64) : Prop :=
  (stored.toNat : Int) = index_type.toInt bound % 2 ^ 64

/-- An `int` holds a number: the number itself if it is between the bounds of
    `int`, and what is congruent to it otherwise. -/
def DescribesInt (number : Int) (stored : Int32) : Prop := stored.toInt = number.bmod (2 ^ 32)

/-- A team size or a vector length which is given, and `-1` for one which is left
    to Kokkos. -/
inductive DescribesExtent : TeamExtent → Int32 → Prop where
  | auto : DescribesExtent .AUTO (-1)
  | fixed (value : Int32) (hnonneg : 0 ≤ value) : DescribesExtent (.fixed value hnonneg) value

/-- Kokkos can be asked for the scratch sizes of a team policy: from version 5.3 on,
    and before it on the first enabled one of three execution spaces. -/
inductive ScratchKnown (build : ExtractBuild) : ExecutionSpace → Prop where
  | any (space : ExecutionSpace) (hversion : build.kokkos_5_3 = true) : ScratchKnown build space
  | cuda (hcuda : build.enable_cuda = true) : ScratchKnown build .Cuda
  | hip (hcuda : build.enable_cuda = false) (hhip : build.enable_hip = true) : ScratchKnown build .HIP
  | sycl (hcuda : build.enable_cuda = false) (hhip : build.enable_hip = false)
      (hsycl : build.enable_sycl = true) : ScratchKnown build .SYCL

/-- A scratch size, and `-1` where it cannot be asked for. -/
structure DescribesScratch (Known : Prop) (size : UInt64) (stored : Int32) : Prop where
  known : Known → DescribesInt size.toNat stored
  unknown : ¬Known → stored = -1

/-- The bounds, the chunk size and the types of a range. -/
structure DescribesRange (policy : RangePolicy) (desc : RangePolicyDesc) : Prop where
  index_type : DescribesIndexType policy.index_type desc.index_type_desc
  space : desc.space = policy.execution_space.name
  schedule : DescribesSchedule policy.schedule_type desc.schedule
  begin : DescribesBound policy.index_type policy.begin desc.begin
  «end» : DescribesBound policy.index_type policy.end desc.end
  chunk_size : DescribesInt (policy.index_type.toInt policy.chunk_size) desc.chunk_size

/-- The bounds and the tile of each dimension, the directions and the types of a
    range of several dimensions. -/
structure DescribesMDRange (policy : MDRangePolicy) (desc : MDRangePolicyDesc) : Prop where
  index_type : DescribesIndexType policy.index_type desc.index_type_desc
  space : desc.space = policy.execution_space.name
  schedule : DescribesSchedule policy.schedule_type desc.schedule
  rank : desc.rank = policy.rank
  outer_dir : DescribesDirection policy.outer_direction desc.outer_dir
  inner_dir : DescribesDirection policy.inner_direction desc.inner_dir
  begin : desc.begin = policy.m_lower.toList
  «end» : desc.end = policy.m_upper.toList
  tile : desc.tile = policy.m_tile.toList

/-- The sizes, the scratch memory and the types of a league of teams. -/
structure DescribesTeam (build : ExtractBuild) (policy : TeamPolicy) (desc : TeamPolicyDesc) : Prop where
  index_type : DescribesIndexType policy.index_type desc.index_type_desc
  space : desc.space = policy.execution_space.name
  schedule : DescribesSchedule policy.schedule_type desc.schedule
  team_size : DescribesExtent policy.team_size desc.team_size
  league_size : desc.league_size = policy.league_size
  vector_length : DescribesExtent policy.vector_length desc.vector_length
  team_scratch_0 : DescribesScratch (ScratchKnown build policy.execution_space)
    policy.team_scratch_size.level0 desc.team_scratch_0
  team_scratch_1 : DescribesScratch (ScratchKnown build policy.execution_space)
    policy.team_scratch_size.level1 desc.team_scratch_1
  thread_scratch_0 : DescribesScratch (ScratchKnown build policy.execution_space)
    policy.thread_scratch_size.level0 desc.thread_scratch_0
  thread_scratch_1 : DescribesScratch (ScratchKnown build policy.execution_space)
    policy.thread_scratch_size.level1 desc.thread_scratch_1
  chunk_size : desc.chunk_size = policy.chunk_size

/-- A descriptor is of the kind of a policy and says what the policy says. -/
inductive DescribesPolicy (build : ExtractBuild) : Policy → PolicyDesc → Prop where
  | scalar (N : UInt64) : DescribesPolicy build (.scalar N) (.scalar ⟨N⟩)
  | range {policy : RangePolicy} {desc : RangePolicyDesc} (hrange : DescribesRange policy desc) :
    DescribesPolicy build (.range policy) (.range desc)
  | mdrange {policy : MDRangePolicy} {desc : MDRangePolicyDesc} (hmdrange : DescribesMDRange policy desc) :
    DescribesPolicy build (.mdrange policy) (.mdrange desc)
  | team {policy : TeamPolicy} {desc : TeamPolicyDesc} (hteam : DescribesTeam build policy desc) :
    DescribesPolicy build (.team policy) (.team desc)

namespace impl

/-- The name of a schedule describes it. -/
theorem schedule_to_string_describes (schedule : Schedule) :
    DescribesSchedule schedule (schedule_to_string schedule) := by
  cases schedule with
  | Static => exact .static
  | Dynamic => exact .dynamic

/-- The name of a direction describes it. -/
theorem iteration_pattern_describes {direction : Iterate} {name : String}
    (hname : iteration_pattern_to_string direction = .ok name) : DescribesDirection direction name := by
  cases direction with
  | Default => cases hname
  | Left =>
    cases hname
    exact .left
  | Right =>
    cases hname
    exact .right

/-- A bound is extended by its sign, so that eight bytes are congruent to it. -/
theorem index_type_to_u64_describes (index_type : IndexType) (bound : index_type.Value) :
    DescribesBound index_type bound (index_type_to_u64 index_type bound) := by
  unfold DescribesBound index_type_to_u64
  cases hsigned : index_type.is_signed with
  | true =>
    have hvector : (Int64.ofInt (index_type.toInt bound)).toUInt64.toBitVec =
        BitVec.ofInt 64 (index_type.toInt bound) := rfl
    rw [if_pos rfl, ← UInt64.toNat_toBitVec, hvector, BitVec.toNat_ofInt]
    omega
  | false =>
    obtain ⟨hvalue, hlt⟩ := IndexType.toInt_unsigned hsigned bound
    rw [if_neg Bool.false_ne_true, UInt64.toNat_ofNat_of_lt' hlt, hvalue]
    omega

/-- An extent is described by itself, or by -1 where Kokkos chooses it. -/
theorem extent_or_auto_describes (extent : TeamExtent) :
    DescribesExtent extent (extent_or_auto extent) := by
  cases extent with
  | AUTO => exact .auto
  | fixed value hnonneg => exact .fixed value hnonneg

/-- The extractor asks for the scratch sizes where they are known. -/
theorem supports_querying_iff_scratchKnown (build : ExtractBuild) (space : ExecutionSpace) :
    supports_querying_scratch_size build space = true ↔ ScratchKnown build space := by
  unfold supports_querying_scratch_size
  constructor
  · intro hquery
    split_ifs at hquery with hversion hcuda hhip hsycl
    · exact .any space hversion
    · exact of_decide_eq_true hquery ▸ .cuda hcuda
    · exact of_decide_eq_true hquery ▸ .hip (Bool.eq_false_iff.mpr hcuda) hhip
    · exact of_decide_eq_true hquery ▸
        .sycl (Bool.eq_false_iff.mpr hcuda) (Bool.eq_false_iff.mpr hhip) hsycl
  · intro hknown
    cases hknown with
    | any space hversion => rw [if_pos hversion]
    | cuda hcuda => simp [hcuda]
    | hip hcuda hhip => simp [hcuda, hhip]
    | sycl hcuda hhip hsycl => simp [hcuda, hhip, hsycl]

/-- Both levels of scratch memory are described by what the extractor asks for. -/
theorem scratch_description_describes (build : ExtractBuild) (space : ExecutionSpace)
    (scratch : ScratchSize) {description : scratch_description}
    (hdescription : description = if supports_querying_scratch_size build space then
      scratch_description_of scratch else ⟨-1, -1⟩) :
    DescribesScratch (ScratchKnown build space) scratch.level0 description.level0 ∧
      DescribesScratch (ScratchKnown build space) scratch.level1 description.level1 := by
  rw [← supports_querying_iff_scratchKnown]
  cases hquery : supports_querying_scratch_size build space with
  | true =>
    rw [hquery, if_pos rfl] at hdescription
    subst hdescription
    exact ⟨⟨fun _ => Int32.toInt_ofNat', fun hunknown => absurd rfl hunknown⟩,
      ⟨fun _ => Int32.toInt_ofNat', fun hunknown => absurd rfl hunknown⟩⟩
  | false =>
    rw [hquery, if_neg Bool.false_ne_true] at hdescription
    subst hdescription
    exact ⟨⟨fun hknown => absurd hknown Bool.false_ne_true, fun _ => rfl⟩,
      ⟨fun hknown => absurd hknown Bool.false_ne_true, fun _ => rfl⟩⟩

/-- The extractor registers a descriptor which says what the policy says, for a
    policy of each kind. -/
theorem register_bounds_describes {build : ExtractBuild} {policy : Policy} {desc : PolicyDesc}
    (haccepted : register_bounds build policy = .ok desc) : DescribesPolicy build policy desc := by
  cases policy with
  | scalar N =>
    cases haccepted
    exact .scalar N
  | range policy =>
    cases haccepted
    exact .range ⟨⟨rfl, rfl⟩, rfl, schedule_to_string_describes _, index_type_to_u64_describes _ _,
      index_type_to_u64_describes _ _, Int32.toInt_ofInt⟩
  | mdrange policy =>
    obtain ⟨outer_dir, inner_dir, houter, hinner, hbounds⟩ := register_bounds_mdrange_eq_ok policy
    cases hbounds.symm.trans haccepted
    exact .mdrange ⟨⟨rfl, rfl⟩, rfl, schedule_to_string_describes _, rfl,
      iteration_pattern_describes houter, iteration_pattern_describes hinner, rfl, rfl, rfl⟩
  | team policy =>
    cases haccepted
    obtain ⟨hteam0, hteam1⟩ := scratch_description_describes build policy.execution_space
      policy.team_scratch_size rfl
    obtain ⟨hthread0, hthread1⟩ := scratch_description_describes build policy.execution_space
      policy.thread_scratch_size rfl
    exact .team ⟨⟨rfl, rfl⟩, rfl, schedule_to_string_describes _, extent_or_auto_describes _, rfl,
      extent_or_auto_describes _, hteam0, hteam1, hthread0, hthread1, rfl⟩

end impl

end krepe
