import Krepe.PolicyRoundTrip

open std hdf5 kokkos outcome

namespace krepe.impl

/-- No two execution spaces have one name. -/
theorem exec_space_name_injective : Function.Injective kokkos.ExecutionSpace.name := by
  intro space other hname
  cases space <;> cases other <;> first | rfl | (exact absurd hname (by decide))

/-- The name of an execution space is read by a build which has it. -/
theorem exec_space_of_name {build : ReplayBuild} {space : kokkos.ExecutionSpace}
    {found : Option kokkos.ExecutionSpace}
    (hread : get_policy_exec_space_from_name build space.name = .ok found) :
    space ∈ exec_space_var build := by
  have hspace : ∀ other ∈ [ExecutionSpace.Serial, .OpenMP, .Threads, .HPX, .Cuda, .HIP],
      build.enabled other ∧ space.name = other.name → space ∈ exec_space_var build := by
    rintro other hother ⟨henabled, hname⟩
    rw [exec_space_name_injective hname]
    exact List.mem_filter.mpr ⟨hother, henabled⟩
  unfold get_policy_exec_space_from_name at hread
  split_ifs at hread with hserial hopenmp hthreads hhpx hcuda hhip
  · exact hspace .Serial (by simp) hserial
  · exact hspace .OpenMP (by simp) hopenmp
  · exact hspace .Threads (by simp) hthreads
  · exact hspace .HPX (by simp) hhpx
  · exact hspace .Cuda (by simp) hcuda
  · exact hspace .HIP (by simp) hhip

theorem mdrange_rank_of_ofNat {build : ReplayBuild} {rank found : Nat} (hmax : rank ≤ 6)
    (hread : mdrange_rank build (Int32.ofNat rank) = .ok found) : rank ∈ mdrange_rank_var build := by
  unfold mdrange_rank_var
  cases hbuild : build.kokkos_5_2 <;> interval_cases rank <;> simp_all [mdrange_rank]

section

variable {extract : ExtractBuild} {build : ReplayBuild} {policy : Policy} {desc : PolicyDesc} {file : File}

/-- A policy with the attributes which three of them share is not read without its
    execution space. -/
theorem exec_space_of_read {type schedule_name : String} {index_type_desc : IndexTypeDesc}
    {space : kokkos.ExecutionSpace} (hstored : PolicyStored policy_path desc file)
    (hcommon : common_attributes type index_type_desc space.name schedule_name ⊆ policy_attributes desc)
    (hnone : type ≠ "none") (hscalar : type ≠ "scalar") {replay_policy : PolicyVar}
    (hread : read_policy_from_hdf5 build file = .ok replay_policy) : space ∈ exec_space_var build := by
  rw [read_policy_shared hstored hcommon hnone hscalar] at hread
  obtain ⟨index_type, _, hread⟩ := bind_eq_ok.mp hread
  obtain ⟨exec_space, hspace, _⟩ := bind_eq_ok.mp hread
  exact exec_space_of_name hspace

/-- Where a stored policy over several dimensions is read, its rank is supported. -/
theorem mdrange_rank_of_read {mdrange : krepe.MDRangePolicyDesc}
    (hstored : PolicyStored policy_path (.mdrange mdrange) file) (hmax : mdrange.rank ≤ 6)
    {replay_policy : PolicyVar} (hread : read_policy_from_hdf5 build file = .ok replay_policy) :
    mdrange.rank ∈ mdrange_rank_var build := by
  have hrank : get_hdf5_int_attribute file policy_path "rank" = .ok (as_int mdrange.rank) :=
    get_hdf5_int_attribute_of_attr? (hstored.attr? (by simp [policy_attributes]))
  rw [read_policy_shared hstored (List.subset_append_left _ _) (by simp) (by simp)] at hread
  obtain ⟨index_type, _, hread⟩ := bind_eq_ok.mp hread
  obtain ⟨exec_space, _, hread⟩ := bind_eq_ok.mp hread
  obtain ⟨schedule, _, hread⟩ := bind_eq_ok.mp hread
  rw [if_neg (by simp), if_pos rfl, read_mdrange_policy, hrank, ok_bind] at hread
  obtain ⟨rank, hfound, _⟩ := bind_eq_ok.mp hread
  exact mdrange_rank_of_ofNat hmax hfound

/-- A registered policy is read by exactly those builds which support it. -/
theorem read_policy_iff_supported (haccepted : register_bounds extract policy = .ok desc)
    (hmax : ∀ mdrange, policy = .mdrange mdrange → mdrange.rank ≤ 6)
    (hstored : PolicyStored policy_path desc file) :
    (∃ replay_policy, read_policy_from_hdf5 build file = .ok replay_policy) ↔ Supported build policy := by
  cases policy with
  | scalar N =>
    cases haccepted
    refine ⟨fun _ => trivial, fun _ => ⟨.scalar ⟨N⟩, ?_⟩⟩
    have htype : get_hdf5_string_attribute file policy_path "type" = .ok "scalar" :=
      get_hdf5_string_attribute_of_attr? (hstored.attr? List.mem_cons_self)
    have hend : get_hdf5_uint64_attribute file policy_path "end" = .ok N :=
      get_hdf5_uint64_attribute_of_attr? (hstored.attr? (List.mem_cons_of_mem _ List.mem_cons_self))
    rw [read_policy_from_hdf5, htype, ok_bind, hend]
    rfl
  | range policy =>
    cases haccepted
    constructor
    · rintro ⟨replay_policy, hread⟩
      exact exec_space_of_read hstored (List.subset_append_left _ _) (by simp) (by simp) hread
    · intro hsupported
      exact ⟨_, read_range_policy_of_stored hstored rfl rfl hsupported rfl⟩
  | mdrange policy =>
    obtain ⟨outer_dir, inner_dir, houter, hinner, hbounds⟩ := register_bounds_mdrange_eq_ok policy
    cases hbounds.symm.trans haccepted
    constructor
    · rintro ⟨replay_policy, hread⟩
      exact ⟨exec_space_of_read hstored (List.subset_append_left _ _) (by simp) (by simp) hread,
        mdrange_rank_of_read hstored (hmax policy rfl) hread⟩
    · rintro ⟨hspace, hrank⟩
      exact ⟨_, read_mdrange_policy_of_stored hstored rfl rfl hspace rfl hrank houter hinner⟩
  | team policy =>
    cases haccepted
    constructor
    · rintro ⟨replay_policy, hread⟩
      exact exec_space_of_read hstored (List.subset_append_left _ _) (by simp) (by simp) hread
    · intro hsupported
      exact ⟨_, read_team_policy_of_stored hstored rfl rfl hsupported rfl⟩

/-- A dump without a policy is read as such. -/
theorem read_no_policy (hstored : PolicyStored policy_path .no_policy file) :
    read_policy_from_hdf5 build file = .ok .monostate := by
  have htype : get_hdf5_string_attribute file policy_path "type" = .ok "none" :=
    get_hdf5_string_attribute_of_attr? (hstored.attr? List.mem_cons_self)
  rw [read_policy_from_hdf5, htype]
  rfl

end

end krepe.impl
