import Krepe.MemoryRoundTrip
import Krepe.RoundTrip.Outputs

open std hdf5 memory outcome

namespace krepe

open impl

/-- The policy of a dump is the one which its launch registered, if there was one. -/
def RegisteredPolicy (extract : ExtractBuild) (launched : Option kokkos.Policy) (desc : PolicyDesc) : Prop :=
  match launched with
  | none => desc = .no_policy
  | some policy => register_bounds extract policy = .ok desc

section

variable (before after : CaptureMachine) (replay : ReplayMachine) (dump : KernelDump)
  (output : Option KernelOutput) (file : File) (guard : ScopeGuard)

/-- An output is restored: its size is read as it is, and there are the bytes of
    an output of its label. -/
structure RestoredOutput (position : ActiveAllocation × Nat) : Prop where
  sizes : ∃ dataset, bytes_dataset file (position_path "out" position) = .ok dataset ∧
    buffer_size dataset.dims = .ok position.1.record.size.toNat
  bytes : position.1.record.size ≠ 0 → ∃ other ∈ output_allocations output, Dumped after other ∧
    Keyed position.1.memory_space position.1.record.label other ∧
    AList.lookup position.1.record.label (guard.output_allocations position.1.memory_space) =
      some (memory_bytes after.byte other.record.p_data other.record.size)

/-- What was dumped is restored, and what was skipped is not available. -/
structure Loaded : Prop where
  inputs : ∀ position ∈ dump.input_snapshot.allocations.zipIdx, Dumped before position.1 →
    position.1.record.size ≠ 0 → Restored before replay file guard position
  input_labels : ∀ memory_space label, (memory_space = .DEVICE → replay.has_device_space = true) →
    ((AList.lookup label (guard.allocations memory_space)).isSome ↔
      ∃ allocation ∈ dump.input_snapshot.allocations, Dumped before allocation ∧
        Keyed memory_space label allocation)
  outputs : ∀ position ∈ (output_allocations output).zipIdx, Dumped after position.1 →
    RestoredOutput after output file guard position
  output_labels : ∀ memory_space label, label ∈ guard.output_labels memory_space ↔
    ∃ allocation ∈ output_allocations output, Dumped after allocation ∧ Keyed memory_space label allocation

/-- The replayer has memory of the type which an allocation is restored in. -/
def Available (allocation : ActiveAllocation) : Prop :=
  allocation.memory_space = .DEVICE → replay.has_device_space = true

/-- No input is skipped, all that was dumped is of a size which is read as it is,
    and the replayer is built for what the dump needs. -/
structure Restorable (launched : Option kokkos.Policy) : Prop where
  inputs : ∀ allocation ∈ dump.input_snapshot.allocations, Dumped before allocation ∧
    allocation.record.size.toNat < 2 ^ 31 ∧ (allocation.record.size ≠ 0 → Available replay allocation)
  outputs : ∀ allocation ∈ output_allocations output, Dumped after allocation →
    allocation.record.size.toNat < 2 ^ 31 ∧ Available replay allocation
  policy : ∀ policy ∈ launched, Supported replay.build policy

end

section

variable {before after : CaptureMachine} {replay : ReplayMachine} {system : DumpSystem} {dump : KernelDump}
  {output : Option KernelOutput} {launched : Option kokkos.Policy} {extract : ExtractBuild} {file : File}

/-- The policy of a dump is read by the builds which support it. -/
theorem RegisteredPolicy.read_iff {desc : PolicyDesc} (hregistered : RegisteredPolicy extract launched desc)
    (hmax : ∀ mdrange, launched = some (.mdrange mdrange) → mdrange.rank ≤ 6)
    (hstored : PolicyStored policy_path desc file) (build : ReplayBuild) :
    (∃ policy, read_policy_from_hdf5 build file = .ok policy) ↔
      ∀ policy ∈ launched, Supported build policy := by
  cases launched with
  | none =>
    have hnone : desc = .no_policy := hregistered
    subst hnone
    exact ⟨fun _ policy hpolicy => (Option.not_mem_none policy hpolicy).elim, fun _ =>
      ⟨_, read_no_policy hstored⟩⟩
  | some policy =>
    have haccepted : register_bounds extract policy = .ok desc := hregistered
    rw [read_policy_iff_supported haccepted (fun mdrange hmdrange => hmax mdrange (hmdrange ▸ rfl)) hstored]
    simp

/-- The bytes of a dumped output are in the table, or those of another one with its label. -/
theorem restored_output_bytes
    (hsmall : ∀ allocation ∈ output_allocations output, Dumped after allocation →
      allocation.record.size.toNat < 2 ^ 31)
    {allocation : ActiveAllocation} (hallocation : allocation ∈ output_allocations output)
    (hdumped : Dumped after allocation) (hsize : allocation.record.size ≠ 0) (guard : ScopeGuard) :
    ∃ other ∈ output_allocations output, Dumped after other ∧
      Keyed allocation.memory_space allocation.record.label other ∧
      AList.lookup allocation.record.label ((allocate_entries guard
          (dumped_entries (written_outputs after replay output))).output_allocations allocation.memory_space) =
        some (memory_bytes after.byte other.record.p_data other.record.size) := by
  have hdata : ∀ other ∈ output_allocations output, Dumped after other →
      (stored_entry after other).data = memory_bytes after.byte other.record.p_data other.record.size :=
    fun other hother hcopied => Entry.data_of_lt (stored_entry_bytes hcopied)
      ((memory_bytes_length _ _ _).symm ▸ hsmall other hother hcopied)
  have hne : (stored_entry after allocation).data ≠ [] := by
    rw [hdata allocation hallocation hdumped, ← List.length_pos_iff, memory_bytes_length]
    exact Nat.pos_of_ne_zero fun hzero => hsize (UInt64.toNat_inj.mp hzero)
  have hsome : (last_entry allocation.memory_space allocation.record.label
      ((dumped_entries (written_outputs after replay output)).filter fun entry => entry.data ≠ [])).isSome :=
    last_entry_isSome.mpr ⟨stored_entry after allocation, List.mem_filter.mpr
      ⟨mem_dumped_outputs.mpr ⟨allocation, hallocation, hdumped, rfl⟩, decide_eq_true hne⟩, rfl, rfl⟩
  obtain ⟨entry, hlast⟩ := Option.isSome_iff_exists.mp hsome
  obtain ⟨hentry, hspace, hlabel⟩ := last_entry_mem hlast
  obtain ⟨other, hother, hcopied, rfl⟩ := mem_dumped_outputs.mp (List.mem_filter.mp hentry).1
  refine ⟨other, hother, hcopied, ⟨hspace, hlabel⟩, ?_⟩
  rw [allocate_entries_lookup, hlast, Option.map_some, Option.some_or, hdata other hother hcopied]

/-- A guard with all the inputs and all the dumped outputs has what was dumped. -/
theorem Written.loaded (hwritten : Written before after system dump output file)
    (hinputs : ∀ allocation ∈ dump.input_snapshot.allocations, Dumped before allocation)
    (hsmall : ∀ allocation ∈ dump.input_snapshot.allocations, allocation.record.size.toNat < 2 ^ 31)
    (houtputs : ∀ allocation ∈ output_allocations output, Dumped after allocation →
      allocation.record.size.toNat < 2 ^ 31)
    (hcopyable : ∀ entry ∈ input_entries before replay dump,
      entry.Copyable replay (reserved_guard replay (input_entries before replay dump)))
    {restored : ScopeGuard}
    (hmemory : restored.memory = (restore_entries (reserved_guard replay (input_entries before replay dump))
      (input_entries before replay dump) replay).memory)
    (hallocations : restored.allocations =
      (restore_entries (reserved_guard replay (input_entries before replay dump))
        (input_entries before replay dump) replay).allocations)
    (hlabels : ∀ memory_space, restored.output_labels memory_space = ∅) :
    Loaded before after replay dump output file
      (allocate_entries restored (dumped_entries (written_outputs after replay output))) where
  inputs position hposition hdumped _ := by
    have hallocation := List.fst_mem_of_mem_zipIdx hposition
    refine restored_of_read (hwritten.reads_input hposition) hdumped (hsmall _ hallocation)
      fun offset hoffset => ?_
    rw [allocate_entries_rest, hmemory]
    exact read_restored hinputs hsmall hcopyable hallocation hoffset
  input_labels memory_space label hdevice := by
    have hnone : AList.lookup label ((reserved_guard replay (input_entries before replay dump)).allocations
        memory_space) = none := rfl
    rw [allocate_entries_rest, hallocations, restore_entries_allocations _ _ hdevice, hnone, Option.or_none,
      Option.isSome_map, last_entry_isSome]
    constructor
    · rintro ⟨entry, hentry, hkey⟩
      obtain ⟨allocation, hallocation, rfl⟩ := mem_input_entries.mp hentry
      exact ⟨allocation, hallocation, hinputs allocation hallocation, hkey⟩
    · rintro ⟨allocation, hallocation, _, hkey⟩
      exact ⟨_, mem_input_entries.mpr ⟨allocation, hallocation, rfl⟩, hkey⟩
  outputs position hposition hdumped := by
    have hallocation := List.fst_mem_of_mem_zipIdx hposition
    obtain ⟨data, hdataset, _⟩ := bytes_dataset_of_dumped (hwritten.reads_output hposition) hdumped
    have hexact : buffer_size [position.1.record.size.toNat] = .ok position.1.record.size.toNat := by
      rw [buffer_size_single, read_size_of_lt (houtputs _ hallocation hdumped)]
    exact ⟨⟨_, hdataset, hexact⟩, fun hsize =>
      restored_output_bytes houtputs hallocation hdumped hsize restored⟩
  output_labels memory_space label := by
    rw [allocate_entries_labels, hlabels]
    constructor
    · rintro (⟨entry, hentry, hkey⟩ | hempty)
      · obtain ⟨allocation, hallocation, hdumped, rfl⟩ := mem_dumped_outputs.mp hentry
        exact ⟨allocation, hallocation, hdumped, hkey⟩
      · exact absurd hempty (Finset.notMem_empty label)
    · rintro ⟨allocation, hallocation, hdumped, hkey⟩
      exact Or.inl ⟨_, mem_dumped_outputs.mpr ⟨allocation, hallocation, hdumped, rfl⟩, hkey⟩

/-- No input stops a pass over the inputs, where the condition holds. -/
theorem Restorable.reservable (hrestorable : Restorable before after replay dump output launched)
    (memory_space : MemorySpaceType) :
    ∀ entry ∈ input_entries before replay dump, entry.Reservable replay memory_space := by
  intro entry hentry
  obtain ⟨allocation, hallocation, rfl⟩ := mem_input_entries.mp hentry
  obtain ⟨hdumped, hlt, havailable⟩ := hrestorable.inputs allocation hallocation
  refine ⟨fun _ => by simp [stored_entry_bytes hdumped], fun hrequest hdevice => ?_⟩
  have hrequested : (stored_entry before allocation).memory_space = memory_space ∧
      allocation.record.size.toNat ≠ 0 := by
    simpa [Entry.request, stored_entry_bytes hdumped, read_size_of_lt hlt] using hrequest
  exact havailable (fun hzero => hrequested.2 (by simp [hzero])) (hrequested.1.trans hdevice)

/-- Every output of a dump which was written is allocated, where the condition holds. -/
theorem Restorable.allocatable (hrestorable : Restorable before after replay dump output launched) :
    ∀ stored ∈ written_outputs after replay output, stored.Allocatable replay := by
  intro stored hstored
  obtain ⟨allocation, hallocation, rfl⟩ := mem_written_outputs.mp hstored
  unfold stored_output
  by_cases hdumped : Dumped after allocation
  · obtain ⟨hlt, havailable⟩ := hrestorable.outputs allocation hallocation hdumped
    rw [if_pos hdumped]
    exact ⟨⟨_, stored_entry_bytes hdumped, Or.inl ((memory_bytes_length _ _ _).symm ▸ hlt)⟩, havailable⟩
  · rw [if_neg hdumped]
    trivial

/-- An input which is loaded was dumped, and there is memory for it if it is not empty. -/
theorem input_of_loadable {entries : List Entry} {allocation : ActiveAllocation}
    (hloadable : (stored_entry before allocation).Loadable replay entries) :
    Dumped before allocation ∧ (allocation.record.size ≠ 0 → allocation.record.size.toNat < 2 ^ 31 →
      Available replay allocation) := by
  have hdumped := dumped_of_reservable hloadable.reservable
  refine ⟨hdumped, fun hsize hlt hdevice => hloadable.copyable.device (fun hempty => hsize ?_) hdevice⟩
  rw [Entry.data_of_lt (stored_entry_bytes hdumped) ((memory_bytes_length _ _ _).symm ▸ hlt)] at hempty
  have hzero := congrArg List.length hempty
  rw [memory_bytes_length] at hzero
  exact UInt64.toNat_inj.mp hzero

/-- A dump which is loaded with all that was dumped meets the condition. -/
theorem Loaded.restorable {guard : ScopeGuard}
    (hloaded : Loaded before after replay dump output file guard)
    (hwritten : Written before after system dump output file)
    (hload : ScopeGuard.load replay file = .ok guard)
    (hregistered : RegisteredPolicy extract launched dump.policy)
    (hmax : ∀ mdrange, launched = some (.mdrange mdrange) → mdrange.rank ≤ 6) :
    Restorable before after replay dump output launched := by
  obtain ⟨restored, hinput, houtput⟩ := bind_eq_ok.mp hload
  obtain ⟨hall, created, _, _, policy, hstored, hpolicy, _⟩ := hwritten.load_input_ok hinput
  have hallocatable := ((hwritten.loads_outputs replay).of_ok houtput).1
  refine ⟨fun allocation hallocation => ?_, fun allocation hallocation hdumped => ?_,
    (hregistered.read_iff hmax hstored.policy _).mp ⟨policy, hpolicy⟩⟩
  · obtain ⟨hdumped, havailable⟩ :=
      input_of_loadable (hall _ (mem_input_entries.mpr ⟨allocation, hallocation, rfl⟩))
    have hlt : allocation.record.size.toNat < 2 ^ 31 := by
      by_cases hempty : allocation.record.size = 0
      · simp [hempty]
      · obtain ⟨index, hposition⟩ := exists_position hallocation
        exact size_lt_of_dataset (hwritten.reads_input hposition) hdumped
          (hloaded.inputs _ hposition hdumped hempty).sizes
    exact ⟨hdumped, hlt, fun hsize => havailable hsize hlt⟩
  · have hstoredOutput := hallocatable _ (mem_written_outputs.mpr ⟨allocation, hallocation, rfl⟩)
    rw [stored_output, if_pos hdumped] at hstoredOutput
    obtain ⟨index, hposition⟩ := exists_position hallocation
    exact ⟨size_lt_of_dataset (hwritten.reads_output hposition) hdumped
      (hloaded.outputs _ hposition hdumped).sizes, hstoredOutput.2⟩

section

variable (hwritten : Written before after system dump output file) (hready : replay.Ready)
  (hregistered : RegisteredPolicy extract launched dump.policy)
  (hmax : ∀ mdrange, launched = some (.mdrange mdrange) → mdrange.rank ≤ 6)
  (hfits : ∀ allocation ∈ dump.input_snapshot.allocations, Dumped before allocation →
    allocation.record.size ≠ 0 → allocation.record.p_data.toNat + allocation.record.size.toNat +
      replay.allocation_granularity allocation.memory_space < 2 ^ 64)

include hfits

/-- The inputs are read with their own sizes, and their ranges can be rounded. -/
theorem Restorable.small (hrestorable : Restorable before after replay dump output launched) :
    ∀ entry ∈ input_entries before replay dump, entry.Small replay := by
  intro entry hentry
  obtain ⟨allocation, hallocation, rfl⟩ := mem_input_entries.mp hentry
  obtain ⟨hdumped, hlt, _⟩ := hrestorable.inputs allocation hallocation
  refine ⟨_, stored_entry_bytes hdumped, ?_, fun hne => ?_⟩
  · rwa [memory_bytes_length]
  · rw [memory_bytes_length]
    refine hfits allocation hallocation hdumped fun hzero => hne ?_
    rw [hzero]
    rfl

include hwritten hready hregistered hmax

/-- A dump whose inputs were all dumped and fit is loaded on a machine which is ready. -/
theorem Restorable.load_input (hrestorable : Restorable before after replay dump output launched) :
    ∃ guard, ScopeGuard.load_input replay file = .ok guard := by
  obtain ⟨created, hstored, hsame, _⟩ := hwritten.load_input
  rw [hsame]
  have hsmall := hrestorable.small hfits
  refine load_input_ready hready (rounded_of_small hsmall) (hstored.visits replay)
    (fun entry hentry => ⟨fun memory_space => hrestorable.reservable memory_space entry hentry,
      Entry.Small.copyable hsmall hrestorable.reservable entry hentry⟩)
    (hstored.read_metadata replay) ⟨_, hstored.read_functor replay⟩
    ((hregistered.read_iff hmax hstored.policy replay.build).mpr hrestorable.policy)

/-- A dump which meets the condition is loaded with all that was dumped. -/
theorem Restorable.loads (hrestorable : Restorable before after replay dump output launched) :
    ∃ guard, ScopeGuard.load replay file = .ok guard ∧
      Loaded before after replay dump output file guard := by
  obtain ⟨restored, hinput⟩ := hrestorable.load_input hwritten hready hregistered hmax hfits
  obtain ⟨hall, _, metadata, functor, policy, _, _, rfl⟩ := hwritten.load_input_ok hinput
  have houtput := (hwritten.loads_outputs replay).ready hready hrestorable.allocatable
  refine ⟨_, bind_eq_ok.mpr ⟨_, hinput, houtput _⟩, ?_⟩
  exact hwritten.loaded (fun allocation hallocation => (hrestorable.inputs allocation hallocation).1)
    (fun allocation hallocation => (hrestorable.inputs allocation hallocation).2.1)
    (fun allocation hallocation hdumped => (hrestorable.outputs allocation hallocation hdumped).1)
    (fun entry hentry => (hall entry hentry).copyable) rfl rfl
    fun memory_space => congrFun (restore_entries_outputs _ _).1 memory_space

end

/-- Let a dump be written, with or without outputs, of a launch whose policy was registered and
    has at most six dimensions, with inputs that end, rounded up, before the end of the address
    space, and let the system of the replayer be ready. The load succeeds with all that was
    dumped if and only if no input was skipped, every size is read as it is, and the replayer
    has the memory and execution spaces that are named. -/
theorem dump_loads (hwritten : Written before after system dump output file) (hready : replay.Ready)
    (hregistered : RegisteredPolicy extract launched dump.policy)
    (hmax : ∀ mdrange, launched = some (.mdrange mdrange) → mdrange.rank ≤ 6)
    (hfits : ∀ allocation ∈ dump.input_snapshot.allocations, Dumped before allocation →
      allocation.record.size ≠ 0 → allocation.record.p_data.toNat + allocation.record.size.toNat +
        replay.allocation_granularity allocation.memory_space < 2 ^ 64) :
    (∃ guard, ScopeGuard.load replay file = .ok guard ∧ Loaded before after replay dump output file guard) ↔
      Restorable before after replay dump output launched := by
  constructor
  · rintro ⟨guard, hload, hloaded⟩
    exact hloaded.restorable hwritten hload hregistered hmax
  · intro hrestorable
    exact hrestorable.loads hwritten hready hregistered hmax hfits

end

section

variable (before after : CaptureMachine) {dump : KernelDump} (hmetadata : dump.metadata = ∅)

include hmetadata

/-- A dump without metadata is written where nothing fails. -/
theorem dump_written :
    Written before after plain_system dump none (create_kernel_dump before plain_system none dump no_file).2 :=
  .created (dump_created before hmetadata no_file).1

/-- The example's dump was written with its output. -/
theorem output_written (output : KernelOutput) :
    Written before after plain_system dump (some output) (append_kernel_output after plain_system none output
      (create_kernel_dump before plain_system none dump no_file).2).2 :=
  .appended (dump_written before after hmetadata)
    (output_appended (dump_created before hmetadata no_file).2 after output)

end

section

variable (before after : Pointer → UInt8) {allocations : List ActiveAllocation}
  (hhost : ∀ allocation ∈ allocations, allocation.record.data_size_known = true ∧
    allocation.record.space = "Host" ∧ allocation.record.p_data ≠ 0 ∧
    allocation.record.size.toNat < 2 ^ 31 ∧ allocation.record.p_data.toNat < 2 ^ 62)

include hhost

/-- All the bytes of small allocations of the host are dumped. -/
theorem small_host_dumped : ∀ allocation ∈ allocations, Dumped (host_capture before) allocation := by
  intro allocation hallocation
  obtain ⟨hknown, hspace, hdata, hsize, _⟩ := hhost allocation hallocation
  exact host_dumped before hknown hspace hdata (by omega)

/-- A dump of small allocations of the host is loaded, with outputs or without. -/
theorem small_host_loads {output : Option KernelOutput} {file : File}
    (houtput : ∀ allocation ∈ output_allocations output, allocation ∈ allocations)
    (hwritten : Written (host_capture before) (host_capture after) plain_system (plain_dump allocations)
      output file) :
    ∃ guard, ScopeGuard.load host_replay file = .ok guard := by
  have havailable : ∀ allocation ∈ allocations, Available host_replay allocation := by
    intro allocation hallocation hdevice
    rw [ActiveAllocation.memory_space, (hhost allocation hallocation).2.1] at hdevice
    cases hdevice
  have hrestorable : Restorable (host_capture before) (host_capture after) host_replay
      (plain_dump allocations) output none := by
    refine ⟨fun allocation hallocation => ?_, fun allocation hallocation _ => ?_, fun _ hnone => by cases hnone⟩
    · exact ⟨small_host_dumped before hhost allocation hallocation, (hhost allocation hallocation).2.2.2.1,
        fun _ => havailable allocation hallocation⟩
    · have hmem := houtput allocation hallocation
      exact ⟨(hhost allocation hmem).2.2.2.1, havailable allocation hmem⟩
  have hregistered : RegisteredPolicy ⟨true, false, false, false⟩ none (plain_dump allocations).policy := rfl
  obtain ⟨guard, hload, _⟩ := hrestorable.loads hwritten host_replay_ready hregistered
    (fun _ hnone => by cases hnone) fun allocation hallocation _ _ => by
      obtain ⟨_, _, _, hsize, haddress⟩ := hhost allocation hallocation
      have hgranularity : host_replay.allocation_granularity allocation.memory_space = 4096 := rfl
      omega
  exact ⟨guard, hload⟩

end

/-- An allocation with the size of the header as its reported size, of which the allocator
    does not tell the physical one: whether there are data is not known. -/
def unbounded_allocation : ActiveAllocation := ⟨12288, ⟨"raw", "Host", 12416, 0, 128, false⟩⟩

/-- An allocation of unknown size is skipped. -/
theorem unbounded_skipped (byte : Pointer → UInt8) : ¬ Dumped (host_capture byte) unbounded_allocation := by
  simp [Dumped, copy_allocation_bytes, unbounded_allocation]

/-- Two inputs, a policy, and outputs of which one was skipped. -/
theorem dump_loads_example :
    let before := host_capture fun address => address.toUInt8
    let after := host_capture fun _ => 7
    let values := host_allocation "values" 4352 3
    let dump := { plain_dump [values, host_allocation "empty" 4608 0] with
      policy := register_bounds_scalar 7 }
    let output : KernelOutput := ⟨⟨3, [values, unbounded_allocation]⟩, "krepe_kernel_0.h5"⟩
    let created := (create_kernel_dump before plain_system none dump no_file).2
    let file := (append_kernel_output after plain_system none output created).2
    ∃ guard, ScopeGuard.load host_replay file = .ok guard ∧
      Loaded before after host_replay dump (some output) file guard := by
  intro before after values dump output created file
  have hwritten : Written before after plain_system dump (some output) file :=
    output_written before after rfl output
  have hinputs : ∀ allocation ∈ dump.input_snapshot.allocations, Dumped before allocation ∧
      allocation.record.size.toNat < 2 ^ 31 ∧
      (allocation.record.size ≠ 0 → Available host_replay allocation) := by
    intro allocation hallocation
    simp only [dump, plain_dump, List.mem_cons, List.not_mem_nil, or_false] at hallocation
    rcases hallocation with rfl | rfl <;>
      exact ⟨host_dumped _ rfl rfl (by decide) (by decide), by decide, fun _ hdevice => absurd hdevice (by decide)⟩
  have houtputs : ∀ allocation ∈ output_allocations (some output), Dumped after allocation →
      allocation.record.size.toNat < 2 ^ 31 ∧ Available host_replay allocation := by
    intro allocation hallocation hdumped
    simp only [output_allocations, output, List.mem_cons, List.not_mem_nil, or_false] at hallocation
    rcases hallocation with rfl | rfl
    · exact ⟨by decide, fun hdevice => absurd hdevice (by decide)⟩
    · exact absurd hdumped (unbounded_skipped _)
  exact (@dump_loads before after host_replay plain_system dump (some output) (some (.scalar 7))
    ⟨true, false, false, false⟩ file hwritten host_replay_ready rfl (fun _ hnone => by cases hnone)
    (by decide)).mpr ⟨hinputs, houtputs, fun policy hpolicy => by
      rw [← Option.some.inj hpolicy]
      trivial⟩

/-- A dump with a skipped input is reported as written, and cannot be loaded. -/
theorem dump_not_loaded :
    let dump := plain_dump [unbounded_allocation]
    let result := create_kernel_dump (host_capture fun _ => 7) plain_system none dump no_file
    result.1.ok = true ∧ ¬ ∃ guard, ScopeGuard.load host_replay result.2 = .ok guard := by
  intro dump result
  obtain ⟨hcreate, hstored⟩ := plain_dump_created (host_capture fun _ => 7) [unbounded_allocation]
  refine ⟨hcreate, ?_⟩
  rintro ⟨guard, hload⟩
  rw [hstored.load] at hload
  have hwritten : Written (host_capture fun _ => 7) (host_capture fun _ => 7) plain_system dump none result.2 :=
    dump_written _ _ rfl
  obtain ⟨hall, _⟩ := hwritten.load_input_ok hload
  exact unbounded_skipped _ (input_of_loadable
    (hall _ (mem_input_entries.mpr ⟨unbounded_allocation, List.mem_singleton_self _, rfl⟩))).1

end krepe
