import Krepe.DumpLoads

open std hdf5 outcome

namespace krepe

open impl

instance (memory_space : MemorySpaceType) (label : String) (allocation : ActiveAllocation) :
    Decidable (Keyed memory_space label allocation) :=
  inferInstanceAs (Decidable (allocation.memory_space = memory_space ∧ allocation.record.label = label))

/-- The allocation of a key whose group is visited last. -/
def last_visited (replay : ReplayMachine) (memory_space : MemorySpaceType) (label : String)
    (allocations : List ActiveAllocation) : Option ActiveAllocation :=
  ((visited replay allocations).map Prod.fst).reverse.find? fun allocation =>
    Keyed memory_space label allocation

/-- The replayer finds no bytes for an allocation of this size. -/
def ReadsEmpty (allocation : ActiveAllocation) : Prop := 2 ^ 32 ∣ allocation.record.size.toNat

instance (allocation : ActiveAllocation) : Decidable (ReadsEmpty allocation) :=
  inferInstanceAs (Decidable (2 ^ 32 ∣ allocation.record.size.toNat))

/-- The lookups of a key give the input and the output of one allocation, and so
    do the views which are compared. -/
def SameAllocation (after : CaptureMachine) (replay : ReplayMachine) (guard : ScopeGuard)
    (allocations : List ActiveAllocation) (memory_space : MemorySpaceType) (label : String) : Prop :=
  ∃ allocation ∈ allocations, Keyed memory_space label allocation ∧
    let address := if allocation.record.size = 0 then 0 else allocation.record.p_data.toNat
    let reference := if allocation.record.size = 0 then none
      else some (memory_bytes after.byte allocation.record.p_data allocation.record.size)
    guard.get_allocation replay memory_space label = .ok address ∧
      guard.get_out_allocation replay memory_space label = .ok reference ∧
      guard.compare_views replay memory_space label = .ok (address, reference)

/-- The last allocation of a key has bytes, or all of them are read as empty and one is. -/
def Agreeing (replay : ReplayMachine) (allocations : List ActiveAllocation)
    (memory_space : MemorySpaceType) (label : String) : Prop :=
  (∃ allocation ∈ last_visited replay memory_space label allocations, ¬ ReadsEmpty allocation) ∨
    (∀ allocation ∈ allocations, Keyed memory_space label allocation → ReadsEmpty allocation) ∧
      ∃ allocation ∈ allocations, Keyed memory_space label allocation ∧ allocation.record.size = 0

section

variable {machine : CaptureMachine} {replay : ReplayMachine} {allocations : List ActiveAllocation}
  {memory_space : MemorySpaceType} {label : String}

/-- The last entry of a label is the one of the last allocation under it. -/
theorem last_entry_stored (listed : List ActiveAllocation) :
    last_entry memory_space label (listed.map (stored_entry machine)) =
      (listed.reverse.find? fun allocation => Keyed memory_space label allocation).map
        (stored_entry machine) := by
  rw [last_entry, ← List.map_reverse, List.find?_map]
  rfl

/-- The last allocation of a key is one of them. -/
theorem last_visited_mem {allocation : ActiveAllocation}
    (hlast : last_visited replay memory_space label allocations = some allocation) :
    allocation ∈ allocations ∧ Keyed memory_space label allocation := by
  refine ⟨?_, by simpa using List.find?_some hlast⟩
  exact mem_map_fst_visited.mp (List.mem_reverse.mp (List.mem_of_find?_eq_some hlast))

/-- Under the key of an allocation some allocation is the last. -/
theorem last_visited_of_mem {allocation : ActiveAllocation} (hallocation : allocation ∈ allocations)
    (hkey : Keyed memory_space label allocation) :
    ∃ last, last_visited replay memory_space label allocations = some last := by
  refine Option.isSome_iff_exists.mp (List.find?_isSome.mpr ⟨allocation, ?_, by simpa using hkey⟩)
  exact List.mem_reverse.mpr (mem_map_fst_visited.mpr hallocation)

/-- A dumped allocation of a readable size has no data where it is read as empty. -/
theorem data_eq_nil_iff {allocation : ActiveAllocation} (hdumped : Dumped machine allocation)
    (hreadable : Readable allocation.record.size.toNat) :
    (stored_entry machine allocation).data = [] ↔ ReadsEmpty allocation := by
  rw [Entry.data, stored_entry_bytes hdumped]
  dsimp only
  rw [memory_bytes_length, ReadsEmpty]
  split
  · next hlt =>
    rw [← List.length_eq_zero_iff, memory_bytes_length]
    constructor
    · intro hzero
      simp [hzero]
    · intro hdvd
      exact Nat.eq_zero_of_dvd_of_lt hdvd (by omega)
  · next hlarge => exact ⟨fun _ => hreadable.resolve_left hlarge, fun _ => rfl⟩

theorem last_entry_eq_none {listed : List ActiveAllocation} :
    last_entry memory_space label ((listed.map (stored_entry machine)).filter fun entry => entry.data ≠ []) =
        none ↔
      ∀ allocation ∈ listed, Keyed memory_space label allocation →
        (stored_entry machine allocation).data = [] := by
  rw [← Option.not_isSome_iff_eq_none, last_entry_isSome]
  constructor
  · intro hnone allocation hallocation hkey
    by_contra hdata
    exact hnone ⟨_, List.mem_filter.mpr ⟨List.mem_map_of_mem hallocation, decide_eq_true hdata⟩, hkey⟩
  · rintro hall ⟨entry, hentry, hkey⟩
    obtain ⟨hlisted, hdata⟩ := List.mem_filter.mp hentry
    obtain ⟨allocation, hallocation, rfl⟩ := List.mem_map.mp hlisted
    exact of_decide_eq_true hdata (hall allocation hallocation hkey)

end

section

variable {before after : CaptureMachine} {replay : ReplayMachine} {system : DumpSystem} {dump : KernelDump}
  {output : KernelOutput} {file : File} {guard : ScopeGuard} {memory_space : MemorySpaceType} {label : String}

/-- When all the outputs were dumped, all of them are allocated. -/
theorem dumped_outputs_eq (hafter : ∀ allocation ∈ output.output_snapshot.allocations, Dumped after allocation) :
    dumped_entries (written_outputs after replay (some output)) =
      ((visited replay output.output_snapshot.allocations).map Prod.fst).map (stored_entry after) := by
  rw [dumped_entries, written_outputs, List.filterMap_map, List.map_map, ← List.filterMap_eq_map]
  refine List.filterMap_congr fun position hposition => ?_
  have hdumped := hafter _ (List.fst_mem_of_mem_zipIdx (mem_visited.mp hposition))
  simp [stored_output, hdumped]

/-- The tables of a guard, by the allocations as they are visited. -/
theorem tables_of_load (hwritten : Written before after system dump (some output) file)
    (hsame : output.output_snapshot.allocations = dump.input_snapshot.allocations)
    (hafter : ∀ allocation ∈ dump.input_snapshot.allocations, Dumped after allocation)
    (hload : ScopeGuard.load replay file = .ok guard)
    (hdevice : memory_space = .DEVICE → replay.has_device_space = true) :
    let entries := ((visited replay dump.input_snapshot.allocations).map Prod.fst).map (stored_entry after)
    AList.lookup label (guard.allocations memory_space) =
        (last_visited replay memory_space label dump.input_snapshot.allocations).map
          (fun allocation => (stored_entry before allocation).start) ∧
      AList.lookup label (guard.output_allocations memory_space) =
        (last_entry memory_space label (entries.filter fun entry => entry.data ≠ [])).map Entry.data ∧
      (label ∈ guard.output_labels memory_space ↔
        ∃ allocation ∈ dump.input_snapshot.allocations, Keyed memory_space label allocation) := by
  intro entries
  obtain ⟨restored, hinput, houtput⟩ := bind_eq_ok.mp hload
  obtain ⟨_, _, metadata, functor, policy, _, _, rfl⟩ := hwritten.load_input_ok hinput
  obtain ⟨_, rfl⟩ := (hwritten.loads_outputs replay).of_ok houtput
  have hentries : dumped_entries (written_outputs after replay (some output)) = entries := by
    rw [dumped_outputs_eq (hsame ▸ hafter), hsame]
  obtain ⟨hlabels, hallocations⟩ := @restore_entries_outputs replay
    (reserved_guard replay (input_entries before replay dump)) (input_entries before replay dump)
  refine ⟨?_, ?_, ?_⟩
  · have hnone : AList.lookup label ((reserved_guard replay (input_entries before replay dump)).allocations
        memory_space) = none := rfl
    have hinputs : input_entries before replay dump =
        ((visited replay dump.input_snapshot.allocations).map Prod.fst).map (stored_entry before) := by
      rw [input_entries, List.map_map]
      rfl
    rw [allocate_entries_rest]
    dsimp only
    rw [restore_entries_allocations _ _ hdevice, hnone, Option.or_none, hinputs, last_entry_stored,
      Option.map_map]
    rfl
  · have hnone : AList.lookup label ((reserved_guard replay (input_entries before replay dump)).output_allocations
        memory_space) = none := rfl
    rw [allocate_entries_lookup, hentries]
    dsimp only
    rw [hallocations, hnone, Option.or_none]
  · have hnone : (reserved_guard replay (input_entries before replay dump)).output_labels memory_space = ∅ := rfl
    rw [allocate_entries_labels, hentries]
    dsimp only
    rw [hlabels, hnone]
    constructor
    · rintro (⟨entry, hentry, hkey⟩ | hempty)
      · obtain ⟨allocation, hvisited, rfl⟩ := List.mem_map.mp hentry
        exact ⟨allocation, mem_map_fst_visited.mp hvisited, hkey⟩
      · exact absurd hempty (Finset.notMem_empty label)
    · rintro ⟨allocation, hallocation, hkey⟩
      exact Or.inl ⟨_, List.mem_map_of_mem (mem_map_fst_visited.mpr hallocation), hkey⟩

/-- A table is there for every key of a dump whose outputs were allocated. -/
theorem device_of_load (hwritten : Written before after system dump (some output) file)
    (hafter : ∀ allocation ∈ output.output_snapshot.allocations, Dumped after allocation)
    (hload : ScopeGuard.load replay file = .ok guard)
    (hkey : ∃ allocation ∈ output.output_snapshot.allocations, Keyed memory_space label allocation) :
    memory_space = .DEVICE → replay.has_device_space = true := by
  obtain ⟨restored, _, houtput⟩ := bind_eq_ok.mp hload
  obtain ⟨hall, _⟩ := (hwritten.loads_outputs replay).of_ok houtput
  obtain ⟨allocation, hallocation, hspace, _⟩ := hkey
  have hstored := hall _ (mem_written_outputs.mpr ⟨allocation, hallocation, rfl⟩)
  rw [stored_output, if_pos (hafter allocation hallocation)] at hstored
  exact fun hdevice => hstored.2 (hspace.trans hdevice)

/-- The inputs which were loaded were dumped, with sizes which can be read. -/
theorem inputs_of_load (hwritten : Written before after system dump (some output) file)
    (hload : ScopeGuard.load replay file = .ok guard) :
    ∀ allocation ∈ dump.input_snapshot.allocations, Dumped before allocation ∧
      Readable allocation.record.size.toNat := by
  intro allocation hallocation
  obtain ⟨restored, hinput, _⟩ := bind_eq_ok.mp hload
  obtain ⟨hall, _⟩ := hwritten.load_input_ok hinput
  have hloadable := hall _ (mem_input_entries.mpr ⟨allocation, hallocation, rfl⟩)
  have hdumped := dumped_of_reservable hloadable.reservable
  obtain ⟨bytes, hbytes, hreadable⟩ := hloadable.copyable.readable
  rw [stored_entry_bytes hdumped, Option.some.injEq] at hbytes
  rw [← hbytes, memory_bytes_length] at hreadable
  exact ⟨hdumped, hreadable⟩

/-- What a table without its own check gives for a key is what the lookup returns. -/
theorem lookups_of_tables (hdevice : memory_space = .DEVICE → replay.has_device_space = true)
    (hlabel : label ∈ guard.output_labels memory_space) :
    let address := (AList.lookup label (guard.allocations memory_space)).getD 0
    let reference := AList.lookup label (guard.output_allocations memory_space)
    guard.get_allocation replay memory_space label = .ok address ∧
      guard.get_out_allocation replay memory_space label = .ok reference ∧
      guard.compare_views replay memory_space label = .ok (address, reference) := by
  have hno : ¬ (memory_space = .DEVICE ∧ !replay.has_device_space) := by
    rintro ⟨htype, hhas⟩
    simp [hdevice htype] at hhas
  refine ⟨if_neg hno, if_neg hno, ?_⟩
  simp only [ScopeGuard.compare_views, ScopeGuard.get_allocation, ScopeGuard.has_out_allocation,
    ScopeGuard.get_out_allocation, if_neg hno, hlabel]
  rfl

section

variable (hwritten : Written before after system dump (some output) file)
  (hsame : output.output_snapshot.allocations = dump.input_snapshot.allocations)
  (hafter : ∀ allocation ∈ output.output_snapshot.allocations, Dumped after allocation)
  (hload : ScopeGuard.load replay file = .ok guard)

include hwritten hsame hafter hload

/-- An allocation which was loaded has no data if its size is read as zero. -/
theorem data_nil_of_load {allocation : ActiveAllocation}
    (hallocation : allocation ∈ dump.input_snapshot.allocations) :
    ((stored_entry before allocation).data = [] ↔ ReadsEmpty allocation) ∧
      ((stored_entry after allocation).data = [] ↔ ReadsEmpty allocation) := by
  obtain ⟨hbefore, hreadable⟩ := inputs_of_load hwritten hload allocation hallocation
  exact ⟨data_eq_nil_iff hbefore hreadable, data_eq_nil_iff (hafter _ (hsame ▸ hallocation)) hreadable⟩

/-- When the last allocation of a key has bytes, both tables have it. -/
theorem lookups_of_bytes {last : ActiveAllocation}
    (hlast : last_visited replay memory_space label dump.input_snapshot.allocations = some last)
    (hbytes : ¬ ReadsEmpty last) :
    let address := last.record.p_data.toNat
    let reference := some (memory_bytes after.byte last.record.p_data last.record.size)
    guard.get_allocation replay memory_space label = .ok address ∧
      guard.get_out_allocation replay memory_space label = .ok reference ∧
      guard.compare_views replay memory_space label = .ok (address, reference) := by
  obtain ⟨hmem, hkey⟩ := last_visited_mem hlast
  have hdevice := device_of_load hwritten hafter hload ⟨last, hsame ▸ hmem, hkey⟩
  obtain ⟨hallocations, houtputs, hlabels⟩ := @tables_of_load _ _ _ _ _ _ _ _ memory_space label hwritten hsame
    (hsame ▸ hafter) hload hdevice
  obtain ⟨hbefore, hnil⟩ := data_nil_of_load hwritten hsame hafter hload hmem
  have hlt := (inputs_of_load hwritten hload last hmem).2.resolve_right hbytes
  have hdata := Entry.data_of_lt (stored_entry_bytes (hafter last (hsame ▸ hmem)))
    ((memory_bytes_length _ _ _).symm ▸ hlt)
  have haddress : AList.lookup label (guard.allocations memory_space) = some last.record.p_data.toNat := by
    rw [hallocations, hlast, Option.map_some, Entry.start, if_neg (mt hbefore.mp hbytes)]
    rfl
  have hreference : AList.lookup label (guard.output_allocations memory_space) =
      some (memory_bytes after.byte last.record.p_data last.record.size) := by
    have hvisited := @last_entry_stored after memory_space label
      ((visited replay dump.input_snapshot.allocations).map Prod.fst)
    rw [← last_visited, hlast, Option.map_some] at hvisited
    rw [houtputs, last_entry_filter hvisited (decide_eq_true (mt hnil.mp hbytes)), Option.map_some, hdata]
  have hlookups := @lookups_of_tables _ _ _ label hdevice (hlabels.mpr ⟨last, hmem, hkey⟩)
  rwa [haddress, hreference] at hlookups

/-- When the last allocation of a key is read as empty, there is no address, and
    there may be the output of another one. -/
theorem lookups_of_empty {last : ActiveAllocation}
    (hlast : last_visited replay memory_space label dump.input_snapshot.allocations = some last)
    (hempty : ReadsEmpty last) :
    ∃ reference, guard.get_allocation replay memory_space label = .ok 0 ∧
      guard.get_out_allocation replay memory_space label = .ok reference ∧
      guard.compare_views replay memory_space label = .ok (0, reference) ∧
      (reference = none ↔ ∀ allocation ∈ dump.input_snapshot.allocations,
        Keyed memory_space label allocation → ReadsEmpty allocation) := by
  obtain ⟨hmem, hkey⟩ := last_visited_mem hlast
  have hdevice := device_of_load hwritten hafter hload ⟨last, hsame ▸ hmem, hkey⟩
  obtain ⟨hallocations, houtputs, hlabels⟩ := @tables_of_load _ _ _ _ _ _ _ _ memory_space label hwritten hsame
    (hsame ▸ hafter) hload hdevice
  have haddress : AList.lookup label (guard.allocations memory_space) = some 0 := by
    have hnil := (data_nil_of_load hwritten hsame hafter hload hmem).1.mpr hempty
    rw [hallocations, hlast, Option.map_some, Entry.start, if_pos hnil]
  obtain ⟨hget, hgetOut, hcompare⟩ := @lookups_of_tables _ _ _ label hdevice (hlabels.mpr ⟨last, hmem, hkey⟩)
  rw [haddress] at hget hcompare
  refine ⟨_, hget, hgetOut, hcompare, ?_⟩
  rw [houtputs, Option.map_eq_none_iff, last_entry_eq_none]
  constructor
  · intro hall other hother hotherKey
    exact (data_nil_of_load hwritten hsame hafter hload hother).2.mp
      (hall other (mem_map_fst_visited.mpr hother) hotherKey)
  · intro hall other hvisited hotherKey
    have hother := mem_map_fst_visited.mp hvisited
    exact (data_nil_of_load hwritten hsame hafter hload hother).2.mpr (hall other hother hotherKey)

/-- When both lookups find one allocation, the last one has bytes or all are read as empty. -/
theorem agreeing_of_same
    (hfound : SameAllocation after replay guard dump.input_snapshot.allocations memory_space label) :
    Agreeing replay dump.input_snapshot.allocations memory_space label := by
  obtain ⟨same, hmem, hkey, hgetSame, hgetOutSame, _⟩ := hfound
  obtain ⟨last, hlast⟩ := @last_visited_of_mem replay _ _ _ _ hmem hkey
  by_cases hempty : ReadsEmpty last
  · obtain ⟨reference, hget, hgetOut, _, hnone⟩ := lookups_of_empty hwritten hsame hafter hload hlast hempty
    have hzero : same.record.size = 0 := by
      by_contra hsize
      have hp_data := (inputs_of_load hwritten hload same hmem).1.p_data_ne_zero hsize
      rw [hget, if_neg hsize, Except.ok.injEq] at hgetSame
      exact hp_data (UInt64.toNat_inj.mp hgetSame.symm)
    rw [hgetOut, if_pos hzero, Except.ok.injEq] at hgetOutSame
    exact Or.inr ⟨hnone.mp hgetOutSame, same, hmem, hkey, hzero⟩
  · exact Or.inl ⟨last, hlast, hempty⟩

/-- Both lookups of a key find one allocation where the condition on its allocations holds. -/
theorem same_of_agreeing (hkey : ∃ allocation ∈ dump.input_snapshot.allocations,
      Keyed memory_space label allocation)
    (hagreeing : Agreeing replay dump.input_snapshot.allocations memory_space label) :
    SameAllocation after replay guard dump.input_snapshot.allocations memory_space label := by
  rcases hagreeing with ⟨last, hlast, hbytes⟩ | ⟨hall, empty, hmem, hemptyKey, hzero⟩
  · obtain ⟨hlastMem, hlastKey⟩ := last_visited_mem hlast
    have hsize : last.record.size ≠ 0 := fun hzero => hbytes (by simp [ReadsEmpty, hzero])
    refine ⟨last, hlastMem, hlastKey, ?_⟩
    simp only [hsize, if_false]
    exact lookups_of_bytes hwritten hsame hafter hload hlast hbytes
  · obtain ⟨allocation, hallocation, hallocationKey⟩ := hkey
    obtain ⟨last, hlast⟩ := @last_visited_of_mem replay _ _ _ _ hallocation hallocationKey
    obtain ⟨hlastMem, hlastKey⟩ := last_visited_mem hlast
    obtain ⟨reference, hget, hgetOut, hcompare, hnone⟩ :=
      lookups_of_empty hwritten hsame hafter hload hlast (hall last hlastMem hlastKey)
    rw [hnone.mpr hall] at hgetOut hcompare
    refine ⟨empty, hmem, hemptyKey, ?_⟩
    simp only [hzero, if_true]
    exact ⟨hget, hgetOut, hcompare⟩

end

/-- Let a dump have outputs for the same allocations as its inputs, all with their bytes, and
    let it be loaded. For a memory space and a label which some input has, both lookups find
    data of one allocation if and only if the allocation visited last under that key is not read
    as empty, or all of the key are read as empty and one of them is. -/
theorem lookups_agree (hwritten : Written before after system dump (some output) file)
    (hsame : output.output_snapshot.allocations = dump.input_snapshot.allocations)
    (hafter : ∀ allocation ∈ output.output_snapshot.allocations, Dumped after allocation)
    (hload : ScopeGuard.load replay file = .ok guard)
    (hkey : ∃ allocation ∈ dump.input_snapshot.allocations, Keyed memory_space label allocation) :
    SameAllocation after replay guard dump.input_snapshot.allocations memory_space label ↔
      Agreeing replay dump.input_snapshot.allocations memory_space label :=
  ⟨agreeing_of_same hwritten hsame hafter hload, same_of_agreeing hwritten hsame hafter hload hkey⟩

end

/-- The groups of a host are visited in the order of the allocations. -/
theorem last_visited_host (memory_space : MemorySpaceType) (label : String)
    (allocations : List ActiveAllocation) :
    last_visited host_replay memory_space label allocations =
      allocations.reverse.find? fun allocation => Keyed memory_space label allocation := by
  have horder : host_replay.iteration_order (view_names allocations 0) =
      allocations.zipIdx.map fun position => view_name position.1 position.2 := view_names_eq allocations 0
  rw [last_visited, visited_of_order (List.Perm.refl _) horder, List.zipIdx_map_fst]

/-- A dump of some small allocations of the host, and their outputs, is loaded. -/
theorem host_outputs_load (before after : Pointer → UInt8) {allocations : List ActiveAllocation}
    (hhost : ∀ allocation ∈ allocations, allocation.record.data_size_known = true ∧
      allocation.record.space = "Host" ∧ allocation.record.p_data ≠ 0 ∧
      allocation.record.size.toNat < 2 ^ 31 ∧ allocation.record.p_data.toNat < 2 ^ 62) :
    let output : KernelOutput := ⟨⟨0, allocations⟩, "krepe_kernel_0.h5"⟩
    ∃ file guard, Written (host_capture before) (host_capture after) plain_system (plain_dump allocations)
        (some output) file ∧
      (∀ allocation ∈ allocations, Dumped (host_capture after) allocation) ∧
      ScopeGuard.load host_replay file = .ok guard := by
  intro output
  have hwritten := @output_written (host_capture before) (host_capture after) (plain_dump allocations) rfl output
  have houtput : ∀ allocation ∈ output_allocations (some output), allocation ∈ allocations :=
    fun _ hmem => hmem
  obtain ⟨guard, hload⟩ := small_host_loads before after hhost houtput hwritten
  exact ⟨_, guard, hwritten, small_host_dumped after hhost, hload⟩

/-- Of two allocations with one label the last has bytes, and both lookups find that one. -/
theorem lookups_agree_example :
    let allocations := [host_allocation "field" 4608 0, host_allocation "field" 4352 3]
    ∃ file guard, Written (host_capture fun _ => 0) (host_capture fun _ => 7) plain_system
        (plain_dump allocations) (some ⟨⟨0, allocations⟩, "krepe_kernel_0.h5"⟩) file ∧
      ScopeGuard.load host_replay file = .ok guard ∧
      SameAllocation (host_capture fun _ => 7) host_replay guard allocations .HOST "field" := by
  intro allocations
  obtain ⟨file, guard, hwritten, hafter, hload⟩ :=
    @host_outputs_load (fun _ => 0) (fun _ => 7) allocations (by decide)
  refine ⟨file, guard, hwritten, hload, (lookups_agree hwritten rfl hafter hload (by decide)).mpr (Or.inl ?_)⟩
  rw [last_visited_host]
  exact ⟨host_allocation "field" 4352 3, rfl, by decide⟩

/-- Of two allocations with one label the last is empty: the address of the last is then
    compared with the output of the other one. -/
theorem lookups_disagree :
    let allocations := [host_allocation "field" 4352 3, host_allocation "field" 4608 0]
    ∃ file guard, Written (host_capture fun _ => 0) (host_capture fun _ => 7) plain_system
        (plain_dump allocations) (some ⟨⟨0, allocations⟩, "krepe_kernel_0.h5"⟩) file ∧
      ScopeGuard.load host_replay file = .ok guard ∧
      ¬ SameAllocation (host_capture fun _ => 7) host_replay guard allocations .HOST "field" := by
  intro allocations
  obtain ⟨file, guard, hwritten, hafter, hload⟩ :=
    @host_outputs_load (fun _ => 0) (fun _ => 7) allocations (by decide)
  refine ⟨file, guard, hwritten, hload, fun hfound => ?_⟩
  rcases agreeing_of_same hwritten rfl hafter hload hfound with ⟨last, hlast, hbytes⟩ | ⟨hall, _⟩
  · rw [last_visited_host] at hlast
    cases hlast
    exact hbytes (by decide)
  · exact absurd (hall (host_allocation "field" 4352 3) List.mem_cons_self ⟨rfl, rfl⟩) (by decide)

end krepe
