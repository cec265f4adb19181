import Krepe.RoundTrip.Host

open std hdf5 memory outcome

namespace krepe

open impl

section

variable {capture : CaptureMachine} {replay : ReplayMachine} {dump : KernelDump} {file : File}

/-- The parts of a dump which are not memory are read. -/
theorem DumpStored.rest_ends (hstored : DumpStored capture dump file) (replay : ReplayMachine)
    {E : Failure → Prop} (hE : ∀ failure, ¬ Fault failure → E failure) :
    Ends E (fun _ => True) (impl.read_metadata replay file) ∧
      Ends E (fun _ => True) (read_functor_from_hdf5 replay file) ∧
      Ends E (fun _ => True) (read_policy_from_hdf5 replay.build file) := by
  obtain ⟨metadata, hmetadata⟩ := hstored.read_metadata replay
  rw [hmetadata, hstored.read_functor replay]
  exact ⟨trivial, trivial, (hstored.read_policy replay.build).mono (fun _ _ => trivial) hE⟩

/-- Unless it throws, the constructor has seen the bytes of every allocation. -/
theorem loaded_dumped (hstored : DumpStored capture dump file)
    (hloads : ∀ failure, ScopeGuard.load_input replay file = .error failure → Fault failure) :
    (∀ allocation ∈ dump.input_snapshot.allocations, Dumped capture allocation) ∧
      ∀ memory_space, ∀ entry ∈ input_entries capture replay dump,
        entry.Reservable replay memory_space := by
  have hthrown : ∀ failure, ¬ Fault failure → Fault failure → ∀ memory_space,
      ∀ entry ∈ input_entries capture replay dump, entry.Reservable replay memory_space :=
    fun failure hnot hfault => absurd hfault hnot
  obtain ⟨hmetadata, hfunctor, hpolicy⟩ := hstored.rest_ends replay hthrown
  have hends := @load_input_ends replay (fun failure => Fault failure → ∀ memory_space,
      ∀ entry ∈ input_entries capture replay dump, entry.Reservable replay memory_space) _ _
    (hstored.visits replay) (fun _ _ _ => hthrown _ (not_fault_runtime_error _)) (fun hall _ _ _ => hall)
    (fun _ _ _ _ _ _ _ => hthrown _ (not_fault_runtime_error _))
    (fun _ _ => hthrown _ (not_fault_runtime_error _)) (fun _ _ _ _ => hthrown _ not_fault_bad_alloc)
    hmetadata hfunctor hpolicy
  have hreservable : ∀ memory_space, ∀ entry ∈ input_entries capture replay dump,
      entry.Reservable replay memory_space := by
    cases hload : ScopeGuard.load_input replay file with
    | error failure => exact hends.of_error hload (hloads failure hload)
    | ok guard => exact fun memory_space entry hentry =>
        ((hends.of_ok hload).1 entry hentry).reservable memory_space
  exact ⟨fun allocation hallocation => dumped_of_reservable fun memory_space =>
    hreservable memory_space _ (mem_input_entries.mpr ⟨allocation, hallocation, rfl⟩), hreservable⟩

/-- With fewer than `2^31` bytes each, the allocations are restored. -/
theorem load_input_restores (hstored : DumpStored capture dump file)
    (hfits : ∀ allocation ∈ dump.input_snapshot.allocations, allocation.record.size ≠ 0 →
      allocation.record.p_data.toNat + allocation.record.size.toNat +
        replay.allocation_granularity (memory_space_type_from_string allocation.record.space) < 2 ^ 64)
    (hdumped : ∀ allocation ∈ dump.input_snapshot.allocations, Dumped capture allocation)
    (hsmall : ∀ allocation ∈ dump.input_snapshot.allocations, allocation.record.size.toNat < 2 ^ 31) :
    Ends (fun failure => ¬ Fault failure)
      (fun guard => ∃ (metadata : UnorderedMap String String) (functor : List UInt8 × List UInt8)
          (policy : PolicyVar), guard = { restore_entries (reserved_guard replay (input_entries capture replay dump))
            (input_entries capture replay dump) replay with
          metadata := metadata
          functor_data := functor.1
          nvcc_inner_lambda_data := functor.2
          replay_policy := policy } ∧
        ∀ entry ∈ input_entries capture replay dump,
          entry.Copyable replay (reserved_guard replay (input_entries capture replay dump)))
      (ScopeGuard.load_input replay file) := by
  obtain ⟨hmetadata, hfunctor, hpolicy⟩ := hstored.rest_ends replay fun failure hnot => hnot
  have hentries : ∀ entry ∈ input_entries capture replay dump, entry.Small replay := by
    intro entry hentry
    obtain ⟨allocation, hallocation, rfl⟩ := mem_input_entries.mp hentry
    refine ⟨_, stored_entry_bytes (hdumped allocation hallocation), ?_, fun hne => ?_⟩
    · rw [memory_bytes_length]
      exact hsmall allocation hallocation
    · rw [memory_bytes_length]
      refine hfits allocation hallocation fun hzero => hne ?_
      rw [hzero]
      rfl
  refine (load_input_ends (hstored.visits replay) (fun _ _ _ => not_fault_runtime_error _)
    (fun hreservable hbad => absurd hbad ?_) (fun _ _ _ _ _ _ _ => not_fault_runtime_error _)
    (fun _ _ => not_fault_runtime_error _) (fun _ _ _ _ => not_fault_bad_alloc) hmetadata hfunctor
    hpolicy).mono ?_ fun _ hfailure => hfailure
  · rintro ⟨entry, hentry, hnot⟩
    exact hnot (Entry.Small.copyable hentries hreservable entry hentry)
  · rintro guard ⟨hall, metadata, functor, policy, _, _, _, rfl⟩
    exact ⟨metadata, functor, policy, rfl, fun entry hentry => (hall entry hentry).copyable⟩

/-- Every copy is one of the memory which was captured. -/
theorem copies_captured
    (hdumped : ∀ allocation ∈ dump.input_snapshot.allocations, Dumped capture allocation)
    (hsmall : ∀ allocation ∈ dump.input_snapshot.allocations, allocation.record.size.toNat < 2 ^ 31)
    (memory_space : MemorySpaceType) :
    ∀ copy ∈ copies memory_space (input_entries capture replay dump),
      Memory.CopyOf (fun address => capture.byte (UInt64.ofNat address)) copy := by
  intro copy hcopy
  obtain ⟨entry, hentry, hsome⟩ := List.mem_filterMap.mp (List.mem_reverse.mp hcopy)
  obtain ⟨allocation, hallocation, rfl⟩ := mem_input_entries.mp hentry
  simp only [Entry.copy, Option.ite_none_right_eq_some, Option.some.injEq] at hsome
  obtain ⟨_, rfl⟩ := hsome
  have hdata := Entry.data_of_lt (stored_entry_bytes (hdumped allocation hallocation))
    (by rw [memory_bytes_length]; exact hsmall allocation hallocation)
  intro offset hoffset
  simp only [hdata, memory_bytes_length] at hoffset ⊢
  rw [memory_bytes_getElem? _ _ hoffset, UInt64.ofNat_add]
  simp only [stored_entry, UInt64.ofNat_toNat]

/-- A small nonempty input is read with its bytes at its address after a load. -/
theorem read_restored
    (hdumped : ∀ allocation ∈ dump.input_snapshot.allocations, Dumped capture allocation)
    (hsmall : ∀ allocation ∈ dump.input_snapshot.allocations, allocation.record.size.toNat < 2 ^ 31)
    (hcopyable : ∀ entry ∈ input_entries capture replay dump,
      entry.Copyable replay (reserved_guard replay (input_entries capture replay dump)))
    {allocation : ActiveAllocation} (hallocation : allocation ∈ dump.input_snapshot.allocations)
    {offset : Nat} (hoffset : offset < allocation.record.size.toNat) :
    ((restore_entries (reserved_guard replay (input_entries capture replay dump))
        (input_entries capture replay dump) replay).memory
          (memory_space_type_from_string allocation.record.space)).read
        (allocation.record.p_data.toNat + offset) =
      some (capture.byte (allocation.record.p_data + UInt64.ofNat offset)) := by
  have hentry : stored_entry capture allocation ∈ input_entries capture replay dump :=
    mem_input_entries.mpr ⟨allocation, hallocation, rfl⟩
  have hdata := Entry.data_of_lt (stored_entry_bytes (hdumped allocation hallocation))
    (by rw [memory_bytes_length]; exact hsmall allocation hallocation)
  have hlength : offset < (stored_entry capture allocation).data.length := by
    rw [hdata, memory_bytes_length]
    exact hoffset
  have hne : (stored_entry capture allocation).data ≠ [] := List.ne_nil_of_length_pos (by omega)
  have hcopy : ((stored_entry capture allocation).address, (stored_entry capture allocation).data) ∈
      copies (memory_space_type_from_string allocation.record.space) (input_entries capture replay dump) := by
    refine List.mem_reverse.mpr (List.mem_filterMap.mpr ⟨_, hentry, ?_⟩)
    rw [Entry.copy, if_pos ⟨rfl, hne⟩]
  have hbyte : capture.byte (allocation.record.p_data + UInt64.ofNat offset) =
      capture.byte (UInt64.ofNat (allocation.record.p_data.toNat + offset)) := by
    rw [UInt64.ofNat_add, UInt64.ofNat_toNat]
  have hcopies : ((restore_entries (reserved_guard replay (input_entries capture replay dump))
      (input_entries capture replay dump) replay).memory
        (memory_space_type_from_string allocation.record.space)).copies =
      copies (memory_space_type_from_string allocation.record.space) (input_entries capture replay dump) := by
    rw [restore_entries_memory]
    exact List.append_nil _
  rw [hbyte]
  refine Memory.read_of_copyOf (hcopies ▸ copies_captured hdumped hsmall _) (hcopies ▸ hcopy) hlength ?_
  rw [restore_entries_memory]
  exact (hcopyable _ hentry).mapped offset hlength

end

/-- An allocation is restored: the size which both passes over the inputs take is
    its size, its bytes fit in the buffer which they are read to, and they are
    mapped where they were captured. -/
structure Restored (capture : CaptureMachine) (replay : ReplayMachine) (file : File) (guard : ScopeGuard)
    (position : ActiveAllocation × Nat) : Prop where
  sizes : ∃ dataset, bytes_dataset file (position_path "in" position) = .ok dataset ∧
    buffer_size dataset.dims = .ok position.1.record.size.toNat
  fits : ∀ dataset data size buffer, bytes_dataset file (position_path "in" position) = .ok dataset →
    read_uchar dataset = .ok data → buffer_size dataset.dims = .ok size →
    allocate_host_buffer replay size (memory_space_type_from_string position.1.record.space) = .ok buffer →
    data.length ≤ buffer.length
  bytes : ∀ offset < position.1.record.size.toNat,
    (guard.memory (memory_space_type_from_string position.1.record.space)).read
        (position.1.record.p_data.toNat + offset) =
      some (capture.byte (position.1.record.p_data + UInt64.ofNat offset))

section

variable {capture : CaptureMachine} {replay : ReplayMachine} {dump : KernelDump} {file : File}

/-- The group of a dumped allocation has its bytes. -/
theorem bytes_dataset_of_dumped {object : Path} {allocation : ActiveAllocation}
    (hreads : Reads file object (stored_entry capture allocation)) (hdumped : Dumped capture allocation) :
    ∃ data, bytes_dataset file object = .ok ⟨.uchar, [allocation.record.size.toNat], data⟩ ∧
      read_uchar ⟨.uchar, [allocation.record.size.toNat], data⟩ =
        .ok (memory_bytes capture.byte allocation.record.p_data allocation.record.size) := by
  have hread := bytes_dataset_of_reads hreads
  rw [stored_entry_bytes hdumped] at hread
  simpa only [memory_bytes_length] using hread

/-- No size from `2^31` on is read as what it is. -/
theorem lt_of_read_size_eq {length : Nat} (hmax : length < 2 ^ 63) (hsize : read_size length = length) :
    length < 2 ^ 31 := by
  rw [read_size_eq] at hsize
  split at hsize <;> omega

/-- A size which is taken for what it is has fewer than `2^31` bytes. -/
theorem size_lt_of_dataset {object : Path} {allocation : ActiveAllocation}
    (hreads : Reads file object (stored_entry capture allocation)) (hdumped : Dumped capture allocation)
    (hsizes : ∃ dataset, bytes_dataset file object = .ok dataset ∧
      buffer_size dataset.dims = .ok allocation.record.size.toNat) :
    allocation.record.size.toNat < 2 ^ 31 := by
  obtain ⟨dataset, hdataset, hsize⟩ := hsizes
  obtain ⟨data, hstored, _⟩ := bytes_dataset_of_dumped hreads hdumped
  rw [hstored] at hdataset
  cases hdataset
  rw [buffer_size_single, Except.ok.injEq] at hsize
  exact lt_of_read_size_eq hdumped.size_lt hsize

/-- A dumped allocation of fewer than `2^31` bytes is restored with its bytes. -/
theorem restored_of_read {guard : ScopeGuard} {position : ActiveAllocation × Nat}
    (hreads : Reads file (position_path "in" position) (stored_entry capture position.1))
    (hdumped : Dumped capture position.1) (hsmall : position.1.record.size.toNat < 2 ^ 31)
    (hbytes : ∀ offset < position.1.record.size.toNat,
      (guard.memory (memory_space_type_from_string position.1.record.space)).read
          (position.1.record.p_data.toNat + offset) =
        some (capture.byte (position.1.record.p_data + UInt64.ofNat offset))) :
    Restored capture replay file guard position := by
  obtain ⟨stored, hdataset, hread⟩ := bytes_dataset_of_dumped hreads hdumped
  have hexact : buffer_size [position.1.record.size.toNat] = .ok position.1.record.size.toNat := by
    rw [buffer_size_single, read_size_of_lt hsmall]
  refine ⟨⟨_, hdataset, hexact⟩, fun dataset data size buffer hsome hdata hsize hbuffer => ?_, hbytes⟩
  rw [hdataset] at hsome
  cases hsome
  rw [hread] at hdata
  cases hdata
  rw [hexact] at hsize
  cases hsize
  unfold allocate_host_buffer at hbuffer
  split at hbuffer
  · next host hhost =>
    cases hbuffer
    rw [memory_bytes_length, replay.host_buffer_length _ _ _ hhost]
  · cases hbuffer

/-- Let a dump be written without an error, whose inputs with bytes end, rounded up, before the
    end of the address space, and let the constructor of the guard not throw. It ends with every
    nonempty input restored, at its address in the memory space of its name and with its bytes,
    if and only if every input has less than `2^31` bytes. -/
theorem memory_round_trip {system : DumpSystem} {fault : Option Nat}
    (hcreate : (create_kernel_dump capture system fault dump file).1.ok = true)
    (hfits : ∀ allocation ∈ dump.input_snapshot.allocations, allocation.record.size ≠ 0 →
      allocation.record.p_data.toNat + allocation.record.size.toNat +
        replay.allocation_granularity (memory_space_type_from_string allocation.record.space) < 2 ^ 64)
    (hloads : ∀ failure, ScopeGuard.load replay (create_kernel_dump capture system fault dump file).2 =
      .error failure → Fault failure) :
    (∃ guard, ScopeGuard.load replay (create_kernel_dump capture system fault dump file).2 = .ok guard ∧
      ∀ position ∈ dump.input_snapshot.allocations.zipIdx, position.1.record.size ≠ 0 →
        Restored capture replay (create_kernel_dump capture system fault dump file).2 guard position) ↔
      ∀ allocation ∈ dump.input_snapshot.allocations, allocation.record.size.toNat < 2 ^ 31 := by
  have hstored := DumpStored.of_exec (create_kernel_dump_ok capture system hcreate)
  rw [hstored.load] at hloads
  obtain ⟨hdumped, _⟩ := loaded_dumped hstored hloads
  constructor
  · rintro ⟨guard, _, hrestored⟩ allocation hallocation
    by_cases hempty : allocation.record.size = 0
    · simp [hempty]
    · obtain ⟨index, hposition⟩ := exists_position hallocation
      exact size_lt_of_dataset (hstored.reads hposition) (hdumped _ hallocation)
        (hrestored _ hposition hempty).sizes
  · intro hsmall
    have hends := load_input_restores hstored hfits hdumped hsmall
    cases hload : ScopeGuard.load_input replay (create_kernel_dump capture system fault dump file).2 with
    | error failure => exact absurd (hloads failure hload) (hends.of_error hload)
    | ok guard =>
      obtain ⟨metadata, functor, policy, rfl, hcopyable⟩ := hends.of_ok hload
      refine ⟨_, (hstored.load replay).trans hload, fun position hposition hsize => ?_⟩
      have hallocation := List.fst_mem_of_mem_zipIdx hposition
      exact restored_of_read (hstored.reads hposition) (hdumped _ hallocation) (hsmall _ hallocation)
        fun offset hoffset => read_restored hdumped hsmall hcopyable hallocation hoffset

end

/-- The allocation of a view of so many bytes. -/
def host_allocation (label : String) (p_data : Pointer) (size : UInt64) : ActiveAllocation :=
  ⟨p_data - 128, ⟨label, "Host", p_data, size, size + 128, true⟩⟩

/-- A dumped allocation of the host can be reserved in every memory space that is asked for. -/
theorem host_reservable {byte : Pointer → UInt8} {allocation : ActiveAllocation}
    (hspace : allocation.record.space = "Host") (hdumped : Dumped (host_capture byte) allocation)
    (memory_space : MemorySpaceType) :
    (stored_entry (host_capture byte) allocation).Reservable host_replay memory_space := by
  have hhost : (stored_entry (host_capture byte) allocation).memory_space = .HOST := by
    simp [Entry.memory_space, stored_entry, hspace, memory_space_type_from_string]
  refine ⟨fun _ => by simp [stored_entry_bytes hdumped], fun hrequest hdevice => absurd ?_ hrequest⟩
  simp [Entry.request, stored_entry_bytes hdumped, hhost, hdevice]

/-- A dump of dumped allocations of the host is loaded when they are copied. -/
theorem plain_dump_loads {byte : Pointer → UInt8} {allocations : List ActiveAllocation} {file : File}
    (hstored : DumpStored (host_capture byte) (plain_dump allocations) file)
    (hhost : ∀ allocation ∈ allocations, allocation.record.space = "Host" ∧
      Dumped (host_capture byte) allocation)
    (hrounded : Rounded host_replay (input_entries (host_capture byte) host_replay (plain_dump allocations)))
    (hcopyable : ∀ entry ∈ input_entries (host_capture byte) host_replay (plain_dump allocations),
      entry.Copyable host_replay (reserved_guard host_replay
        (input_entries (host_capture byte) host_replay (plain_dump allocations)))) :
    ∃ guard, ScopeGuard.load host_replay file = .ok guard := by
  obtain ⟨hmetadata, hfunctor, hpolicy⟩ := host_dump_rest hstored rfl
  rw [hstored.load]
  refine load_input_ready host_replay_ready hrounded (hstored.visits host_replay)
    (fun entry hentry => ⟨fun memory_space => ?_, hcopyable entry hentry⟩) hmetadata hfunctor hpolicy
  obtain ⟨allocation, hallocation, rfl⟩ := mem_input_entries.mp hentry
  exact host_reservable (hhost allocation hallocation).1 (hhost allocation hallocation).2 memory_space

/-- Two inputs in one page, one of which is empty: all is restored. -/
theorem memory_round_trip_example :
    let capture := host_capture fun address => address.toUInt8
    let dump := plain_dump [host_allocation "values" 4352 3, host_allocation "empty" 4608 0]
    let file := (create_kernel_dump capture plain_system none dump no_file).2
    (∃ guard, ScopeGuard.load host_replay file = .ok guard ∧
      ∀ position ∈ dump.input_snapshot.allocations.zipIdx, position.1.record.size ≠ 0 →
        Restored capture host_replay file guard position) := by
  intro capture dump file
  obtain ⟨hcreate, hstored⟩ := plain_dump_created capture
    [host_allocation "values" 4352 3, host_allocation "empty" 4608 0]
  have hhost : ∀ allocation ∈ dump.input_snapshot.allocations,
      allocation.record.space = "Host" ∧ Dumped capture allocation := by
    intro allocation hallocation
    simp only [dump, plain_dump, List.mem_cons, List.not_mem_nil, or_false] at hallocation
    rcases hallocation with rfl | rfl <;> exact ⟨rfl, host_dumped _ rfl rfl (by decide) (by decide)⟩
  have hentries : ∀ entry ∈ input_entries capture host_replay dump, entry.Small host_replay := by
    intro entry hentry
    obtain ⟨allocation, hallocation, rfl⟩ := mem_input_entries.mp hentry
    refine ⟨_, stored_entry_bytes (hhost allocation hallocation).2, ?_⟩
    rw [memory_bytes_length]
    simp only [dump, plain_dump, List.mem_cons, List.not_mem_nil, or_false] at hallocation
    rcases hallocation with rfl | rfl <;> exact ⟨by decide, fun _ => by decide⟩
  have hreservable : ∀ memory_space, ∀ entry ∈ input_entries capture host_replay dump,
      entry.Reservable host_replay memory_space := by
    intro memory_space entry hentry
    obtain ⟨allocation, hallocation, rfl⟩ := mem_input_entries.mp hentry
    exact host_reservable (hhost allocation hallocation).1 (hhost allocation hallocation).2 memory_space
  obtain ⟨guard, hguard⟩ := plain_dump_loads hstored hhost (rounded_of_small hentries)
    (Entry.Small.copyable hentries hreservable)
  refine (memory_round_trip hcreate (by decide) fun failure hfailure => ?_).mpr (by decide)
  rw [hguard] at hfailure
  cases hfailure

/-- A view of four gibibytes of the host. -/
def large_field : ActiveAllocation := host_allocation "field" 4352 4294967296

/-- It is dumped and silently treated as empty. -/
theorem large_field_not_restored {file : File}
    (hstored : DumpStored (host_capture fun _ => 7) (plain_dump [large_field]) file) :
    (∃ guard, ScopeGuard.load host_replay file = .ok guard) ∧
      ¬ ∃ guard, ScopeGuard.load host_replay file = .ok guard ∧
        ∀ position ∈ (plain_dump [large_field]).input_snapshot.allocations.zipIdx,
          position.1.record.size ≠ 0 → Restored (host_capture fun _ => 7) host_replay file guard position := by
  have hdumped : Dumped (host_capture fun _ => 7) large_field :=
    host_dumped _ rfl rfl (by decide) (by decide)
  have hbytes := stored_entry_bytes hdumped
  have hlength : (memory_bytes (host_capture fun _ => 7).byte large_field.record.p_data
      large_field.record.size).length = 2 ^ 32 := memory_bytes_length _ _ _
  have hsize : read_size (2 ^ 32) = 0 := by
    rw [read_size_eq]
    decide
  have hempty : (stored_entry (host_capture fun _ => 7) large_field).data = [] := by
    rw [Entry.data, hbytes]
    exact if_neg (by rw [hlength]; decide)
  have hentries : ∀ entry ∈ input_entries (host_capture fun _ => 7) host_replay (plain_dump [large_field]),
      entry = stored_entry (host_capture fun _ => 7) large_field := by
    intro entry hentry
    obtain ⟨allocation, hallocation, rfl⟩ := mem_input_entries.mp hentry
    rw [List.mem_singleton.mp hallocation]
  have hloads : ∃ guard, ScopeGuard.load host_replay file = .ok guard := by
    refine plain_dump_loads hstored (fun allocation hallocation => ?_) (fun memory_space request hrequest => ?_)
      fun entry hentry => ?_
    · rw [List.mem_singleton.mp hallocation]
      exact ⟨rfl, hdumped⟩
    · obtain ⟨entry, hentry, hsome⟩ := List.mem_filterMap.mp hrequest
      rw [hentries entry hentry, Entry.request, hbytes] at hsome
      simp only [hlength, hsize, ne_eq, not_true_eq_false, and_false, if_false, reduceCtorEq] at hsome
    · rw [hentries entry hentry]
      refine ⟨⟨_, hbytes, Or.inr (hlength ▸ Nat.dvd_refl _)⟩, fun hne => absurd hempty hne, ?_⟩
      simp [hempty]
  refine ⟨hloads, ?_⟩
  rintro ⟨guard, _, hrestored⟩
  have hposition : (large_field, 0) ∈ [large_field].zipIdx :=
    List.mem_singleton_self _
  exact absurd (size_lt_of_dataset (hstored.reads hposition) hdumped (hrestored _ hposition (by decide)).sizes)
    (by decide)

/-- An input of `2^32` bytes is written and the dump is loaded, but nothing of the input is
    restored, since its size is read as zero. -/
theorem memory_not_restored :
    (create_kernel_dump (host_capture fun _ => 7) plain_system none (plain_dump [large_field]) no_file).1.ok =
        true ∧
      (∃ guard, ScopeGuard.load host_replay (create_kernel_dump (host_capture fun _ => 7) plain_system none
        (plain_dump [large_field]) no_file).2 = .ok guard) ∧
      ¬ ∃ guard, ScopeGuard.load host_replay (create_kernel_dump (host_capture fun _ => 7) plain_system none
          (plain_dump [large_field]) no_file).2 = .ok guard ∧
        ∀ position ∈ (plain_dump [large_field]).input_snapshot.allocations.zipIdx,
          position.1.record.size ≠ 0 → Restored (host_capture fun _ => 7) host_replay
            (create_kernel_dump (host_capture fun _ => 7) plain_system none (plain_dump [large_field])
              no_file).2 guard position := by
  obtain ⟨hcreate, hstored⟩ := plain_dump_created (host_capture fun _ => 7) [large_field]
  exact ⟨hcreate, large_field_not_restored hstored⟩

end krepe
