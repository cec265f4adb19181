import Krepe.Memory.Program
import Krepe.OutputLookup
import Krepe.Replay.Launch

open std hdf5 kokkos outcome memory

namespace krepe

open impl replayer

instance (functor : Functor) (policy : Policy) : Decidable (Callable functor policy) := by
  cases policy <;> exact inferInstanceAs (Decidable (_ = true))

section

variable {extract : ExtractBuild} {replay : ReplayBuild} {file : File} {desc : PolicyDesc} {policy : Policy}

/-- A stored scalar policy is read as it was. -/
theorem read_scalar_policy_of_stored {N : UInt64}
    (hstored : PolicyStored policy_path (register_bounds_scalar N) file) :
    read_policy_from_hdf5 replay file = .ok (.scalar ⟨N⟩) := by
  have htype : get_hdf5_string_attribute file policy_path "type" = .ok "scalar" :=
    get_hdf5_string_attribute_of_attr? (hstored.attr? List.mem_cons_self)
  have hend : get_hdf5_uint64_attribute file policy_path "end" = .ok N :=
    get_hdf5_uint64_attribute_of_attr? (hstored.attr? (List.mem_cons_of_mem _ List.mem_cons_self))
  rw [read_policy_from_hdf5, htype, ok_bind, hend]
  rfl

/-- A policy which was registered is launched with every functor which can be called with
    what it passes, and with no other. -/
theorem visit_of_stored (haccepted : register_bounds extract policy = .ok desc)
    (hstored : PolicyStored policy_path desc file) (hfits : FitsFormat policy)
    (hsupported : Supported replay policy) :
    ∃ replay_policy, read_policy_from_hdf5 replay file = .ok replay_policy ∧
      ∀ label functor, ParallelForVisitor.visit ⟨label, functor⟩ replay_policy =
        .ok (if Callable functor policy then [⟨label, queried_policy extract policy, functor⟩] else []) := by
  suffices hcases : ∃ replay_policy, read_policy_from_hdf5 replay file = .ok replay_policy ∧
      (∀ label functor, Callable functor policy → ∃ other, read_policy_from_hdf5 replay file = .ok other ∧
        ParallelForVisitor.visit ⟨label, functor⟩ other =
          .ok [⟨label, queried_policy extract policy, functor⟩]) ∧
      ∀ label functor, ¬ Callable functor policy →
        ParallelForVisitor.visit ⟨label, functor⟩ replay_policy = .ok [] by
    obtain ⟨replay_policy, hread, hcallable, hnot⟩ := hcases
    refine ⟨replay_policy, hread, fun label functor => ?_⟩
    by_cases hcall : Callable functor policy
    · obtain ⟨other, hother, hvisit⟩ := hcallable label functor hcall
      rw [if_pos hcall, Except.ok.inj (hread.symm.trans hother), hvisit]
    · rw [if_neg hcall, hnot label functor hcall]
  cases policy with
  | scalar N =>
    cases haccepted
    refine ⟨_, read_scalar_policy_of_stored hstored, fun label functor => visit_scalar_of_stored label hstored,
      fun label functor hnot => ?_⟩
    simp only [ParallelForVisitor.visit, ParallelForVisitor.visit_scalar]
    exact if_neg hnot
  | range policy =>
    cases haccepted
    refine ⟨_, read_range_policy_of_stored hstored rfl rfl hsupported rfl,
      fun label functor => visit_range_of_stored label hstored hfits hsupported, fun label functor hnot => ?_⟩
    simp only [ParallelForVisitor.visit, ParallelForVisitor.visit_range]
    exact if_neg hnot
  | mdrange policy =>
    obtain ⟨outer_dir, inner_dir, houter, hinner, hbounds⟩ := register_bounds_mdrange_eq_ok policy
    refine ⟨_, read_mdrange_policy_of_stored (Except.ok.inj (haccepted.symm.trans hbounds) ▸ hstored) rfl rfl
      hsupported.1 rfl hsupported.2 houter hinner,
      fun label functor => visit_mdrange_of_stored label haccepted hstored hsupported, fun label functor hnot => ?_⟩
    simp only [ParallelForVisitor.visit, ParallelForVisitor.visit_mdrange]
    exact if_neg hnot
  | team policy =>
    cases haccepted
    refine ⟨_, read_team_policy_of_stored hstored rfl rfl hsupported rfl,
      fun label functor => visit_team_of_stored label hstored hfits hsupported, fun label functor hnot => ?_⟩
    simp only [ParallelForVisitor.visit, ParallelForVisitor.visit_team]
    exact if_neg hnot

end

section

variable {before after : CaptureMachine} {replay : ReplayMachine} {system : DumpSystem} {dump : KernelDump}
  {output : Option KernelOutput} {file : File} {guard : ScopeGuard}

/-- The functor and the policy of a guard are those of the dump. -/
theorem Written.rest_of_load (hwritten : Written before after system dump output file)
    (hload : ScopeGuard.load replay file = .ok guard) :
    guard.functor_data = dump.functor_data ∧
      guard.nvcc_inner_lambda_data = (if replay.use_nvcc_hdl_workaround then dump.nvcc_inner_lambda_data else []) ∧
      ∃ created, DumpStored before dump created ∧
        read_policy_from_hdf5 replay.build created = .ok guard.replay_policy := by
  obtain ⟨restored, hinput, houtput⟩ := bind_eq_ok.mp hload
  obtain ⟨created, hstored, hsame, _⟩ := hwritten.load_input
  obtain ⟨_, rfl⟩ := (hwritten.loads_outputs replay).of_ok houtput
  rw [hsame] at hinput
  simp only [ScopeGuard.load_input, bind_eq_ok] at hinput
  obtain ⟨_, _, _, _, _, _, _, _, _, _, functor, hfunctor, policy, hpolicy, hguard⟩ := hinput
  obtain rfl := Except.ok.inj hguard
  rw [hstored.read_functor, Except.ok.injEq] at hfunctor
  rw [allocate_entries_rest]
  exact ⟨by rw [← hfunctor], by rw [← hfunctor], created, hstored, hpolicy⟩

/-- The memory of a guard holds the inputs which were dumped. -/
theorem Written.read_of_load (hwritten : Written before after system dump output file)
    (hload : ScopeGuard.load replay file = .ok guard)
    (hsmall : ∀ allocation ∈ dump.input_snapshot.allocations, allocation.record.size.toNat < 2 ^ 31)
    {allocation : ActiveAllocation} (hallocation : allocation ∈ dump.input_snapshot.allocations)
    {offset : Nat} (hoffset : offset < allocation.record.size.toNat) :
    (guard.memory allocation.memory_space).read (allocation.record.p_data.toNat + offset) =
      some (before.byte (allocation.record.p_data + UInt64.ofNat offset)) := by
  obtain ⟨restored, hinput, houtput⟩ := bind_eq_ok.mp hload
  obtain ⟨hall, _, metadata, functor, policy, _, _, rfl⟩ := hwritten.load_input_ok hinput
  obtain ⟨_, rfl⟩ := (hwritten.loads_outputs replay).of_ok houtput
  have hdumped : ∀ other ∈ dump.input_snapshot.allocations, Dumped before other := fun other hother =>
    dumped_of_reservable (hall _ (mem_input_entries.mpr ⟨other, hother, rfl⟩)).reservable
  rw [allocate_entries_rest]
  exact read_restored hdumped hsmall (fun entry hentry => (hall entry hentry).copyable) hallocation hoffset

section

variable {storage : Nat → Nat → UInt8} {thread : Thread} {functor_storage : Nat} {functor : Functor}
  {launched : Option Policy} {extract : ExtractBuild}

/-- What a `parallel_for` of the replayer is to launch: a forced policy, or the one which was
    launched when it was captured. -/
def launches_to_replay (extract : ExtractBuild) (launched : Option Policy) (label : String)
    (replayed : Functor) : GivenPolicy → Except Failure (List Launch)
  | .force_policy policy => .ok [⟨label, policy, replayed⟩]
  | .ignored =>
    match launched with
    | some policy =>
      .ok (if Callable replayed policy then [⟨label, queried_policy extract policy, replayed⟩] else [])
    | none => .error (.runtime_error ("Trying to use a replay parallel_for but the replay dump does not " ++
        "contain an execution policy"))

/-- The visit of the policy of a guard makes the launch which is to be replayed. -/
theorem Written.visit_of_load (hwritten : Written before after system dump output file)
    (hload : ScopeGuard.load replay file = .ok guard)
    (hregistered : RegisteredPolicy extract launched dump.policy)
    (hfits : ∀ policy ∈ launched, FitsFormat policy)
    (hmax : ∀ mdrange, launched = some (.mdrange mdrange) → mdrange.rank ≤ 6) (label : String)
    (replayed : Functor) :
    ParallelForVisitor.visit ⟨label, replayed⟩ guard.replay_policy =
      launches_to_replay extract launched label replayed .ignored := by
  obtain ⟨_, _, created, hstored, hread⟩ := hwritten.rest_of_load hload
  cases launched with
  | none =>
    have hnone : dump.policy = .no_policy := hregistered
    rw [read_no_policy (hnone ▸ hstored.policy)] at hread
    rw [← Except.ok.inj hread]
    rfl
  | some policy =>
    have haccepted : register_bounds extract policy = .ok dump.policy := hregistered
    have hsupported := (hregistered.read_iff hmax hstored.policy replay.build).mp ⟨_, hread⟩ policy rfl
    obtain ⟨stored, hstoredRead, hvisit⟩ :=
      visit_of_stored haccepted hstored.policy (hfits policy rfl) hsupported
    rw [Except.ok.inj (hread.symm.trans hstoredRead)]
    exact hvisit label replayed

/-- With enough bytes for the functor, `parallel_for` makes the launches of the policy and
    restores the thread. -/
theorem parallel_for_enough (hwritten : Written before after system dump output file)
    (hload : ScopeGuard.load replay file = .ok guard)
    (hregistered : RegisteredPolicy extract launched dump.policy)
    (hfits : ∀ policy ∈ launched, FitsFormat policy)
    (hmax : ∀ mdrange, launched = some (.mdrange mdrange) → mdrange.rank ≤ 6)
    (hfunctor : thread.block functor_storage = some functor.bytes)
    (henough : functor.bytes.length ≤ dump.functor_data.length) (label : String) (p : GivenPolicy) :
    ∃ final, final.view = { thread.view with
        destroyed := thread.destroyed ++ [(functor.bytes, functor.bytes)]
        tracking_enabled := true } ∧
      replayer.parallel_for storage guard label p functor_storage functor thread =
        lift_except (launches_to_replay extract launched label
          { functor with bytes := dump.functor_data.take functor.bytes.length } p) final := by
  obtain ⟨final, hreplay, hview⟩ := @replay_functor_enough storage _ _ _ _ hfunctor henough
  refine ⟨final, hview, ?_⟩
  unfold replayer.parallel_for
  rw [(hwritten.rest_of_load hload).1, bind_ok hreplay]
  cases p with
  | force_policy policy => rfl
  | ignored => rw [hwritten.visit_of_load hload hregistered hfits hmax]

/-- Let a dump be written and loaded, of a launch whose policy was registered, fits the format
    and has at most six dimensions. For every label and forced policy, and a functor which lives
    in its storage: if the dump has enough bytes for the functor, `parallel_for` makes the
    launches of the forced policy, else of the captured one, with the captured bytes, and leaves
    the thread as it was but for the destroyed temporary and the tracking; a functor which
    cannot be called with the policy gives no launch and no error. -/
theorem parallel_for_replays (hwritten : Written before after system dump output file)
    (hload : ScopeGuard.load replay file = .ok guard)
    (hregistered : RegisteredPolicy extract launched dump.policy)
    (hfits : ∀ policy ∈ launched, FitsFormat policy)
    (hmax : ∀ mdrange, launched = some (.mdrange mdrange) → mdrange.rank ≤ 6)
    (hfunctor : thread.block functor_storage = some functor.bytes) (label : String) (p : GivenPolicy) :
    if dump.functor_data.length < functor.bytes.length then
      ∃ final, replayer.parallel_for storage guard label p functor_storage functor thread =
        .error (functor_smaller dump.functor_data.length functor.bytes.length) final
    else
      ∃ final, final.view = { thread.view with
          destroyed := thread.destroyed ++ [(functor.bytes, functor.bytes)]
          tracking_enabled := true } ∧
        replayer.parallel_for storage guard label p functor_storage functor thread =
          lift_except (launches_to_replay extract launched label
            { functor with bytes := dump.functor_data.take functor.bytes.length } p) final := by
  split
  · next hfew =>
    obtain ⟨final, _, hreplay, _⟩ := @replay_functor_too_few storage _ _ _ _ hfunctor hfew
    refine ⟨final, ?_⟩
    unfold replayer.parallel_for
    rw [(hwritten.rest_of_load hload).1]
    exact bind_error hreplay _
  · next henough =>
    exact parallel_for_enough hwritten hload hregistered hfits hmax hfunctor (Nat.not_lt.mp henough) label p

end

end

/-- A kernel which is launched with a policy and the bytes of a functor. -/
abbrev Kernel := Policy → List UInt8 → Program Pointer UInt8

/-- The launches one after the other, on memory of which a part is mapped. -/
noncomputable def run_launches (kernel : Kernel) (launches : List Launch) (held : Pointer → Option UInt8) :
    Option (Pointer → Option UInt8) :=
  (launches.map fun launch => kernel launch.policy launch.functor.bytes).foldlM
    (fun held program => program.exec held) held

/-- The memory of a guard as a kernel addresses it, where each address is in one memory space. -/
def ScopeGuard.cells (guard : ScopeGuard) (space_of : Pointer → MemorySpaceType) (address : Pointer) :
    Option UInt8 :=
  (guard.memory (space_of address)).read address.toNat

/-- The addresses of the inputs. -/
def input_cells (allocations : List ActiveAllocation) : Set Pointer :=
  { address | ∃ allocation ∈ allocations, ∃ offset < allocation.record.size.toNat,
    allocation.record.p_data + UInt64.ofNat offset = address }

/-- The launch whose dump was written: its kernel touches the inputs only, all of which were
    dumped again after it ran, and its policy is one which the format can hold. -/
structure CapturedLaunch (extract : ExtractBuild) (kernel : Kernel) (space_of : Pointer → MemorySpaceType)
    (before after : CaptureMachine) (dump : KernelDump) (output : KernelOutput) (policy : Policy) : Prop where
  registered : register_bounds extract policy = .ok dump.policy
  fits : FitsFormat policy
  rank : ∀ mdrange, policy = .mdrange mdrange → mdrange.rank ≤ 6
  queried : queried_policy extract policy = policy
  footprint : (kernel policy dump.functor_data).footprint ⊆ input_cells dump.input_snapshot.allocations
  ran : ∀ address ∈ input_cells dump.input_snapshot.allocations,
    after.byte address = (kernel policy dump.functor_data).run before.byte address
  outputs : output.output_snapshot.allocations = dump.input_snapshot.allocations
  dumped : ∀ allocation ∈ output.output_snapshot.allocations, Dumped after allocation
  small : ∀ allocation ∈ dump.input_snapshot.allocations, allocation.record.size.toNat < 2 ^ 31
  ends : ∀ allocation ∈ dump.input_snapshot.allocations,
    allocation.record.p_data.toNat + allocation.record.size.toNat ≤ 2 ^ 64
  spaces : ∀ allocation ∈ dump.input_snapshot.allocations, ∀ offset < allocation.record.size.toNat,
    space_of (allocation.record.p_data + UInt64.ofNat offset) = allocation.memory_space

/-- Each allocation has a range of addresses in its memory space, of a size which can be read. -/
structure Addressed (space_of : Pointer → MemorySpaceType) (allocations : List ActiveAllocation) : Prop where
  small : ∀ allocation ∈ allocations, allocation.record.size.toNat < 2 ^ 31
  ends : ∀ allocation ∈ allocations,
    allocation.record.p_data.toNat + allocation.record.size.toNat ≤ 2 ^ 64
  spaces : ∀ allocation ∈ allocations, ∀ offset < allocation.record.size.toNat,
    space_of (allocation.record.p_data + UInt64.ofNat offset) = allocation.memory_space

section

variable {before after : CaptureMachine} {replay : ReplayMachine} {system : DumpSystem} {dump : KernelDump}
  {output : KernelOutput} {file : File} {guard : ScopeGuard} {extract : ExtractBuild} {kernel : Kernel}
  {space_of : Pointer → MemorySpaceType} {policy : Policy}

/-- The inputs of a captured launch are where its kernel addresses them. -/
theorem CapturedLaunch.addressed (hlaunch : CapturedLaunch extract kernel space_of before after dump output policy) :
    Addressed space_of dump.input_snapshot.allocations := ⟨hlaunch.small, hlaunch.ends, hlaunch.spaces⟩

/-- A kernel which is replayed finds the inputs where it touches memory. -/
theorem Addressed.cells_of_load (haddressed : Addressed space_of dump.input_snapshot.allocations)
    {output : Option KernelOutput} (hwritten : Written before after system dump output file)
    (hload : ScopeGuard.load replay file = .ok guard) :
    ∀ address ∈ input_cells dump.input_snapshot.allocations,
      guard.cells space_of address = some (before.byte address) := by
  rintro _ ⟨allocation, hallocation, offset, hoffset, rfl⟩
  have hends := haddressed.ends allocation hallocation
  have hwidth : UInt64.size = 2 ^ 64 := rfl
  have haddress : (allocation.record.p_data + UInt64.ofNat offset).toNat =
      allocation.record.p_data.toNat + offset := by
    rw [UInt64.toNat_add, UInt64.toNat_ofNat_of_lt' (by omega), Nat.mod_eq_of_lt (by omega)]
  rw [ScopeGuard.cells, haddressed.spaces allocation hallocation offset hoffset, haddress]
  exact hwritten.read_of_load hload haddressed.small hallocation hoffset

/-- The comparison of a view finds at its address what its reference has. -/
def ComparesEqual (guard : ScopeGuard) (replay : ReplayMachine) (held : Pointer → Option UInt8)
    (memory_space : MemorySpaceType) (allocation : ActiveAllocation) : Prop :=
  ∃ expected, guard.compare_views replay memory_space allocation.record.label =
      .ok (allocation.record.p_data.toNat, some expected) ∧
    expected.length = allocation.record.size.toNat ∧
    ∀ offset < expected.length,
      held (allocation.record.p_data + UInt64.ofNat offset) = expected[offset]?

/-- A view compares equal where the memory holds what was there after the captured launch. -/
theorem compares_of_load (hwritten : Written before after system dump (some output) file)
    (hsame : output.output_snapshot.allocations = dump.input_snapshot.allocations)
    (hafter : ∀ allocation ∈ output.output_snapshot.allocations, Dumped after allocation)
    (hload : ScopeGuard.load replay file = .ok guard)
    (hsmall : ∀ allocation ∈ dump.input_snapshot.allocations, allocation.record.size.toNat < 2 ^ 31)
    {held : Pointer → Option UInt8}
    (hheld : ∀ address ∈ input_cells dump.input_snapshot.allocations, held address = some (after.byte address))
    {memory_space : MemorySpaceType} {key : String} {allocation : ActiveAllocation}
    (hlast : last_visited replay memory_space key dump.input_snapshot.allocations = some allocation)
    (hsize : allocation.record.size ≠ 0) : ComparesEqual guard replay held memory_space allocation := by
  obtain ⟨hmem, _, hkey⟩ := last_visited_mem hlast
  have hlt := hsmall allocation hmem
  have hbytes : ¬ ReadsEmpty allocation := fun hdvd =>
    hsize (UInt64.toNat_inj.mp (Nat.eq_zero_of_dvd_of_lt hdvd (by omega)))
  obtain ⟨_, _, hcompare⟩ := lookups_of_bytes hwritten hsame hafter hload hlast hbytes
  refine ⟨_, hkey ▸ hcompare, memory_bytes_length _ _ _, fun offset hoffset => ?_⟩
  rw [memory_bytes_length] at hoffset
  rw [hheld _ ⟨allocation, hmem, offset, hoffset, rfl⟩, memory_bytes_getElem? _ _ hoffset]

/-- Let a launch be captured under the conditions of `CapturedLaunch`, let its dump with the
    output be written and loaded, and let the functor of the replayer live in its storage, have
    the size of the captured one and be callable with the policy. Then `parallel_for` makes one
    launch, with the policy and the functor of the captured one; on the restored memory it
    leaves, in every nonempty view which is the last of its label, what the captured launch left
    there, so that both compare equal. -/
theorem captured_launch_replayed
    (hlaunch : CapturedLaunch extract kernel space_of before after dump output policy)
    (hwritten : Written before after system dump (some output) file)
    (hload : ScopeGuard.load replay file = .ok guard) {storage : Nat → Nat → UInt8} {thread : Thread}
    {functor_storage : Nat} {functor : Functor} (hfunctor : thread.block functor_storage = some functor.bytes)
    (hlength : functor.bytes.length = dump.functor_data.length) (hcallable : Callable functor policy)
    (label : String) :
    ∃ final held, replayer.parallel_for storage guard label .ignored functor_storage functor thread =
        .ok [⟨label, policy, { functor with bytes := dump.functor_data }⟩] final ∧
      run_launches kernel [⟨label, policy, { functor with bytes := dump.functor_data }⟩]
        (guard.cells space_of) = some held ∧
      ∀ memory_space label allocation,
        last_visited replay memory_space label dump.input_snapshot.allocations = some allocation →
        allocation.record.size ≠ 0 → ComparesEqual guard replay held memory_space allocation := by
  have hcallableReplayed : Callable { functor with bytes := dump.functor_data } policy := by
    cases policy <;> exact hcallable
  obtain ⟨final, _, hparallel⟩ := @parallel_for_enough _ _ _ _ _ _ _ _ storage thread functor_storage functor
    (some policy) extract hwritten hload hlaunch.registered (by simpa using hlaunch.fits)
    (fun mdrange hmdrange => hlaunch.rank mdrange (Option.some.inj hmdrange)) hfunctor hlength.le label .ignored
  obtain ⟨held, hheld, hregion⟩ := @Program.foldlM_exec_of_region _ _ _ _ _ before.byte
    [kernel policy dump.functor_data] (by simpa using hlaunch.footprint)
    (hlaunch.addressed.cells_of_load hwritten hload)
  refine ⟨final, held, ?_, hheld, ?_⟩
  · rw [hparallel, hlength, List.take_length]
    simp only [launches_to_replay, hcallableReplayed, if_true, hlaunch.queried]
    rfl
  · intro memory_space key allocation hlast hsize
    refine compares_of_load hwritten hlaunch.outputs hlaunch.dumped hload hlaunch.small ?_ hlast hsize
    intro address haddress
    rw [hregion address haddress, hlaunch.ran address haddress]
    rfl

end

/-- A dump of the launch of seven iterations, with one input. -/
def scalar_dump : KernelDump :=
  { plain_dump [host_allocation "values" 4352 3] with policy := register_bounds_scalar 7 }

/-- The output of a kernel which used one allocation of three bytes. -/
def scalar_output : KernelOutput := ⟨⟨3, [host_allocation "values" 4352 3]⟩, "krepe_kernel_0.h5"⟩

/-- The example's dump is written and loaded, whatever bytes the memory has. -/
theorem scalar_dump_loads (before after : Pointer → UInt8) :
    ∃ file guard, Written (host_capture before) (host_capture after) plain_system scalar_dump
        (some scalar_output) file ∧ ScopeGuard.load host_replay file = .ok guard := by
  have hallocations : ∀ allocation ∈ [host_allocation "values" 4352 3],
      allocation = host_allocation "values" 4352 3 := by simp
  have hwritten := @output_written (host_capture before) (host_capture after) scalar_dump rfl scalar_output
  have hrestorable : Restorable (host_capture before) (host_capture after) host_replay scalar_dump
      (some scalar_output) (some (.scalar 7)) := by
    refine ⟨fun allocation hallocation => ?_, fun allocation hallocation _ => ?_, fun policy hpolicy => ?_⟩
    · rw [hallocations allocation hallocation]
      exact ⟨host_dumped _ rfl rfl (by decide) (by decide), by decide, fun _ hdevice => absurd hdevice (by decide)⟩
    · rw [hallocations allocation hallocation]
      exact ⟨by decide, fun hdevice => absurd hdevice (by decide)⟩
    · rw [← Option.some.inj hpolicy]
      trivial
  have hregistered : RegisteredPolicy ⟨true, false, false, false⟩ (some (.scalar 7)) scalar_dump.policy := rfl
  obtain ⟨guard, hload, _⟩ := hrestorable.loads hwritten host_replay_ready hregistered
    (fun _ hnone => by cases hnone) fun allocation hallocation _ _ => by
      rw [hallocations allocation hallocation]
      decide
  exact ⟨_, guard, hwritten, hload⟩

/-- A functor which is called with one integer, in storage of its own. -/
def scalar_functor : Functor := ⟨[9, 9], fun n => n = 1, fun _ _ _ => false⟩

/-- A thread with one raw buffer of two bytes, and no functor in it yet. -/
def scalar_thread : Thread :=
  ⟨fun id => if id = 0 then some [9, 9] else none, fun _ => none, 1,
    fun _ hid => ⟨if_neg (Nat.ne_of_gt hid), rfl⟩, [], true⟩

/-- A scalar policy of seven indices, which the functor of the replayer can be called with. -/
theorem parallel_for_replays_example :
    ∃ file guard, Written (host_capture fun _ => 0) (host_capture fun _ => 7) plain_system scalar_dump
        (some scalar_output) file ∧ ScopeGuard.load host_replay file = .ok guard ∧
      ∃ final, final.view = { scalar_thread.view with
          destroyed := scalar_thread.destroyed ++ [([9, 9], [9, 9])]
          tracking_enabled := true } ∧
        replayer.parallel_for (fun _ _ => 0) guard "kernel" .ignored 0 scalar_functor scalar_thread =
          lift_except (launches_to_replay ⟨true, false, false, false⟩ (some (.scalar 7)) "kernel"
            { scalar_functor with bytes := [1, 2] } .ignored) final := by
  obtain ⟨file, guard, hwritten, hload⟩ := scalar_dump_loads (fun _ => 0) fun _ => 7
  refine ⟨file, guard, hwritten, hload, ?_⟩
  exact @parallel_for_replays _ _ _ _ _ _ _ _ (fun _ _ => 0) scalar_thread 0 scalar_functor (some (.scalar 7))
    ⟨true, false, false, false⟩ hwritten hload rfl (fun policy hpolicy => by rw [← Option.some.inj hpolicy]; trivial)
    (fun _ hnone => by cases hnone) rfl "kernel" .ignored

/-- A kernel which adds a byte of its functor to what is at three addresses. -/
def add_kernel : Kernel := fun _ functor =>
  { footprint := { address | address ∈ [4352, 4353, 4354] }
    run := fun held address =>
      if address ∈ [4352, 4353, 4354] then held address + functor.headD 0 else held address
    run_congr := fun first second hsame address haddress => by
      simp only [hsame address haddress]
    run_frame := fun held address haddress => if_neg haddress }

/-- The kernel adds the first byte of its functor to each byte of one view, and the comparison
    succeeds after the replay. -/
theorem captured_launch_replayed_example :
    let before : Pointer → UInt8 := fun address => address.toUInt8
    let after := (add_kernel (.scalar 7) [1, 2]).run before
    ∃ file guard, Written (host_capture before) (host_capture after) plain_system scalar_dump
        (some scalar_output) file ∧ ScopeGuard.load host_replay file = .ok guard ∧
      ∃ final held, replayer.parallel_for (fun _ _ => 0) guard "kernel" .ignored 0 scalar_functor scalar_thread =
          .ok [⟨"kernel", .scalar 7, { scalar_functor with bytes := [1, 2] }⟩] final ∧
        run_launches add_kernel [⟨"kernel", .scalar 7, { scalar_functor with bytes := [1, 2] }⟩]
          (guard.cells fun _ => .HOST) = some held ∧
        ∀ memory_space label allocation,
          last_visited host_replay memory_space label [host_allocation "values" 4352 3] = some allocation →
          allocation.record.size ≠ 0 → ComparesEqual guard host_replay held memory_space allocation := by
  intro before after
  obtain ⟨file, guard, hwritten, hload⟩ := scalar_dump_loads before after
  have hlaunch : CapturedLaunch ⟨true, false, false, false⟩ add_kernel (fun _ => .HOST) (host_capture before)
      (host_capture after) scalar_dump scalar_output (.scalar 7) := by
    have hallocations : ∀ allocation ∈ [host_allocation "values" 4352 3],
        allocation = host_allocation "values" 4352 3 := by simp
    refine ⟨rfl, trivial, fun _ hnone => (by cases hnone), rfl, fun address haddress => ?_, fun _ _ => rfl, rfl,
      fun allocation hallocation => ?_, by decide, by decide, fun allocation hallocation _ _ => ?_⟩
    · refine ⟨_, List.mem_singleton_self _, ?_⟩
      rcases List.mem_cons.mp haddress with rfl | htwo
      · exact ⟨0, by decide, rfl⟩
      · rcases List.mem_cons.mp htwo with rfl | hthree
        · exact ⟨1, by decide, rfl⟩
        · rw [List.mem_singleton.mp hthree]
          exact ⟨2, by decide, rfl⟩
    · rw [hallocations allocation hallocation]
      exact host_dumped _ rfl rfl (by decide) (by decide)
    · rw [hallocations allocation hallocation]
      rfl
  exact ⟨file, guard, hwritten, hload, @captured_launch_replayed _ _ _ _ _ _ _ _ _ _ _ _ hlaunch hwritten hload
    (fun _ _ => 0) scalar_thread 0 scalar_functor rfl rfl rfl "kernel"⟩

end krepe
