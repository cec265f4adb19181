import Krepe.Capture.KokkosHooks.ParseArgs
import Krepe.Extract.LaunchedDump
import Krepe.KernelReplay

open std hdf5 kokkos outcome memory

namespace krepe

/-- The path which a dump is written to. -/
def dump_path (system : DumpSystem) (dump : KernelDump) : String :=
  let filename := dump_filename dump.label dump.kernel_id
  match system.absolute filename with
  | .error _ => filename
  | .ok dump_path => dump_path

/-- A dump reports the path it was meant for, whether or not it was written. -/
theorem create_kernel_dump_filename (machine : CaptureMachine) (system : DumpSystem) (fault : Option Nat)
    (dump : KernelDump) (file : File) :
    (create_kernel_dump machine system fault dump file).1.filename = dump_path system dump := by
  unfold create_kernel_dump dump_path
  dsimp only
  cases system.absolute (dump_filename dump.label dump.kernel_id) with
  | error message => rfl
  | ok dump_path =>
    dsimp only
    unfold dump_result
    split
    · rfl
    · rfl

/-- A process of an application with the tool: its arguments, the machine on which a launch
    is dumped, and the files which are there. -/
structure Session where
  extract : ExtractBuild
  build : CaptureBuild
  argv : List CString
  tool_fence : Fence
  machine : CaptureMachine
  system : DumpSystem
  create_fault : Option Nat
  append_fault : Option Nat
  files : String → File

namespace Session

variable (session : Session)

/-- The dump which the session writes for a launch, over whatever the file system has at its
    path. -/
def create (dump : KernelDump) : ViewDumpResult × File :=
  create_kernel_dump session.machine session.system session.create_fault dump
    (session.files (dump_path session.system dump))

/-- The application of the session: its build, the selection its arguments make, and the outcome
    of its dumps. -/
def app : Application where
  extract := session.extract
  run := ⟨session.build, kokkosp_parse_args session.argv .initial, fun dump => (session.create dump).1⟩

/-- The files after the begin hook, and what it reports. -/
def created : Option KernelDump → List ViewDumpResult × (String → File)
  | none => ([], session.files)
  | some dump => ([(session.create dump).1],
      Function.update session.files (dump_path session.system dump) (session.create dump).2)

/-- The files after the end hook, and what it reports. -/
def appended (after : CaptureMachine) (files : String → File) :
    Option KernelOutput → List ViewDumpResult × (String → File)
  | none => ([], files)
  | some output =>
    let (result, file) :=
      append_kernel_output after session.system session.append_fault output (files output.filename)
    ([result], Function.update files output.filename file)

/-- A launch between its hooks, with the memory which the kernel leaves. -/
def launch (hooks : CaptureHooks) (label : CString) (device_id : UInt32) (after : CaptureMachine) :
    List ViewDumpResult × (String → File) :=
  let (kernel_id, dump, hooks) := hooks.begin_kernel session.app.run label device_id
  let (created, files) := session.created dump
  let (appended, files) := session.appended after files (hooks.end_kernel session.app.run kernel_id).1
  (created ++ appended, files)

/-- A launch by `parallel_for` after some actions. -/
def parallel_for (before : List AppAction) (label : String) (policy : Policy) (functor : FunctorObject)
    (device_id : UInt32) (after : CaptureMachine) : List ViewDumpResult × (String → File) :=
  session.launch (launching_hooks session.app
    (hooks_after session.app (CaptureHooks.initial session.tool_fence) before) label policy functor)
    (some (c_str label)) device_id after

end Session

section

variable {session : Session} {hooks : CaptureHooks} {label : CString} {device_id : UInt32}

/-- What an end hook takes of a kernel which has just begun: the path of its dump. -/
theorem take_begun_kernel (result : ViewDumpResult) :
    (((registered_kernels hooks label device_id).store_dump_path hooks.next_kernel_id result).take_kernel
        hooks.next_kernel_id).1.dump_path = if result.ok = true then result.filename else "" := by
  have hlookup := KernelHooks.lookup_register hooks.toKernelHooks.fetch_kernel_id.2 hooks.next_kernel_id
    (label_or_unknown label) device_id hooks.next_kernel_id
  rw [if_pos rfl] at hlookup
  unfold KernelHooks.store_dump_path registered_kernels
  rw [hlookup]
  dsimp only
  split
  · simp [KernelHooks.take_kernel]
  · simp [KernelHooks.take_kernel, hlookup]

/-- The dump which a launch makes when it is asked for. -/
theorem begin_selected
    (hselected : should_dump_views_for_invocation session.app.run.selection (label_or_unknown label)
      (hooks.next_invocation (label_or_unknown label)) = true) :
    let dump := dump_of_launch session.app hooks (label_or_unknown label)
    let begun := hooks.begin_kernel session.app.run label device_id
    begun.2.1 = some dump ∧ (begun.2.2.end_kernel session.app.run begun.1).1 =
      if (session.create dump).1.ok = true ∧ (session.create dump).1.filename ≠ "" then
        some ⟨dump.input_snapshot, (session.create dump).1.filename⟩
      else none := by
  intro dump begun
  have hbegin := begin_kernel_eq session.app hooks label device_id
  have hresult : session.app.run.create_kernel_dump dump = (session.create dump).1 := rfl
  rw [if_pos hselected, hresult] at hbegin
  have htaken := @take_begun_kernel hooks label device_id (session.create dump).1
  have htwice : ((TrackerEvent.snapshot.apply session.app.run.build hooks.allocation_tracker).snapshot
      session.app.run.build.compiler_plugins).1 = dump.input_snapshot :=
    AllocationTracker.snapshot_twice session.app.run.build.compiler_plugins hooks.allocation_tracker
  refine ⟨congrArg (fun begun => begun.2.1) hbegin, ?_⟩
  simp only [begun, hbegin, end_kernel_output, htaken, htwice]
  by_cases hok : (session.create dump).1.ok = true
  · simp only [hok, if_true, true_and]
  · simp [hok]

end

section

variable {session : Session} {hooks : CaptureHooks} {label : CString} {device_id : UInt32}
  {after : CaptureMachine} {created appended : ViewDumpResult} {files : String → File}

/-- When both hooks of a launch report that they wrote, the file at the path which they report
    has the dump and, as its outputs, the allocations of the dump after the kernel. -/
theorem launch_written
    (hselected : should_dump_views_for_invocation session.app.run.selection (label_or_unknown label)
      (hooks.next_invocation (label_or_unknown label)) = true)
    (hlaunch : session.launch hooks label device_id after = ([created, appended], files))
    (hcreated : created.ok = true) (happended : appended.ok = true) :
    let dump := dump_of_launch session.app hooks (label_or_unknown label)
    ∃ output : KernelOutput, output.output_snapshot = dump.input_snapshot ∧
      Written session.machine after session.system dump (some output) (files created.filename) := by
  intro dump
  obtain ⟨hdump, houtput⟩ := @begin_selected session hooks label device_id hselected
  have hfilename : ∀ dump, (session.create dump).1.filename = dump_path session.system dump :=
    fun dump => create_kernel_dump_filename _ _ _ _ _
  unfold Session.launch at hlaunch
  dsimp only at hlaunch
  rw [hdump, houtput] at hlaunch
  split at hlaunch
  · next hwrote =>
    simp only [Session.created, Session.appended, List.cons_append, List.nil_append, Prod.mk.injEq,
      List.cons.injEq, and_true] at hlaunch
    obtain ⟨⟨hfirst, hsecond⟩, rfl⟩ := hlaunch
    subst hfirst hsecond
    refine ⟨⟨dump.input_snapshot, (session.create dump).1.filename⟩, rfl, ?_⟩
    simp only [hfilename, Function.update_self] at happended ⊢
    exact .appended (.created hcreated) happended
  · simp [Session.created, Session.appended] at hlaunch

end

open impl replayer

/-- The addresses which a kernel may touch through its functor. -/
def reachable_cells (app : Application) (before : List AppAction) (functor : FunctorObject) : Set Pointer :=
  { address | ∃ allocation, Reachable app before functor allocation ∧
    ∃ offset < allocation.record.size.toNat, allocation.record.p_data + UInt64.ofNat offset = address }

/-- A kernel which touches only what its functor reaches, and whose policy the format can hold. -/
structure Confined (app : Application) (before : List AppAction) (policy : Policy) (functor : FunctorObject)
    (kernel : Kernel) (space_of : Pointer → MemorySpaceType) : Prop where
  fits : FitsFormat policy
  rank : ∀ mdrange, policy = .mdrange mdrange → mdrange.rank ≤ 6
  /-- Scratch sizes which cannot be queried change nothing for the kernel. -/
  queried : kernel (queried_policy app.extract policy) functor.bytes = kernel policy functor.bytes
  footprint : (kernel policy functor.bytes).footprint ⊆ reachable_cells app before functor
  small : ∀ allocation, Reachable app before functor allocation → allocation.record.size.toNat < 2 ^ 31
  ends : ∀ allocation, Reachable app before functor allocation →
    allocation.record.p_data.toNat + allocation.record.size.toNat ≤ 2 ^ 64
  spaces : ∀ allocation, Reachable app before functor allocation → ∀ offset < allocation.record.size.toNat,
    space_of (allocation.record.p_data + UInt64.ofNat offset) = allocation.memory_space

/-- The machine after a kernel has run on its memory. -/
def CaptureMachine.run (machine : CaptureMachine) (program : Program Pointer UInt8) : CaptureMachine :=
  { machine with byte := program.run machine.byte }

/-- When both hooks of the launch which the command line asks for report that they wrote, their
    file has the dump which the `parallel_for` of the extractor makes, with the call and the
    allocations which its functor reaches. -/
theorem asked_written (session : Session) {before : List AppAction} {label : String} {policy : Policy}
    {functor : FunctorObject} {device_id : UInt32} {after : CaptureMachine}
    {created appended : ViewDumpResult} {files : String → File}
    (hasked : Asked session.argv (c_str label) (launches (c_str label) before + 1))
    (hlaunch : session.parallel_for before label policy functor device_id after = ([created, appended], files))
    (hcreated : created.ok = true) (happended : appended.ok = true) :
    ∃ dump output, output.output_snapshot = dump.input_snapshot ∧
      (krepe.parallel_for session.app (hooks_after session.app (CaptureHooks.initial session.tool_fence) before)
        label policy functor device_id).1.dump = some dump ∧
      Written session.machine after session.system dump (some output) (files created.filename) ∧
      dump.functor_data = functor.bytes ∧ dump.nvcc_inner_lambda_data = functor.inner_lambda.getD [] ∧
      register_bounds session.extract policy = .ok dump.policy ∧
      ∀ allocation, allocation ∈ dump.input_snapshot.allocations ↔ Reachable session.app before functor allocation := by
  let hooks := hooks_after session.app (CaptureHooks.initial session.tool_fence) before
  have hreflects : Reflects session.app before hooks := reflects_hooks_after session.tool_fence before
  have hselected : should_dump_views_for_invocation session.app.run.selection (c_str label)
      (hooks.next_invocation (c_str label)) = true := by
    rw [hreflects.counts]
    exact selected_iff_asked.mpr hasked
  have hlaunching : should_dump_views_for_invocation session.app.run.selection (label_or_unknown (some (c_str label)))
      ((launching_hooks session.app hooks label policy functor).next_invocation
        (label_or_unknown (some (c_str label)))) = true := launching_selected hselected
  obtain ⟨output, houtput, hwritten⟩ := @launch_written session
    (launching_hooks session.app hooks label policy functor) (some (c_str label)) device_id _ _ _ _
    hlaunching hlaunch hcreated happended
  have hdump := (@parallel_for_launching session.app hooks label policy functor device_id).1.trans
    (@begin_selected session (launching_hooks session.app hooks label policy functor) (some (c_str label))
      device_id hlaunching).1
  exact ⟨_, output, houtput, hdump, hwritten, @launching_dump session.app before hooks label policy functor
    (follows_hooks_after session.tool_fence before) hselected⟩

/-- From the command line to the comparison. Assume that the arguments ask for this launch of
    the label, that a policy of it fits the format and its kernel touches nothing but the views
    of its functor (`Confined`), that both hooks report success, that the replayer loads their
    file, and that the functor it is called with has the size of the captured one and can be
    called with the policy. Then the replayer makes one launch, with the label, the policy whose
    scratch sizes were queried, and the captured functor, and every view with a label of its own
    compares equal to what the application left in it. -/
theorem asked_launch_replayed (session : Session) {before : List AppAction} {label : String} {policy : Policy}
    {functor : FunctorObject} {device_id : UInt32} {kernel : Kernel} {space_of : Pointer → MemorySpaceType}
    {created appended : ViewDumpResult} {files : String → File} {replay : ReplayMachine} {guard : ScopeGuard}
    {storage : Nat → Nat → UInt8} {thread : Thread} {functor_storage : Nat} {replayed : Functor}
    (hasked : Asked session.argv (c_str label) (launches (c_str label) before + 1))
    (hkernel : Confined session.app before policy functor kernel space_of)
    (hlaunch : session.parallel_for before label policy functor device_id
      (session.machine.run (kernel policy functor.bytes)) = ([created, appended], files))
    (hcreated : created.ok = true) (happended : appended.ok = true)
    (hload : ScopeGuard.load replay (files created.filename) = .ok guard)
    (hfunctor : thread.block functor_storage = some replayed.bytes)
    (hlength : replayed.bytes.length = functor.bytes.length) (hcallable : Callable replayed policy) :
    ∃ final held, replayer.parallel_for storage guard label .ignored functor_storage replayed thread =
        .ok [⟨label, queried_policy session.extract policy, { replayed with bytes := functor.bytes }⟩] final ∧
      run_launches kernel [⟨label, queried_policy session.extract policy, { replayed with bytes := functor.bytes }⟩]
        (guard.cells space_of) = some held ∧
      ∀ allocation, Reachable session.app before functor allocation → allocation.record.size ≠ 0 →
        (∀ other, Reachable session.app before functor other → other.memory_space = allocation.memory_space →
          other.record.label = allocation.record.label → other = allocation) →
        ComparesEqual guard replay held allocation.memory_space allocation := by
  obtain ⟨dump, output, houtput, _, hwritten, hbytes, _, hpolicy, hreachable⟩ :=
    asked_written session hasked hlaunch hcreated happended
  have hcells : input_cells dump.input_snapshot.allocations = reachable_cells session.app before functor := by
    ext address
    simp only [input_cells, reachable_cells, hreachable, Set.mem_ofPred_eq]
  have haddressed : Addressed space_of dump.input_snapshot.allocations :=
    ⟨fun allocation hmem => hkernel.small allocation ((hreachable allocation).mp hmem),
      fun allocation hmem => hkernel.ends allocation ((hreachable allocation).mp hmem),
      fun allocation hmem => hkernel.spaces allocation ((hreachable allocation).mp hmem)⟩
  have hsame : output.output_snapshot.allocations = dump.input_snapshot.allocations := by rw [houtput]
  have hafter : ∀ allocation ∈ output.output_snapshot.allocations,
      Dumped (session.machine.run (kernel policy functor.bytes)) allocation := fun allocation hmem =>
    (dumped_with_byte _ _ allocation).mpr (inputs_of_load hwritten hload allocation (hsame ▸ hmem)).1
  have hcallableReplayed : Callable { replayed with bytes := functor.bytes } policy := by
    cases policy <;> exact hcallable
  obtain ⟨final, _, hparallel⟩ := @parallel_for_enough _ _ _ _ _ _ _ _ storage thread functor_storage replayed
    (some policy) session.extract hwritten hload hpolicy (by simpa using hkernel.fits)
    (fun mdrange hmdrange => hkernel.rank mdrange (Option.some.inj hmdrange)) hfunctor
    (hbytes ▸ hlength.le) label .ignored
  obtain ⟨held, hheld, hregion⟩ := @Program.foldlM_exec_of_region _ _ _ _ _ session.machine.byte
    [kernel policy functor.bytes] (by simpa [hcells] using hkernel.footprint)
    (haddressed.cells_of_load hwritten hload)
  refine ⟨final, held, ?_, ?_, fun allocation hreached hsize hunique => ?_⟩
  · rw [hparallel, hbytes, hlength, List.take_length]
    simp only [launches_to_replay, hcallableReplayed, if_true]
    rfl
  · simp only [run_launches, List.map_cons, List.map_nil]
    rw [show session.extract = session.app.extract from rfl, hkernel.queried]
    exact hheld
  · have hmem := (hreachable allocation).mpr hreached
    obtain ⟨last, hlast⟩ := @last_visited_of_mem replay _ _ _ _ hmem ⟨rfl, rfl⟩
    obtain ⟨hlastMem, hspace, hlabel⟩ := last_visited_mem hlast
    obtain rfl := hunique last ((hreachable last).mp hlastMem) hspace hlabel
    refine compares_of_load hwritten hsame hafter hload haddressed.small (fun address haddress => ?_) hlast hsize
    exact hregion address haddress

/-- An application on the host which allocates a view, and is asked to dump its first `kernel`. -/
def host_session : Session where
  extract := ⟨true, false, false, false⟩
  build := host_build
  argv := [none, some (dump_kernel_label_option ++ "kernel")]
  tool_fence := none
  machine := host_capture fun address => address.toUInt8
  system := plain_system
  create_fault := none
  append_fault := none
  files := fun _ => no_file

/-- An application which allocates three bytes of the host and launches nothing. -/
def host_actions : List AppAction := [.allocate_data ⟨131, none, none⟩ ⟨"Host"⟩ (some "values") 4224 3]

/-- The record of the allocation which `host_actions` makes, behind a header of 128 bytes. -/
def host_values : ActiveAllocation := ⟨4224, ⟨"values", "Host", 4352, 3, 3, true⟩⟩

/-- A functor of two bytes without views, which no `nvcc` wrapper encloses. -/
def host_functor : FunctorObject := ⟨[1, 2], none, []⟩

/-- The functor of the example reaches the one allocation there is. -/
theorem host_reachable {functor : FunctorObject} {allocation : ActiveAllocation} :
    Reachable host_session.app host_actions functor allocation ↔ allocation = host_values := by
  have hlive : ∀ key, live_after host_session.app host_actions key =
      if ("Host", 4224) = key then some host_values.record else none := by
    intro key
    have hlast := @live_concat host_build [] (.allocate_data ⟨131, none, none⟩ ⟨"Host"⟩ (some "values") 4224 3) key
    have htracked : (TrackerEvent.allocate_data ⟨131, none, none⟩ ⟨"Host"⟩ (some "values") 4224 3).tracked
      host_build = some (("Host", 4224), some host_values.record) := by decide
    rw [htracked] at hlast
    exact hlast
  constructor
  · rintro ⟨hrecord, _⟩
    rw [hlive, Option.ite_none_right_eq_some] at hrecord
    obtain ⟨ptr, record⟩ := allocation
    obtain ⟨hkey, hsame⟩ := hrecord
    have hptr : 4224 = ptr := congrArg Prod.snd hkey
    have hrecord : host_values.record = record := Option.some.inj hsame
    rw [← hptr, ← hrecord]
    rfl
  · rintro rfl
    exact ⟨(hlive _).trans (if_pos rfl), fun hplugins => nomatch hplugins⟩

theorem launching_hooks_metadata (app : Application) (hooks : CaptureHooks) (label : String) (policy : Policy)
    (functor : FunctorObject) : (launching_hooks app hooks label policy functor).metadata = hooks.metadata := by
  obtain ⟨desc, hdesc⟩ := impl.register_bounds_ok app.extract policy
  unfold launching_hooks
  dsimp only
  split
  · rw [hdesc]
    exact (replay_functor_keeps app _ functor).2.2
  · rfl

/-- Where nothing fails, both hooks of a launch which is asked for report that they wrote. -/
theorem host_launch_written {hooks : CaptureHooks} {label : CString} {device_id : UInt32} (after : CaptureMachine)
    (hselected : should_dump_views_for_invocation host_session.app.run.selection (label_or_unknown label)
      (hooks.next_invocation (label_or_unknown label)) = true) (hmetadata : hooks.metadata = ∅) :
    ∃ created appended files, host_session.launch hooks label device_id after = ([created, appended], files) ∧
      created.ok = true ∧ appended.ok = true := by
  obtain ⟨hdump, houtput⟩ := @begin_selected host_session hooks label device_id hselected
  generalize hmade : dump_of_launch host_session.app hooks (label_or_unknown label) = dump at hdump houtput
  have hempty : dump.metadata = ∅ := by
    rw [← hmade]
    exact hmetadata
  obtain ⟨hcreated, hstored⟩ := dump_created host_session.machine hempty no_file
  have hfilename : (host_session.create dump).1.filename = dump_filename dump.label dump.kernel_id :=
    create_kernel_dump_filename _ _ _ _ _
  have hpath : (host_session.create dump).1.filename ≠ "" := by
    rw [hfilename]
    exact append_ne_empty (append_ne_empty (append_ne_empty (append_ne_empty (by simp) _) _) _) _
  have hwrote : (host_session.create dump).1.ok = true := hcreated
  rw [if_pos ⟨hwrote, hpath⟩] at houtput
  unfold Session.launch
  dsimp only
  rw [hdump, houtput]
  simp only [Session.created, Session.appended, List.cons_append, List.nil_append]
  refine ⟨_, _, _, rfl, hwrote, ?_⟩
  have hdump_path : dump_path host_session.system dump = dump_filename dump.label dump.kernel_id := rfl
  have happended : (append_kernel_output after plain_system none
      ⟨dump.input_snapshot, dump_filename dump.label dump.kernel_id⟩ (host_session.create dump).2).1.ok = true :=
    output_appended hstored after _
  rw [hfilename, hdump_path, Function.update_self]
  exact happended

/-- The arguments of the example ask for its first launch. -/
theorem host_asked : Asked host_session.argv (c_str "kernel") (launches (c_str "kernel") host_actions + 1) := by
  refine ⟨by decide, ⟨[none], [], rfl, fun _ hmem => absurd hmem List.not_mem_nil⟩, Or.inl ⟨?_, rfl⟩⟩
  intro argument hargument value hsame
  cases List.mem_pair.mp hargument with
  | inl hnone =>
    rw [hnone] at hsame
    cases hsame
  | inr hlabel =>
    rw [hlabel, Option.some.injEq] at hsame
    exact options_apart _ _ hsame

/-- The dump of the launch is loaded, whether or not the replayer knows extended lambdas. -/
theorem host_session_loads (functor : FunctorObject) (byte : Pointer → UInt8) (workaround : Bool) :
    ∃ created appended files guard,
      host_session.parallel_for host_actions "kernel" (.scalar 7) functor 0 (host_capture byte) =
          ([created, appended], files) ∧ created.ok = true ∧ appended.ok = true ∧
        ScopeGuard.load { host_replay with use_nvcc_hdl_workaround := workaround } (files created.filename) =
          .ok guard := by
  let hooks := hooks_after host_session.app (CaptureHooks.initial none) host_actions
  have hselected : should_dump_views_for_invocation host_session.app.run.selection (c_str "kernel")
      (hooks.next_invocation (c_str "kernel")) = true := by
    rw [(reflects_hooks_after none host_actions).counts]
    exact selected_iff_asked.mpr host_asked
  obtain ⟨created, appended, files, hlaunch, hcreated, happended⟩ :=
    @host_launch_written (launching_hooks host_session.app hooks "kernel" (.scalar 7) functor)
      (some (c_str "kernel")) 0 (host_capture byte) (launching_selected hselected)
      (launching_hooks_metadata _ hooks _ _ _)
  obtain ⟨dump, output, houtput, _, hwritten, _, _, hpolicy, hreachable⟩ :=
    asked_written host_session host_asked hlaunch hcreated happended
  have hvalues : ∀ byte, Dumped (host_capture byte) host_values := fun byte =>
    host_dumped byte rfl rfl (by decide) (by decide)
  have hfound : ∀ allocation ∈ dump.input_snapshot.allocations, allocation = host_values :=
    fun allocation hmem => host_reachable.mp ((hreachable allocation).mp hmem)
  have hrestorable : Restorable host_session.machine (host_capture byte)
      { host_replay with use_nvcc_hdl_workaround := workaround } dump (some output) (some (.scalar 7)) := by
    refine ⟨fun allocation hmem => ?_, fun allocation hmem _ => ?_, fun policy hsome => ?_⟩
    · rw [hfound allocation hmem]
      exact ⟨hvalues _, by decide, fun _ hdevice => absurd hdevice (by decide)⟩
    · have hinput : allocation ∈ output.output_snapshot.allocations := hmem
      rw [houtput] at hinput
      rw [hfound allocation hinput]
      exact ⟨by decide, fun hdevice => absurd hdevice (by decide)⟩
    · rw [← Option.some.inj hsome]
      trivial
  have hready : { host_replay with use_nvcc_hdl_workaround := workaround }.Ready := { host_replay_ready with }
  have hregistered : RegisteredPolicy host_session.extract (some (.scalar 7)) dump.policy := hpolicy
  have hbounded : host_values.record.p_data.toNat + host_values.record.size.toNat + 4096 < 2 ^ 64 := by decide
  obtain ⟨guard, hload, _⟩ := hrestorable.loads hwritten hready hregistered (fun _ hnone => by cases hnone)
    fun allocation hmem _ _ => by
      rw [hfound allocation hmem]
      exact hbounded
  exact ⟨created, appended, files, guard, hlaunch, hcreated, happended, hload⟩

/-- The kernel of the application adds to its view, and the replayed view is found to be the
    same. -/
theorem asked_launch_replayed_example :
    ∃ created appended files guard,
      host_session.parallel_for host_actions "kernel" (.scalar 7) host_functor 0
          (host_session.machine.run (add_kernel (.scalar 7) [1, 2])) = ([created, appended], files) ∧
        ScopeGuard.load host_replay (files created.filename) = .ok guard ∧
        ∃ final held, replayer.parallel_for (fun _ _ => 0) guard "kernel" .ignored 0 scalar_functor scalar_thread =
            .ok [⟨"kernel", .scalar 7, { scalar_functor with bytes := [1, 2] }⟩] final ∧
          run_launches add_kernel [⟨"kernel", .scalar 7, { scalar_functor with bytes := [1, 2] }⟩]
            (guard.cells fun _ => .HOST) = some held ∧
          ComparesEqual guard host_replay held .HOST host_values := by
  obtain ⟨created, appended, files, guard, hlaunch, hcreated, happended, hload⟩ := host_session_loads host_functor
    ((add_kernel (.scalar 7) [1, 2]).run host_session.machine.byte) false
  have hkernel : Confined host_session.app host_actions (.scalar 7) host_functor add_kernel fun _ => .HOST := by
    refine ⟨trivial, fun _ hnone => (by cases hnone), rfl, fun address haddress => ?_, fun allocation hreached => ?_,
      fun allocation hreached => ?_, fun allocation hreached _ _ => ?_⟩
    · refine ⟨host_values, host_reachable.mpr rfl, ?_⟩
      rcases List.mem_cons.mp haddress with rfl | htwo
      · exact ⟨0, by decide, rfl⟩
      · rcases List.mem_cons.mp htwo with rfl | hthree
        · exact ⟨1, by decide, rfl⟩
        · rw [List.mem_singleton.mp hthree]
          exact ⟨2, by decide, rfl⟩
    · rw [host_reachable.mp hreached]
      decide
    · rw [host_reachable.mp hreached]
      decide
    · rw [host_reachable.mp hreached]
      rfl
  refine ⟨created, appended, files, guard, hlaunch, hload, ?_⟩
  obtain ⟨final, held, hparallel, hheld, hcompares⟩ := @asked_launch_replayed host_session host_actions "kernel"
    (.scalar 7) host_functor 0 add_kernel (fun _ => .HOST) created appended files host_replay guard
    (fun _ _ => 0) scalar_thread 0 scalar_functor host_asked hkernel hlaunch hcreated happended hload rfl rfl rfl
  refine ⟨final, held, hparallel, hheld, hcompares host_values (host_reachable.mpr rfl) (by decide) ?_⟩
  exact fun other hother _ _ => host_reachable.mp hother

end krepe
