import Krepe.Capture.KokkosHooks.Interleaving

open std transition

namespace krepe

/-- Registrations of launches with this label. -/
def registers (label : String) : Event → Bool
  | .registered launch => launch.kernel_label == label
  | _ => false

/-- The fence function last provided. -/
def current_fence (initial : Fence) (log : List Event) : Fence :=
  log.foldl (fun fence event => match event with
    | .provided provided => provided
    | _ => fence) initial

/-- The kernel was registered, and has not ended since. -/
def Pending (log : List Event) (id : Nat) : Prop :=
  ∃ before launch after, log = before ++ .registered launch :: after ∧ launch.id = id ∧
    ∀ state fence, Event.ended id state fence ∉ after

/-- The device was fenced for a kernel, if there was a function for it. -/
def Fenced (log : List Event) (id : Nat) (phase : Phase) (device_id : UInt32) (fence : Fence) : Prop :=
  fence ≠ none → Event.fence id phase device_id ∈ log

variable (selection : DumpSelection)

/-- The launch is the invocation which the options select. -/
def Launch.Selected (launch : Launch) : Prop :=
  should_dump_views_for_invocation selection launch.kernel_label launch.invocation = true

/-- What an event of the hooks requires of the events before it. -/
def Allowed (initial : Fence) (before : List Event) : Event → Prop
  | .fetched id => .fetched id ∉ before
  | .registered launch =>
    .fetched launch.id ∈ before ∧ (∀ other, .registered other ∈ before → other.id ≠ launch.id) ∧
      launch.invocation = before.countP (registers launch.kernel_label) + 1
  | .read_fence _ fence => fence = current_fence initial before
  | .snapshot id .input =>
    ∃ launch fence, .registered launch ∈ before ∧ launch.id = id ∧ .read_fence id fence ∈ before ∧
      Fenced before id .input launch.device_id fence
  | .snapshot id .output =>
    ∃ state fence, .ended id state fence ∈ before ∧ state.dump_path ≠ "" ∧
      Fenced before id .output state.device_id fence
  | .created id _ =>
    ∃ launch, .registered launch ∈ before ∧ launch.id = id ∧ launch.Selected selection ∧
      ∀ result, .created id result ∉ before
  | .returned id =>
    ∃ launch, .registered launch ∈ before ∧ launch.id = id ∧
      (launch.Selected selection → ∃ result, .created id result ∈ before)
  | .ended id state fence =>
    fence = current_fence initial before ∧
      (state.dump_path ≠ "" →
        (∃ launch, .registered launch ∈ before ∧ launch.id = id ∧
          launch.device_id = state.device_id) ∧
        ∃ result, .created id result ∈ before ∧ result.ok = true ∧ result.filename = state.dump_path)
  | .appended id filename _ =>
    (∃ state fence, .ended id state fence ∈ before ∧ state.dump_path ≠ "" ∧
      filename = state.dump_path) ∧
      ∀ other filename result, .appended other filename result ∉ before
  | _ => True

/-- The launch is to be dumped, and was not yet. -/
def Chosen (log : List Event) (launch : Launch) : Prop :=
  .registered launch ∈ log ∧ launch.Selected selection ∧ ∀ result, .created launch.id result ∉ log

/-- An end hook took the dump path of a kernel, and nothing was appended yet. -/
def Taken (log : List Event) (id : Nat) (state : KernelState) (fence : Fence) : Prop :=
  .ended id state fence ∈ log ∧ state.dump_path ≠ "" ∧
    ∀ other filename result, Event.appended other filename result ∉ log

/-- What a thread knows of the past at each place of a hook. -/
def PcHolds (log : List Event) : Pc → Prop
  | .idle => True
  | .begin_register launch =>
    .fetched launch.id ∈ log ∧ ∀ other, .registered other ∈ log → other.id ≠ launch.id
  | .begin_read_fence launch => Chosen selection log launch
  | .begin_fence launch fence => Chosen selection log launch ∧ .read_fence launch.id fence ∈ log
  | .begin_snapshot launch =>
    Chosen selection log launch ∧
      ∃ fence, .read_fence launch.id fence ∈ log ∧ Fenced log launch.id .input launch.device_id fence
  | .begin_create launch => Chosen selection log launch
  | .begin_store launch result => .registered launch ∈ log ∧ .created launch.id result ∈ log
  | .begin_return launch =>
    .registered launch ∈ log ∧
      (launch.Selected selection → ∃ result, .created launch.id result ∈ log)
  | .end_fence id state fence => Taken log id state fence
  | .end_snapshot id state =>
    ∃ fence, Taken log id state fence ∧ Fenced log id .output state.device_id fence
  | .end_append id state => ∃ fence, Taken log id state fence

/-- What holds at every point of every interleaving: where each thread is agrees with the log,
    at most one thread is in each critical section, and the counters and tables are what the log
    says. -/
structure Invariant {Thread : Type} (initial : Fence) (s : System Thread) : Prop where
  log : Throughout (Allowed selection initial) s.log
  pcs : ∀ thread, PcHolds selection s.log (s.pc thread)
  begins : ∀ thread other id, (s.pc thread).Begins id → (s.pc other).Begins id → thread = other
  ends : ∀ thread other, (s.pc thread).ends = true → (s.pc other).ends = true → thread = other
  next : ∀ id, .fetched id ∈ s.log → id < s.hooks.next_kernel_id
  counts : ∀ label, s.hooks.next_invocation label = s.log.countP (registers label) + 1
  fence : s.hooks.tool_fence = current_fence initial s.log
  pending : ∀ id, id ∈ s.hooks.kernel_states ↔ Pending s.log id
  states : ∀ id state, s.hooks.kernel_states.lookup id = some state →
    (∃ launch, .registered launch ∈ s.log ∧ launch.id = id ∧ launch.device_id = state.device_id) ∧
      (state.dump_path ≠ "" → ∃ result, .created id result ∈ s.log ∧ result.ok = true ∧
        result.filename = state.dump_path)
  taken : ∀ id state fence, .ended id state fence ∈ s.log → state.dump_path ≠ "" →
    (∀ thread, ¬ (s.pc thread).Begins id) ∧
      ∀ other left, s.hooks.kernel_states.lookup other = some left → left.dump_path = ""

variable {selection}

theorem current_fence_concat (initial : Fence) (log : List Event) (event : Event) :
    current_fence initial (log ++ [event]) =
      match event with
      | .provided fence => fence
      | _ => current_fence initial log := by
  simp [current_fence]

/-- A kernel is pending after one more event if that registers it, or if it was and that does
    not end it. -/
theorem pending_concat {log : List Event} {event : Event} {id : Nat} :
    Pending (log ++ [event]) id ↔
      (∃ launch, event = .registered launch ∧ launch.id = id) ∨
        (Pending log id ∧ ∀ state fence, event ≠ .ended id state fence) := by
  refine ⟨fun hpending => ?_, fun hcases => ?_⟩
  · obtain ⟨before, launch, after, hsplit, hid, hafter⟩ := hpending
    cases concat_eq_split.mp hsplit with
    | inl hlast => exact .inl ⟨launch, hlast.2.1.symm, hid⟩
    | inr hrest =>
      obtain ⟨rest, rfl, hlog⟩ := hrest
      refine .inr ⟨⟨before, launch, rest, hlog, hid, fun state fence hmem => ?_⟩, fun state fence heq => ?_⟩
      · exact hafter state fence (List.mem_append_left _ hmem)
      · exact hafter state fence (by simp [heq])
  · cases hcases with
    | inl hregistered =>
      obtain ⟨launch, rfl, hid⟩ := hregistered
      exact ⟨log, launch, [], rfl, hid, by simp⟩
    | inr hpending =>
      obtain ⟨⟨before, launch, after, rfl, hid, hafter⟩, hevent⟩ := hpending
      refine ⟨before, launch, after ++ [event], by simp, hid, fun state fence hmem => ?_⟩
      cases List.mem_append.mp hmem with
      | inl hold => exact hafter state fence hold
      | inr hnew => exact hevent state fence (List.mem_singleton.mp hnew).symm

theorem Launch.Selected.eq {launch : Launch} (hselected : launch.Selected selection) :
    selection.dump_kernel_label ≠ "" ∧ launch.kernel_label = selection.dump_kernel_label ∧
      selection.dump_kernel_invocation = some launch.invocation :=
  should_dump_views_for_invocation_iff.mp hselected

/-- At most one launch of a run is to be dumped: the selected one of its label. -/
theorem selected_unique {initial : Fence} {log : List Event}
    (hlog : Throughout (Allowed selection initial) log) {launch other : Launch}
    (hlaunch : .registered launch ∈ log) (hselected : launch.Selected selection)
    (hother : .registered other ∈ log) (hotherSelected : other.Selected selection) :
    launch = other := by
  obtain ⟨before, after, hsplit, _, _, hcount⟩ := hlog.of_mem hlaunch
  obtain ⟨before', after', hsplit', _, _, hcount'⟩ := hlog.of_mem hother
  obtain ⟨_, hlabel, hinvocation⟩ := hselected.eq
  obtain ⟨_, hlabel', hinvocation'⟩ := hotherSelected.eq
  rw [hinvocation, Option.some.injEq] at hinvocation'
  rw [hlabel] at hcount
  rw [hlabel'] at hcount'
  have hkind : registers selection.dump_kernel_label (.registered launch) = true := beq_iff_eq.mpr hlabel
  have hkind' : registers selection.dump_kernel_label (.registered other) = true := beq_iff_eq.mpr hlabel'
  exact Event.registered.inj (eq_of_countP_eq (hsplit.symm.trans hsplit') hkind hkind' (by omega))

/-- A dump is created for a launch which was registered and selected. -/
theorem created_selected {initial : Fence} {log : List Event}
    (hlog : Throughout (Allowed selection initial) log) {id : Nat} {result : ViewDumpResult}
    (hcreated : .created id result ∈ log) :
    ∃ launch, .registered launch ∈ log ∧ launch.id = id ∧ launch.Selected selection := by
  obtain ⟨before, after, rfl, launch, hlaunch, hid, hselected, _⟩ := hlog.of_mem hcreated
  exact ⟨launch, List.mem_append_left _ hlaunch, hid, hselected⟩

/-- All dumps of a log are of one kernel. -/
theorem created_unique {initial : Fence} {log : List Event}
    (hlog : Throughout (Allowed selection initial) log) {id other : Nat}
    {result result' : ViewDumpResult} (hcreated : .created id result ∈ log)
    (hother : .created other result' ∈ log) : id = other := by
  obtain ⟨launch, hlaunch, rfl, hselected⟩ := created_selected hlog hcreated
  obtain ⟨launch', hlaunch', rfl, hselected'⟩ := created_selected hlog hother
  rw [selected_unique hlog hlaunch hselected hlaunch' hselected']

/-- The identifier of a registered launch came from the counter. -/
theorem registered_fetched {initial : Fence} {log : List Event}
    (hlog : Throughout (Allowed selection initial) log) {launch : Launch}
    (hlaunch : .registered launch ∈ log) : .fetched launch.id ∈ log := by
  obtain ⟨before, after, rfl, hfetched, _⟩ := hlog.of_mem hlaunch
  exact List.mem_append_left _ hfetched

/-- The end of the kernel that was dumped is the only one to take a path. -/
theorem ended_created {initial : Fence} {log : List Event}
    (hlog : Throughout (Allowed selection initial) log) {id : Nat} {state : KernelState} {fence : Fence}
    (hended : .ended id state fence ∈ log) (hpath : state.dump_path ≠ "") :
    ∃ result, .created id result ∈ log := by
  obtain ⟨before, after, rfl, _, hstate⟩ := hlog.of_mem hended
  obtain ⟨_, result, hcreated, _⟩ := hstate hpath
  exact ⟨result, List.mem_append_left _ hcreated⟩

/-- A thread in a begin hook has its id from the counter. -/
theorem PcHolds.fetched {initial : Fence} {log : List Event} {pc : Pc} {id : Nat}
    (hpc : PcHolds selection log pc) (hlog : Throughout (Allowed selection initial) log)
    (hbegins : pc.Begins id) : .fetched id ∈ log := by
  obtain ⟨launch, hlaunch, rfl⟩ := hbegins
  cases pc with
  | begin_register _ =>
    cases hlaunch
    exact hpc.1
  | begin_read_fence _ =>
    cases hlaunch
    exact registered_fetched hlog hpc.1
  | begin_fence _ _ =>
    cases hlaunch
    exact registered_fetched hlog hpc.1.1
  | begin_snapshot _ =>
    cases hlaunch
    exact registered_fetched hlog hpc.1.1
  | begin_create _ =>
    cases hlaunch
    exact registered_fetched hlog hpc.1
  | begin_store _ _ =>
    cases hlaunch
    exact registered_fetched hlog hpc.1
  | begin_return _ =>
    cases hlaunch
    exact registered_fetched hlog hpc.1
  | idle => cases hlaunch
  | end_fence _ _ _ => cases hlaunch
  | end_snapshot _ _ => cases hlaunch
  | end_append _ _ => cases hlaunch

/-- A thread in an end hook took a path, and nothing was appended since. -/
theorem PcHolds.taken {log : List Event} {pc : Pc} (hpc : PcHolds selection log pc)
    (hends : pc.ends = true) : ∃ id state fence, Taken log id state fence := by
  cases pc with
  | end_fence id state fence => exact ⟨id, state, fence, hpc⟩
  | end_snapshot id state =>
    obtain ⟨fence, htaken, _⟩ := hpc
    exact ⟨id, state, fence, htaken⟩
  | end_append id state =>
    obtain ⟨fence, htaken⟩ := hpc
    exact ⟨id, state, fence, htaken⟩
  | _ => cases hends

theorem Invariant.knows {Thread : Type} {initial : Fence} {s : System Thread} {thread : Thread} {pc : Pc}
    (hinv : Invariant selection initial s) (hpc : s.pc thread = pc) : PcHolds selection s.log pc :=
  hpc ▸ hinv.pcs thread

end krepe
