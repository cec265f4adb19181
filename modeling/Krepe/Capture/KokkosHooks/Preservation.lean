import Krepe.Capture.KokkosHooks.Invariant

open std transition

namespace krepe

variable {selection : DumpSelection} {Thread : Type} {initial : Fence}

/-- The event may falsify what is known at this place of a hook. -/
def Disturbs (event : Event) (pc : Pc) : Prop :=
  match event with
  | .registered launch => pc.Begins launch.id
  | .created id _ => pc.Begins id
  | .appended _ _ _ => pc.ends = true
  | _ => False

/-- Events which change none of the globals. -/
def Event.Local : Event → Prop
  | .provided _ => False
  | .fetched _ => False
  | .registered _ => False
  | .ended _ _ _ => False
  | _ => True

/-- Events which change neither the counters nor the fence. -/
def Event.Uncounted : Event → Prop
  | .provided _ => False
  | .fetched _ => False
  | .registered _ => False
  | _ => True

theorem Event.Local.uncounted {event : Event} (hlocal : event.Local) : event.Uncounted := by
  cases event with
  | ended id state fence => exact hlocal.elim
  | _ => exact hlocal

/-- The globals differ in the states of the kernels only. -/
structure KernelHooks.SameCounters (hooks changed : KernelHooks) : Prop where
  next_kernel_id : changed.next_kernel_id = hooks.next_kernel_id
  kernel_invocations : changed.kernel_invocations = hooks.kernel_invocations
  tool_fence : changed.tool_fence = hooks.tool_fence

/-- A fence which was called stays in the log. -/
theorem Fenced.concat {log : List Event} {id : Nat} {phase : Phase} {device_id : UInt32} {fence : Fence}
    (hfenced : Fenced log id phase device_id fence) (event : Event) :
    Fenced (log ++ [event]) id phase device_id fence :=
  fun hset => List.mem_append_left _ (hfenced hset)

/-- What is known of a launch to be dumped holds until its dump is created. -/
theorem Chosen.concat {log : List Event} {launch : Launch} {event : Event}
    (hchosen : Chosen selection log launch) (hevent : ∀ result, event ≠ .created launch.id result) :
    Chosen selection (log ++ [event]) launch := by
  refine ⟨List.mem_append_left _ hchosen.1, hchosen.2.1, fun result hmem => ?_⟩
  cases List.mem_append.mp hmem with
  | inl hold => exact hchosen.2.2 result hold
  | inr hnew => exact hevent result (List.mem_singleton.mp hnew).symm

/-- What is known of a kernel that was taken holds until its output is appended. -/
theorem Taken.concat {log : List Event} {id : Nat} {state : KernelState} {fence : Fence} {event : Event}
    (htaken : Taken log id state fence)
    (hevent : ∀ other filename result, event ≠ .appended other filename result) :
    Taken (log ++ [event]) id state fence := by
  refine ⟨List.mem_append_left _ htaken.1, htaken.2.1, fun other filename result hmem => ?_⟩
  cases List.mem_append.mp hmem with
  | inl hold => exact htaken.2.2 other filename result hold
  | inr hnew => exact hevent other filename result (List.mem_singleton.mp hnew).symm

/-- What is known at a place of a hook stays known. -/
theorem PcHolds.concat {log : List Event} {pc : Pc} {event : Event}
    (hpc : PcHolds selection log pc) (hquiet : ¬ Disturbs event pc) :
    PcHolds selection (log ++ [event]) pc := by
  have hcreated : ∀ launch, pc.launch? = some launch → ∀ result, event ≠ .created launch.id result := by
    intro launch hlaunch result heq
    subst heq
    exact hquiet ⟨launch, hlaunch, rfl⟩
  have happended : pc.ends = true → ∀ other filename result, event ≠ .appended other filename result := by
    intro hends other filename result heq
    subst heq
    exact hquiet hends
  cases pc with
  | idle => trivial
  | begin_register launch =>
    refine ⟨List.mem_append_left _ hpc.1, fun other hmem => ?_⟩
    cases List.mem_append.mp hmem with
    | inl hold => exact hpc.2 other hold
    | inr hnew =>
      intro hid
      rw [← List.mem_singleton.mp hnew] at hquiet
      exact hquiet ⟨launch, rfl, hid.symm⟩
  | begin_read_fence launch => exact Chosen.concat hpc (hcreated launch rfl)
  | begin_fence launch fence =>
    exact ⟨hpc.1.concat (hcreated launch rfl), List.mem_append_left _ hpc.2⟩
  | begin_snapshot launch =>
    obtain ⟨hchosen, fence, hread, hfenced⟩ := hpc
    exact ⟨hchosen.concat (hcreated launch rfl), fence, List.mem_append_left _ hread, hfenced.concat _⟩
  | begin_create launch => exact Chosen.concat hpc (hcreated launch rfl)
  | begin_store launch result => exact ⟨List.mem_append_left _ hpc.1, List.mem_append_left _ hpc.2⟩
  | begin_return launch =>
    refine ⟨List.mem_append_left _ hpc.1, fun hselected => ?_⟩
    obtain ⟨result, hresult⟩ := hpc.2 hselected
    exact ⟨result, List.mem_append_left _ hresult⟩
  | end_fence id state fence => exact Taken.concat hpc (happended rfl)
  | end_snapshot id state =>
    obtain ⟨fence, htaken, hfenced⟩ := hpc
    exact ⟨fence, htaken.concat (happended rfl), hfenced.concat _⟩
  | end_append id state =>
    obtain ⟨fence, htaken⟩ := hpc
    exact ⟨fence, htaken.concat (happended rfl)⟩

/-- An event which concerns the place of one thread concerns that of no other. -/
theorem Invariant.quiet {s : System Thread} (hinv : Invariant selection initial s) {thread : Thread}
    {event : Event} (hown : (∃ pc, Disturbs event pc) → Disturbs event (s.pc thread)) (other : Thread)
    (hother : other ≠ thread) : ¬ Disturbs event (s.pc other) := by
  intro hdisturbs
  apply hother
  have hthread := hown ⟨_, hdisturbs⟩
  cases event with
  | registered launch => exact hinv.begins _ _ _ hdisturbs hthread
  | created id result => exact hinv.begins _ _ _ hdisturbs hthread
  | appended id filename result => exact hinv.ends _ _ hdisturbs hthread
  | _ => cases hdisturbs

/-- The states of pending kernels stay right as the log grows. -/
theorem Invariant.states_concat {s : System Thread} (hinv : Invariant selection initial s)
    (event : Event) {id : Nat} {state : KernelState}
    (hlookup : s.hooks.kernel_states.lookup id = some state) :
    (∃ launch, .registered launch ∈ s.log ++ [event] ∧ launch.id = id ∧
        launch.device_id = state.device_id) ∧
      (state.dump_path ≠ "" → ∃ result, .created id result ∈ s.log ++ [event] ∧ result.ok = true ∧
        result.filename = state.dump_path) := by
  obtain ⟨⟨launch, hlaunch, hid, hdevice⟩, hpath⟩ := hinv.states id state hlookup
  refine ⟨⟨launch, List.mem_append_left _ hlaunch, hid, hdevice⟩, fun hnonempty => ?_⟩
  obtain ⟨result, hcreated, hresult⟩ := hpath hnonempty
  exact ⟨result, List.mem_append_left _ hcreated, hresult⟩

/-- The counters and the fence stay right as an event which changes none of them is
    appended. -/
theorem Invariant.counters_concat {s : System Thread} (hinv : Invariant selection initial s)
    {hooks : KernelHooks} (hsame : s.hooks.SameCounters hooks) {event : Event}
    (huncounted : event.Uncounted) :
    (∀ id, .fetched id ∈ s.log ++ [event] → id < hooks.next_kernel_id) ∧
      (∀ label, hooks.next_invocation label = (s.log ++ [event]).countP (registers label) + 1) ∧
      hooks.tool_fence = current_fence initial (s.log ++ [event]) := by
  refine ⟨fun id hmem => ?_, fun label => ?_, ?_⟩
  · rw [hsame.next_kernel_id]
    cases List.mem_append.mp hmem with
    | inl hold => exact hinv.next id hold
    | inr hnew =>
      rw [← List.mem_singleton.mp hnew] at huncounted
      exact huncounted.elim
  · rw [KernelHooks.next_invocation, hsame.kernel_invocations, ← KernelHooks.next_invocation,
      List.countP_append, hinv.counts]
    cases event with
    | registered launch => exact huncounted.elim
    | _ => rfl
  · rw [hsame.tool_fence, current_fence_concat, hinv.fence]
    cases event with
    | provided fence => exact huncounted.elim
    | _ => rfl

variable [DecidableEq Thread]

/-- A thread which moves keeps what the others know. -/
theorem Invariant.move_pcs {s : System Thread} (hinv : Invariant selection initial s) {thread : Thread}
    {pc : Pc} {hooks : KernelHooks} {event : Event} (hpc : PcHolds selection (s.log ++ [event]) pc)
    (hquiet : ∀ other, other ≠ thread → ¬ Disturbs event (s.pc other)) (other : Thread) :
    PcHolds selection (s.log ++ [event]) ((s.move thread pc hooks event).pc other) := by
  by_cases hother : other = thread
  · rw [hother, System.move_pc_self]
    exact hpc
  · rw [System.move_pc_of_ne _ _ _ _ hother]
    exact (hinv.pcs other).concat (hquiet other hother)

/-- What at most one thread has at its place stays so when a thread moves, if it
    had it before or no thread did. -/
theorem move_unique {s : System Thread} {thread : Thread} {pc : Pc} {hooks : KernelHooks} {event : Event}
    (Has : Pc → Prop) (hunique : ∀ first second, Has (s.pc first) → Has (s.pc second) → first = second)
    (hnew : Has pc → Has (s.pc thread) ∨ ∀ other, ¬ Has (s.pc other)) (first second : Thread)
    (hfirst : Has ((s.move thread pc hooks event).pc first))
    (hsecond : Has ((s.move thread pc hooks event).pc second)) : first = second := by
  have hother : ∀ other, other ≠ thread → Has ((s.move thread pc hooks event).pc other) → Has pc →
      False := by
    intro other hne hhas hpc
    rw [System.move_pc_of_ne _ _ _ _ hne] at hhas
    cases hnew hpc with
    | inl hold => exact hne (hunique _ _ hhas hold)
    | inr hfresh => exact hfresh other hhas
  by_cases hfirstThread : first = thread
  · by_cases hsecondThread : second = thread
    · rw [hfirstThread, hsecondThread]
    · rw [hfirstThread, System.move_pc_self] at hfirst
      exact (hother second hsecondThread hsecond hfirst).elim
  · by_cases hsecondThread : second = thread
    · rw [hsecondThread, System.move_pc_self] at hsecond
      exact (hother first hfirstThread hfirst hsecond).elim
    · rw [System.move_pc_of_ne _ _ _ _ hfirstThread] at hfirst
      rw [System.move_pc_of_ne _ _ _ _ hsecondThread] at hsecond
      exact hunique _ _ hfirst hsecond

theorem move_not_begins {s : System Thread} {thread : Thread} {pc : Pc} {hooks : KernelHooks}
    {event : Event} {id : Nat} (hnone : ∀ other, ¬ (s.pc other).Begins id) (hpc : ¬ pc.Begins id)
    (other : Thread) : ¬ ((s.move thread pc hooks event).pc other).Begins id := by
  by_cases hother : other = thread
  · rw [hother, System.move_pc_self]
    exact hpc
  · rw [System.move_pc_of_ne _ _ _ _ hother]
    exact hnone other

/-- A step which changes no global. -/
theorem Invariant.move_local {s : System Thread} (hinv : Invariant selection initial s)
    {thread : Thread} {pc : Pc} {event : Event} (hlocal : event.Local)
    (hallowed : Allowed selection initial s.log event)
    (hpc : PcHolds selection (s.log ++ [event]) pc)
    (hown : (∃ pc, Disturbs event pc) → Disturbs event (s.pc thread))
    (hbegins : ∀ id, pc.Begins id → (s.pc thread).Begins id)
    (hends : pc.ends = true → (s.pc thread).ends = true) :
    Invariant selection initial (s.move thread pc s.hooks event) where
  log := throughout_concat.mpr ⟨hinv.log, hallowed⟩
  pcs := hinv.move_pcs hpc (hinv.quiet hown)
  begins := fun first second id => move_unique (·.Begins id)
    (fun first second => hinv.begins first second id) (fun hid => .inl (hbegins id hid)) first second
  ends := move_unique (·.ends = true) hinv.ends fun hpcEnds => .inl (hends hpcEnds)
  next := (hinv.counters_concat ⟨rfl, rfl, rfl⟩ hlocal.uncounted).1
  counts := (hinv.counters_concat ⟨rfl, rfl, rfl⟩ hlocal.uncounted).2.1
  fence := (hinv.counters_concat ⟨rfl, rfl, rfl⟩ hlocal.uncounted).2.2
  pending := by
    intro id
    rw [System.move_hooks, System.move_log, pending_concat, hinv.pending]
    cases event with
    | registered launch => exact hlocal.elim
    | ended other state fence => exact hlocal.elim
    | _ => simp
  states := fun id state hlookup => hinv.states_concat event hlookup
  taken := by
    intro id state fence hmem hpath
    have hended : .ended id state fence ∈ s.log := by
      cases List.mem_append.mp hmem with
      | inl hold => exact hold
      | inr hnew =>
        rw [← List.mem_singleton.mp hnew] at hlocal
        exact hlocal.elim
    obtain ⟨hnone, hpaths⟩ := hinv.taken id state fence hended hpath
    exact ⟨move_not_begins hnone fun hid => hnone thread (hbegins id hid), hpaths⟩

/-- The first section of a begin hook, whichever way it decides. -/
theorem Invariant.move_register {s : System Thread} (hinv : Invariant selection initial s)
    {thread : Thread} {launch : Launch} (hbefore : s.pc thread = .begin_register launch) {pc : Pc}
    (hlaunch : pc.launch? =
      some { launch with invocation := s.hooks.next_invocation launch.kernel_label })
    (hpc : PcHolds selection (s.log ++
      [.registered { launch with invocation := s.hooks.next_invocation launch.kernel_label }]) pc) :
    Invariant selection initial
      (s.move thread pc (s.hooks.register_kernel launch.id launch.kernel_label launch.device_id)
        (.registered { launch with invocation := s.hooks.next_invocation launch.kernel_label })) := by
  have hknown := hinv.knows hbefore
  have hown : (s.pc thread).Begins launch.id := ⟨launch, by rw [hbefore]; rfl, rfl⟩
  have hsame : ∀ id, pc.Begins id → (s.pc thread).Begins id := by
    intro id hid
    obtain ⟨begun, hbegun, rfl⟩ := hid
    rw [hlaunch] at hbegun
    cases hbegun
    exact hown
  have hends : ¬ pc.ends = true := by
    cases pc <;> simp_all [Pc.launch?, Pc.ends]
  refine ⟨?_, ?_, ?_, ?_, ?_, ?_, ?_, ?_, ?_, ?_⟩
  · refine throughout_concat.mpr ⟨hinv.log, hknown.1, hknown.2, ?_⟩
    exact hinv.counts launch.kernel_label
  · exact hinv.move_pcs hpc (hinv.quiet fun _ => hown)
  · exact fun first second id => move_unique (·.Begins id)
      (fun first second => hinv.begins first second id) (fun hid => .inl (hsame id hid)) first second
  · exact move_unique (·.ends = true) hinv.ends fun hpcEnds => absurd hpcEnds hends
  · intro id hmem
    apply hinv.next
    simpa using hmem
  · intro label
    rw [System.move_hooks, System.move_log, KernelHooks.next_invocation_register, List.countP_append,
      hinv.counts]
    by_cases hlabel : label = launch.kernel_label
    · simp [registers, hlabel]
    · simp [registers, hlabel, Ne.symm hlabel]
  · rw [System.move_log, current_fence_concat]
    exact hinv.fence
  · intro id
    rw [System.move_log, System.move_hooks, pending_concat, ← hinv.pending, ← AList.lookup_isSome,
      KernelHooks.lookup_register, ← AList.lookup_isSome]
    by_cases hid : id = launch.id
    · simp [hid]
    · simp [hid, Ne.symm hid]
  · intro id state hlookup
    rw [System.move_hooks, KernelHooks.lookup_register] at hlookup
    by_cases hid : id = launch.id
    · rw [if_pos hid] at hlookup
      cases hlookup
      subst hid
      refine ⟨⟨_, List.mem_append_right _ (List.mem_singleton_self _), rfl, rfl⟩, fun hpath => ?_⟩
      exact absurd rfl hpath
    · rw [if_neg hid] at hlookup
      exact hinv.states_concat _ hlookup
  · intro id state fence hmem hpath
    have hended : .ended id state fence ∈ s.log := by simpa using hmem
    obtain ⟨hnone, hpaths⟩ := hinv.taken id state fence hended hpath
    refine ⟨move_not_begins hnone fun hid => hnone thread (hsame id hid), fun other left hlookup => ?_⟩
    rw [System.move_hooks, KernelHooks.lookup_register] at hlookup
    by_cases hother : other = launch.id
    · rw [if_pos hother] at hlookup
      cases hlookup
      rfl
    · rw [if_neg hother] at hlookup
      exact hpaths other left hlookup

end krepe
