import Krepe.Capture.KokkosHooks.Preservation

open std transition

namespace krepe

variable {selection : DumpSelection} {Thread : Type} {initial : Fence}

/-- A new fence keeps the invariant. -/
theorem Invariant.provide {s : System Thread} (hinv : Invariant selection initial s) (fence : Fence) :
    Invariant selection initial
      ⟨{ s.hooks with tool_fence := fence }, s.pc, s.log ++ [.provided fence]⟩ where
  log := throughout_concat.mpr ⟨hinv.log, trivial⟩
  pcs := fun thread => (hinv.pcs thread).concat id
  begins := hinv.begins
  ends := hinv.ends
  next := fun id hmem => hinv.next id (by simpa using hmem)
  counts := by
    intro label
    rw [List.countP_append]
    exact hinv.counts label
  fence := by rw [current_fence_concat]
  pending := by
    intro id
    rw [pending_concat]
    simpa using hinv.pending id
  states := fun id state hlookup => hinv.states_concat _ hlookup
  taken := fun id state fence hmem hpath => hinv.taken id state fence (by simpa using hmem) hpath

/-- Only a dump which was written gives its path to the state of its kernel. -/
theorem KernelHooks.lookup_store (hooks : KernelHooks) (id : Nat) (result : ViewDumpResult)
    (other : Nat) :
    (hooks.store_dump_path id result).kernel_states.lookup other =
      if other = id ∧ result.ok = true then
        (hooks.kernel_states.lookup other).map fun state => { state with dump_path := result.filename }
      else hooks.kernel_states.lookup other := by
  unfold store_dump_path
  cases hlookup : hooks.kernel_states.lookup id with
  | none =>
    by_cases hother : other = id
    · subst hother
      simp [hlookup]
    · simp [hother]
  | some state =>
    by_cases hok : result.ok = true
    · by_cases hother : other = id
      · subst hother
        simp [hok, hlookup]
      · simp [hok, hother, AList.lookup_insert_ne hother]
    · simp [hok]

/-- A kernel which is taken is not in the table any more. -/
theorem KernelHooks.lookup_take (hooks : KernelHooks) (id other : Nat) :
    (hooks.take_kernel id).2.kernel_states.lookup other =
      if other = id then none else hooks.kernel_states.lookup other := by
  unfold take_kernel
  by_cases hother : other = id
  · subst hother
    cases hlookup : hooks.kernel_states.lookup other with
    | none => simp [hlookup]
    | some state => simp
  · rw [if_neg hother]
    cases hooks.kernel_states.lookup id with
    | none => rfl
    | some state => exact AList.lookup_erase_ne hother

theorem KernelHooks.sameCounters_store (hooks : KernelHooks) (id : Nat) (result : ViewDumpResult) :
    hooks.SameCounters (hooks.store_dump_path id result) := by
  unfold store_dump_path
  split
  · exact ⟨rfl, rfl, rfl⟩
  · split <;> exact ⟨rfl, rfl, rfl⟩

theorem KernelHooks.sameCounters_take (hooks : KernelHooks) (id : Nat) :
    hooks.SameCounters (hooks.take_kernel id).2 := by
  unfold take_kernel
  split <;> exact ⟨rfl, rfl, rfl⟩

/-- A kernel with a path was in the table. -/
theorem KernelHooks.take_path {hooks : KernelHooks} {id : Nat}
    (hpath : (hooks.take_kernel id).1.dump_path ≠ "") :
    hooks.kernel_states.lookup id = some (hooks.take_kernel id).1 := by
  unfold take_kernel at hpath ⊢
  cases hlookup : hooks.kernel_states.lookup id with
  | none =>
    rw [hlookup] at hpath
    exact absurd rfl hpath
  | some state => rfl

/-- The invariant holds before the first step. -/
theorem invariant_initial : Invariant selection initial (System.initial initial : System Thread) where
  log := throughout_nil
  pcs := fun _ => trivial
  begins := by
    intro thread other id hbegins
    obtain ⟨launch, hlaunch, _⟩ := hbegins
    cases hlaunch
  ends := fun _ _ hends => nomatch hends
  next := fun _ hmem => nomatch hmem
  counts := fun _ => rfl
  fence := rfl
  pending := by
    intro id
    simp [System.initial, KernelHooks.initial, Pending]
  states := by
    intro id state hlookup
    simp [System.initial, KernelHooks.initial] at hlookup
  taken := fun _ _ _ hmem => nomatch hmem

/-- A path left to take is the first, so no other hook holds one and nothing was
    appended. -/
theorem Invariant.first_taken {s : System Thread} (hinv : Invariant selection initial s) {kernel_id : Nat}
    (hpath : (s.hooks.take_kernel kernel_id).1.dump_path ≠ "") :
    (∀ other, ¬ (s.pc other).ends = true) ∧
      ∀ other filename result, .appended other filename result ∉ s.log := by
  have hnone : ∀ id state fence, .ended id state fence ∈ s.log → state.dump_path = "" := by
    intro id state fence hended
    by_contra hstate
    exact hpath ((hinv.taken id state fence hended hstate).2 kernel_id _ (KernelHooks.take_path hpath))
  refine ⟨fun other hends => ?_, fun other filename result hmem => ?_⟩
  · obtain ⟨id, state, fence, hended, hstate, _⟩ := (hinv.pcs other).taken hends
    exact hstate (hnone id state fence hended)
  · obtain ⟨before, after, hsplit, ⟨state, fence, hended, hstate, _⟩, _⟩ := hinv.log.of_mem hmem
    apply hstate
    apply hnone other state fence
    rw [hsplit]
    exact List.mem_append_left _ hended

variable [DecidableEq Thread]

/-- A begin hook gets an id which no hook and no event has had. -/
theorem Invariant.move_begin {s : System Thread} (hinv : Invariant selection initial s)
    {thread : Thread} (kernel_label : String) (device_id : UInt32) :
    Invariant selection initial
      (s.move thread (.begin_register ⟨s.hooks.next_kernel_id, kernel_label, device_id, 0⟩)
        { s.hooks with next_kernel_id := s.hooks.next_kernel_id + 1 }
        (.fetched s.hooks.next_kernel_id)) := by
  have hfresh : Event.fetched s.hooks.next_kernel_id ∉ s.log := fun hmem =>
    Nat.lt_irrefl _ (hinv.next _ hmem)
  have hnobody : ∀ other, ¬ (s.pc other).Begins s.hooks.next_kernel_id := fun other hid =>
    hfresh ((hinv.pcs other).fetched hinv.log hid)
  have hnew : ∀ id, (Pc.begin_register ⟨s.hooks.next_kernel_id, kernel_label, device_id, 0⟩).Begins id →
      id = s.hooks.next_kernel_id := by
    intro id hid
    obtain ⟨launch, hlaunch, rfl⟩ := hid
    cases hlaunch
    rfl
  refine ⟨?_, ?_, ?_, ?_, ?_, ?_, ?_, ?_, ?_, ?_⟩
  · exact throughout_concat.mpr ⟨hinv.log, hfresh⟩
  · apply hinv.move_pcs
    · refine ⟨List.mem_append_right _ (List.mem_singleton_self _), fun other hmem hid => hfresh ?_⟩
      have hother : Event.registered other ∈ s.log := by simpa using hmem
      have hfetched := registered_fetched hinv.log hother
      rwa [hid] at hfetched
    · exact fun other _ hdisturbs => hdisturbs
  · exact fun first second id => move_unique (·.Begins id)
      (fun first second => hinv.begins first second id) (fun hid => .inr (hnew id hid ▸ hnobody))
      first second
  · exact move_unique (·.ends = true) hinv.ends fun hends => nomatch hends
  · intro id hmem
    rw [System.move_log, List.mem_append, List.mem_singleton] at hmem
    cases hmem with
    | inl hold => exact Nat.lt_succ_of_lt (hinv.next id hold)
    | inr hlast =>
      cases hlast
      exact Nat.lt_succ_self _
  · intro label
    rw [System.move_log, List.countP_append]
    exact hinv.counts label
  · rw [System.move_log, current_fence_concat]
    exact hinv.fence
  · intro id
    rw [System.move_log, pending_concat]
    simpa using hinv.pending id
  · exact fun id state hlookup => hinv.states_concat _ hlookup
  · intro id state fence hmem hpath
    have hended : .ended id state fence ∈ s.log := by simpa using hmem
    obtain ⟨hnone, hpaths⟩ := hinv.taken id state fence hended hpath
    refine ⟨move_not_begins hnone fun hid => ?_, hpaths⟩
    -- The kernel that ended was dumped, so its id is an old one.
    obtain ⟨result, hcreated⟩ := ended_created hinv.log hended hpath
    obtain ⟨launch, hlaunch, hlaunchId, _⟩ := created_selected hinv.log hcreated
    apply hfresh
    rw [← hnew id hid, ← hlaunchId]
    exact registered_fetched hinv.log hlaunch

/-- The last section of a begin hook gives a path to the kernel it dumped, which
    has not ended. -/
theorem Invariant.move_store {s : System Thread} (hinv : Invariant selection initial s)
    {thread : Thread} {launch : Launch} {result : ViewDumpResult}
    (hbefore : s.pc thread = .begin_store launch result) :
    Invariant selection initial
      (s.move thread (.begin_return launch) (s.hooks.store_dump_path launch.id result)
        (.stored launch.id)) := by
  have hknown := hinv.knows hbefore
  have hown : (s.pc thread).Begins launch.id := ⟨launch, by rw [hbefore]; rfl, rfl⟩
  have hsame : ∀ id, (Pc.begin_return launch).Begins id → (s.pc thread).Begins id := by
    intro id hid
    obtain ⟨begun, hbegun, rfl⟩ := hid
    cases hbegun
    exact hown
  obtain ⟨hnext, hcounts, hfence⟩ := @Invariant.counters_concat _ _ _ _ hinv _
    (s.hooks.sameCounters_store launch.id result) (.stored launch.id) trivial
  refine ⟨?_, ?_, ?_, ?_, ?_, ?_, ?_, ?_, ?_, ?_⟩
  · exact throughout_concat.mpr ⟨hinv.log, trivial⟩
  · apply hinv.move_pcs
    · exact ⟨List.mem_append_left _ hknown.1, fun _ => ⟨result, List.mem_append_left _ hknown.2⟩⟩
    · exact fun other _ hdisturbs => hdisturbs
  · exact fun first second id => move_unique (·.Begins id)
      (fun first second => hinv.begins first second id) (fun hid => .inl (hsame id hid)) first second
  · exact move_unique (·.ends = true) hinv.ends fun hends => nomatch hends
  · exact hnext
  · exact hcounts
  · exact hfence
  · intro id
    have hkeys : id ∈ (s.hooks.store_dump_path launch.id result).kernel_states ↔
        id ∈ s.hooks.kernel_states := by
      rw [← AList.lookup_isSome, ← AList.lookup_isSome, KernelHooks.lookup_store]
      split
      · rw [Option.isSome_map]
      · rfl
    rw [System.move_hooks, System.move_log, pending_concat, hkeys, hinv.pending]
    simp
  · intro id state hlookup
    rw [System.move_hooks, KernelHooks.lookup_store] at hlookup
    split at hlookup
    · next hstored =>
      obtain ⟨old, hold, rfl⟩ := Option.map_eq_some_iff.mp hlookup
      refine ⟨(hinv.states_concat _ hold).1, fun _ => ⟨result, ?_, hstored.2, rfl⟩⟩
      rw [hstored.1]
      exact List.mem_append_left _ hknown.2
    · exact hinv.states_concat _ hlookup
  · intro id state fence hmem hpath
    have hended : .ended id state fence ∈ s.log := by simpa using hmem
    obtain ⟨hnone, hpaths⟩ := hinv.taken id state fence hended hpath
    refine ⟨move_not_begins hnone fun hid => hnone thread (hsame id hid), fun other left hlookup => ?_⟩
    rw [System.move_hooks, KernelHooks.lookup_store] at hlookup
    split at hlookup
    · -- Only one kernel is dumped, and its begin hook has not returned.
      obtain ⟨created, hcreated⟩ := ended_created hinv.log hended hpath
      have hid : id = launch.id := created_unique hinv.log hcreated hknown.2
      exact absurd hown (hid ▸ hnone thread)
    · exact hpaths other left hlookup

/-- The section of an end hook, whether or not it takes a path. -/
theorem Invariant.move_take {s : System Thread} (hinv : Invariant selection initial s) {thread : Thread}
    {kernel_id : Nat} (hreturned : ∀ other, ¬ (s.pc other).Begins kernel_id) {pc : Pc}
    (hlaunch : pc.launch? = none)
    (hpc : PcHolds selection (s.log ++
      [.ended kernel_id (s.hooks.take_kernel kernel_id).1 s.hooks.tool_fence]) pc)
    (hends : pc.ends = true → ∀ other, ¬ (s.pc other).ends = true) :
    Invariant selection initial
      (s.move thread pc (s.hooks.take_kernel kernel_id).2
        (.ended kernel_id (s.hooks.take_kernel kernel_id).1 s.hooks.tool_fence)) := by
  have hnobody : ∀ id, ¬ pc.Begins id := by
    intro id hid
    obtain ⟨launch, hsome, _⟩ := hid
    rw [hlaunch] at hsome
    cases hsome
  obtain ⟨hnext, hcounts, hfence⟩ := @Invariant.counters_concat _ _ _ _ hinv _
    (s.hooks.sameCounters_take kernel_id)
    (.ended kernel_id (s.hooks.take_kernel kernel_id).1 s.hooks.tool_fence) trivial
  refine ⟨?_, ?_, ?_, ?_, ?_, ?_, ?_, ?_, ?_, ?_⟩
  · refine throughout_concat.mpr ⟨hinv.log, hinv.fence, fun hpath => ?_⟩
    obtain ⟨hlaunched, hcreated⟩ := hinv.states kernel_id _ (KernelHooks.take_path hpath)
    exact ⟨hlaunched, hcreated hpath⟩
  · exact hinv.move_pcs hpc fun other _ hdisturbs => hdisturbs
  · exact fun first second id => move_unique (·.Begins id)
      (fun first second => hinv.begins first second id) (fun hid => absurd hid (hnobody id)) first second
  · exact move_unique (·.ends = true) hinv.ends fun hpcEnds => .inr (hends hpcEnds)
  · exact hnext
  · exact hcounts
  · exact hfence
  · intro id
    rw [System.move_hooks, System.move_log, pending_concat, ← AList.lookup_isSome,
      KernelHooks.lookup_take, ← hinv.pending, ← AList.lookup_isSome]
    by_cases hid : id = kernel_id
    · simp [hid]
    · simp [hid, Ne.symm hid]
  · intro id state hlookup
    rw [System.move_hooks, KernelHooks.lookup_take] at hlookup
    split at hlookup
    · cases hlookup
    · exact hinv.states_concat _ hlookup
  · intro id state fence hmem hpath
    rw [System.move_log, List.mem_append, List.mem_singleton] at hmem
    cases hmem with
    | inl hold =>
      obtain ⟨hnone, hpaths⟩ := hinv.taken id state fence hold hpath
      refine ⟨move_not_begins hnone (hnobody id), fun other left hlookup => ?_⟩
      rw [System.move_hooks, KernelHooks.lookup_take] at hlookup
      split at hlookup
      · cases hlookup
      · exact hpaths other left hlookup
    | inr hlast =>
      cases hlast
      refine ⟨move_not_begins hreturned (hnobody _), fun other left hlookup => ?_⟩
      rw [System.move_hooks, KernelHooks.lookup_take] at hlookup
      split at hlookup
      · cases hlookup
      · next hother =>
        -- A second path would be that of a second dump.
        by_contra hleft
        obtain ⟨_, result, hcreated, _⟩ := (hinv.states _ _ (KernelHooks.take_path hpath)).imp_right
          (fun hcreated => hcreated hpath)
        obtain ⟨result', hcreated', _⟩ := (hinv.states other left hlookup).2 hleft
        exact hother (created_unique hinv.log hcreated' hcreated)

/-- Each locked section, dump call and return keeps the invariant. -/
theorem Step.keeps {s next : System Thread} {action : Action Thread}
    (hstep : Step selection s action next) (hinv : Invariant selection initial s) :
    Invariant selection initial next := by
  cases hstep with
  | provide fence => exact hinv.provide fence
  | begin kind label device_id hpc => exact hinv.move_begin _ _
  | @register_selected thread launch hpc hselected =>
    have hknown := hinv.knows hpc
    refine hinv.move_register hpc rfl ⟨List.mem_append_right _ (List.mem_singleton_self _), hselected, ?_⟩
    -- A dump of this launch would need an earlier registration.
    intro result hmem
    have hcreated : .created launch.id result ∈ s.log := by simpa using hmem
    obtain ⟨other, hother, hid, _⟩ := created_selected hinv.log hcreated
    exact hknown.2 other hother hid
  | register_other hpc hother =>
    refine hinv.move_register hpc rfl ⟨List.mem_append_right _ (List.mem_singleton_self _), fun hselected => ?_⟩
    rw [Launch.Selected, hother] at hselected
    cases hselected
  | read_fence hpc =>
    have hknown := hinv.knows hpc
    apply hinv.move_local
    · trivial
    · exact hinv.fence
    · exact ⟨Chosen.concat hknown (fun _ heq => nomatch heq),
        List.mem_append_right _ (List.mem_singleton_self _)⟩
    · exact fun hdisturbs => hdisturbs.elim fun _ hfalse => hfalse
    · rw [hpc]
      exact fun id hid => hid
    · exact fun hends => nomatch hends
  | begin_fence hpc =>
    have hknown := hinv.knows hpc
    apply hinv.move_local
    · trivial
    · trivial
    · exact ⟨hknown.1.concat (fun _ heq => nomatch heq), _, List.mem_append_left _ hknown.2,
        fun _ => List.mem_append_right _ (List.mem_singleton_self _)⟩
    · exact fun hdisturbs => hdisturbs.elim fun _ hfalse => hfalse
    · rw [hpc]
      exact fun id hid => hid
    · exact fun hends => nomatch hends
  | begin_no_fence hpc =>
    have hknown := hinv.knows hpc
    apply hinv.move_local
    · trivial
    · trivial
    · exact ⟨hknown.1.concat (fun _ heq => nomatch heq), _, List.mem_append_left _ hknown.2,
        fun hset => absurd rfl hset⟩
    · exact fun hdisturbs => hdisturbs.elim fun _ hfalse => hfalse
    · rw [hpc]
      exact fun id hid => hid
    · exact fun hends => nomatch hends
  | @begin_snapshot thread launch hpc =>
    have hknown := hinv.knows hpc
    obtain ⟨hchosen, fence, hread, hfenced⟩ := hknown
    apply hinv.move_local
    · trivial
    · exact ⟨launch, fence, hchosen.1, rfl, hread, hfenced⟩
    · exact hchosen.concat fun _ heq => nomatch heq
    · exact fun hdisturbs => hdisturbs.elim fun _ hfalse => hfalse
    · rw [hpc]
      exact fun id hid => hid
    · exact fun hends => nomatch hends
  | @create thread launch result hpc =>
    have hknown := hinv.knows hpc
    apply hinv.move_local
    · trivial
    · exact ⟨launch, hknown.1, rfl, hknown.2.1, hknown.2.2⟩
    · exact ⟨List.mem_append_left _ hknown.1, List.mem_append_right _ (List.mem_singleton_self _)⟩
    · rw [hpc]
      exact fun _ => ⟨launch, rfl, rfl⟩
    · rw [hpc]
      exact fun id hid => hid
    · exact fun hends => nomatch hends
  | store hpc => exact hinv.move_store hpc
  | @«return» thread launch hpc =>
    have hknown := hinv.knows hpc
    apply hinv.move_local
    · trivial
    · exact ⟨launch, hknown.1, rfl, hknown.2⟩
    · trivial
    · exact fun hdisturbs => hdisturbs.elim fun _ hfalse => hfalse
    · exact fun id hid => hid.elim fun _ hlaunch => nomatch hlaunch.1
    · exact fun hends => nomatch hends
  | end_dumped kind kernel_id hpc hreturned hpath =>
    obtain ⟨hends, happended⟩ := hinv.first_taken hpath
    apply hinv.move_take hreturned rfl
    · exact ⟨List.mem_append_right _ (List.mem_singleton_self _), hpath, by simpa using happended⟩
    · exact fun _ => hends
  | end_other kind kernel_id hpc hreturned hpath =>
    exact hinv.move_take hreturned rfl trivial fun hends => nomatch hends
  | end_fence hpc =>
    have hknown := hinv.knows hpc
    apply hinv.move_local
    · trivial
    · trivial
    · exact ⟨_, Taken.concat hknown (fun _ _ _ heq => nomatch heq),
        fun _ => List.mem_append_right _ (List.mem_singleton_self _)⟩
    · exact fun hdisturbs => hdisturbs.elim fun _ hfalse => hfalse
    · exact fun id hid => hid.elim fun _ hlaunch => nomatch hlaunch.1
    · rw [hpc]
      exact fun _ => rfl
  | end_no_fence hpc =>
    have hknown := hinv.knows hpc
    apply hinv.move_local
    · trivial
    · trivial
    · exact ⟨_, Taken.concat hknown (fun _ _ _ heq => nomatch heq), fun hset => absurd rfl hset⟩
    · exact fun hdisturbs => hdisturbs.elim fun _ hfalse => hfalse
    · exact fun id hid => hid.elim fun _ hlaunch => nomatch hlaunch.1
    · rw [hpc]
      exact fun _ => rfl
  | end_snapshot hpc =>
    have hknown := hinv.knows hpc
    obtain ⟨fence, htaken, hfenced⟩ := hknown
    apply hinv.move_local
    · trivial
    · exact ⟨_, fence, htaken.1, htaken.2.1, hfenced⟩
    · exact ⟨fence, htaken.concat (fun _ _ _ heq => nomatch heq)⟩
    · exact fun hdisturbs => hdisturbs.elim fun _ hfalse => hfalse
    · exact fun id hid => hid.elim fun _ hlaunch => nomatch hlaunch.1
    · rw [hpc]
      exact fun _ => rfl
  | append result hpc =>
    have hknown := hinv.knows hpc
    obtain ⟨fence, htaken⟩ := hknown
    apply hinv.move_local
    · trivial
    · exact ⟨⟨_, fence, htaken.1, htaken.2.1, rfl⟩, htaken.2.2⟩
    · trivial
    · rw [hpc]
      exact fun _ => rfl
    · exact fun id hid => hid.elim fun _ hlaunch => nomatch hlaunch.1
    · exact fun hends => nomatch hends

/-- The invariant holds at the end of every run, since each step keeps it. -/
theorem run_invariant {actions : List (Action Thread)} {s : System Thread}
    (hrun : Run (Step selection) (System.initial initial) actions s) :
    Invariant selection initial s :=
  hrun.invariant invariant_initial fun _ _ _ hinv hstep => hstep.keeps hinv

end krepe
