import Krepe.Extract.DescribesLaunch

open std kokkos

namespace krepe

namespace AllocationTracker

/-- Sorting sorted pointers changes nothing. -/
theorem mergeSort_twice (pointers : List Pointer) :
    (pointers.mergeSort (· ≤ ·)).mergeSort (· ≤ ·) = pointers.mergeSort (· ≤ ·) := by
  have hsorted : (pointers.mergeSort (· ≤ ·)).Pairwise (· ≤ ·) := by
    apply List.pairwise_mergeSort'
  exact List.mergeSort_of_pairwise (hsorted.imp fun hle => decide_eq_true hle)

/-- A snapshot which is taken again at once is the same. -/
theorem snapshot_twice (compiler_plugins : Bool) (tracker : AllocationTracker) :
    ((tracker.snapshot compiler_plugins).2.snapshot compiler_plugins).1 =
      (tracker.snapshot compiler_plugins).1 := by
  cases compiler_plugins with
  | false => rfl
  | true =>
    have hvisited := (foldl_visit_used
      (UnorderedMap.map_values (·.mergeSort (· ≤ ·)) tracker.used_allocations).entries
      AllocationSnapshot.empty tracker.active_allocations).2
    have hbuckets : bucket tracker.snapshot_used.2.active_allocations = bucket tracker.active_allocations :=
      hvisited
    have hsorted : tracker.snapshot_used.2.used_allocations =
        UnorderedMap.map_values (·.mergeSort (· ≤ ·)) tracker.used_allocations := rfl
    have hvisits : tracker.snapshot_used.2.used_visits = tracker.used_visits := by
      rw [used_visits, used_visits, hbuckets, hsorted]
      simp only [UnorderedMap.map_values, List.map_map, Function.comp_def, mergeSort_twice]
    simp only [snapshot, if_true]
    rw [snapshot_used_eq, snapshot_used_eq, hvisits]

end AllocationTracker

/-- The call of an allocation hook which an action makes. -/
def AppAction.allocation : AppAction → Option TrackerEvent
  | .allocate_data queries space label ptr size => some (.allocate_data queries space label ptr size)
  | .deallocate_data space label ptr size => some (.deallocate_data space label ptr size)
  | _ => none

/-- What an application has allocated after its actions. -/
def live_after (app : Application) (actions : List AppAction) (key : String × Pointer) : Option AllocationRecord :=
  live app.run.build (actions.filterMap AppAction.allocation) key

/-- The live allocations into which, with compiler plugins, a view of a functor points. -/
structure Reachable (app : Application) (before : List AppAction) (functor : FunctorObject)
    (allocation : ActiveAllocation) : Prop where
  live : live_after app before allocation.key = some allocation.record
  view : app.run.build.compiler_plugins = true → ∃ data, (data, allocation.record.space) ∈ functor.views ∧
    allocation.record.p_data ≤ data ∧ data ≤ allocation.record.p_data + allocation.record.size

/-- The tracker has a history in which the actions allocated what is live. -/
def Follows (app : Application) (before : List AppAction) (tracker : AllocationTracker) : Prop :=
  ∃ history, tracker = tracker_after app.run.build history ∧
    ∀ key, live app.run.build history key = live_after app before key

variable {app : Application}

section

variable {before : List AppAction} {tracker : AllocationTracker}

/-- The tracker follows one more action which allocates or deallocates, after the event of it. -/
theorem Follows.concat (hfollows : Follows app before tracker) {action : AppAction} {event : TrackerEvent}
    (hevent : action.allocation = some event) :
    Follows app (before ++ [action]) (event.apply app.run.build tracker) := by
  obtain ⟨history, rfl, hlive⟩ := hfollows
  refine ⟨history ++ [event], (tracker_after_concat history event).symm, fun key => ?_⟩
  have hactions : (before ++ [action]).filterMap AppAction.allocation =
      before.filterMap AppAction.allocation ++ [event] := by simp [hevent]
  have hbefore : live app.run.build (before.filterMap AppAction.allocation) key = live app.run.build history key :=
    (hlive key).symm
  rw [live_after, hactions, live_concat, live_concat, hbefore]

/-- An action which allocates nothing leaves the same live. -/
theorem Follows.silent (hfollows : Follows app before tracker) {action : AppAction}
    (hnone : action.allocation = none) : Follows app (before ++ [action]) tracker := by
  obtain ⟨history, htracker, hlive⟩ := hfollows
  refine ⟨history, htracker, fun key => ?_⟩
  rw [hlive, live_after, live_after, List.filterMap_append, List.filterMap_cons_none hnone, List.filterMap_nil,
    List.append_nil]

/-- A snapshot leaves what the tracker follows. -/
theorem Follows.snapshot (hfollows : Follows app before tracker) :
    Follows app before (TrackerEvent.snapshot.apply app.run.build tracker) := by
  obtain ⟨history, rfl, hlive⟩ := hfollows
  refine ⟨history ++ [.snapshot], (tracker_after_concat history .snapshot).symm, fun key => ?_⟩
  rw [live_concat]
  exact hlive key

/-- A launch leaves what the tracker follows. -/
theorem Follows.kokkos_launch {hooks : CaptureHooks} (hfollows : Follows app before hooks.allocation_tracker)
    (label : CString) (device_id : UInt32) :
    Follows app before (kokkos_launch app hooks label device_id).2.allocation_tracker := by
  have hbegun : Follows app before (hooks.begin_kernel app.run label device_id).2.2.allocation_tracker := by
    rw [begin_kernel_eq]
    split
    · exact hfollows.snapshot
    · exact hfollows
  unfold krepe.kokkos_launch
  dsimp only
  generalize hooks.begin_kernel app.run label device_id = begun at hbegun ⊢
  unfold CaptureHooks.end_kernel
  dsimp only
  split
  · exact hbegun.snapshot
  · exact hbegun

/-- A replay of the functor leaves what the tracker follows. -/
theorem Follows.replay_functor {hooks : CaptureHooks} (hfollows : Follows app before hooks.allocation_tracker)
    (functor : FunctorObject) : Follows app before (replay_functor app hooks functor).allocation_tracker := by
  obtain ⟨history, htracker, hlive⟩ := hfollows
  refine ⟨_, replay_functor_tracker app hooks functor history htracker, fun key => ?_⟩
  split
  · rw [live_register_events, hlive]
  · rw [List.append_nil, hlive]

end

/-- One action keeps the tracker in step with what is live. -/
theorem Follows.step {before : List AppAction} {hooks : CaptureHooks}
    (hfollows : Follows app before hooks.allocation_tracker) (action : AppAction) :
    Follows app (before ++ [action]) (action.perform app hooks).2.allocation_tracker := by
  cases action with
  | parallel_for label policy functor device_id =>
    obtain ⟨desc, hdesc⟩ := impl.register_bounds_ok app.extract policy
    rw [AppAction.perform, parallel_for_eq hooks label policy functor device_id hdesc]
    refine Follows.silent ?_ rfl
    split
    · refine Follows.kokkos_launch (Follows.replay_functor ?_ functor) _ _
      exact hfollows
    · refine Follows.kokkos_launch ?_ _ _
      exact hfollows
  | replay_functor functor => exact (hfollows.replay_functor functor).silent rfl
  | launch label device_id => exact (hfollows.kokkos_launch label device_id).silent rfl
  | next_invocation_will_dump label => exact hfollows.silent rfl
  | allocate_data queries space label ptr size =>
    exact @Follows.concat app _ _ hfollows (.allocate_data queries space label ptr size) _ rfl
  | deallocate_data space label ptr size =>
    exact @Follows.concat app _ _ hfollows (.deallocate_data space label ptr size) _ rfl
  | add_metadata key value => exact hfollows.silent rfl

/-- The tracker follows the actions, by induction on these. -/
theorem follows_hooks_after (tool_fence : Fence) (actions : List AppAction) :
    Follows app actions (hooks_after app (CaptureHooks.initial tool_fence) actions).allocation_tracker := by
  induction actions using List.reverseRecOn with
  | nil => exact ⟨[], rfl, fun _ => rfl⟩
  | append_singleton before action ih =>
    rw [hooks_after, List.foldl_append]
    exact ih.step action

/-- A snapshot after a functor was replayed takes what the functor can reach. -/
theorem mem_snapshot_reachable {before : List AppAction} {hooks : CaptureHooks}
    (hfollows : Follows app before hooks.allocation_tracker) (functor : FunctorObject)
    {allocation : ActiveAllocation} :
    allocation ∈ ((replay_functor app hooks functor).allocation_tracker.snapshot
        app.run.build.compiler_plugins).1.allocations ↔
      Reachable app before functor allocation := by
  obtain ⟨history, htracker, hlive⟩ := hfollows
  rw [mem_snapshot_replayed htracker, hlive]
  exact ⟨fun hreached => ⟨hreached.1, hreached.2⟩, fun hreached => ⟨hreached.live, hreached.view⟩⟩

/-- The hooks with which a `parallel_for` of the extractor launches. -/
def launching_hooks (app : Application) (hooks : CaptureHooks) (label : String) (policy : Policy)
    (functor : FunctorObject) : CaptureHooks :=
  let (will_dump, hooks) := hooks.krepe_kernel_dump_next_invocation_will_dump app.run (c_str label)
  if will_dump then
    match impl.register_bounds app.extract policy with
    | .error _ => hooks
    | .ok desc => replay_functor app { hooks with policy := desc } functor
  else hooks

/-- A `parallel_for` is the launch from these hooks. -/
theorem parallel_for_launching (hooks : CaptureHooks) (label : String) (policy : Policy)
    (functor : FunctorObject) (device_id : UInt32) :
    let launched := kokkos_launch app (launching_hooks app hooks label policy functor) (some (c_str label)) device_id
    (parallel_for app hooks label policy functor device_id).1.dump = launched.1 ∧
      (parallel_for app hooks label policy functor device_id).2 = launched.2 := by
  obtain ⟨desc, hdesc⟩ := impl.register_bounds_ok app.extract policy
  unfold launching_hooks parallel_for
  dsimp only
  split
  · rw [hdesc]
    exact ⟨rfl, rfl⟩
  · exact ⟨rfl, rfl⟩

section

variable {before : List AppAction} {hooks : CaptureHooks} {label : String} {policy : Policy}
  {functor : FunctorObject}

/-- A launch which is asked for is still asked for when its hook begins. -/
theorem launching_selected
    (hselected : should_dump_views_for_invocation app.run.selection (c_str label)
      (hooks.next_invocation (c_str label)) = true) :
    should_dump_views_for_invocation app.run.selection (c_str label)
      ((launching_hooks app hooks label policy functor).next_invocation (c_str label)) = true := by
  obtain ⟨desc, hdesc⟩ := impl.register_bounds_ok app.extract policy
  have hcount := will_dump_counts app hooks (c_str label) (c_str label)
  unfold launching_hooks
  dsimp only
  rw [will_dump_eq, if_pos hselected, hdesc]
  dsimp only
  rw [(replay_functor_keeps app _ functor).1]
  exact (congrArg _ hcount).trans hselected

/-- The dump of a launch which is asked for holds the call, and the allocations which
    its functor reaches. -/
theorem launching_dump (hfollows : Follows app before hooks.allocation_tracker)
    (hselected : should_dump_views_for_invocation app.run.selection (c_str label)
      (hooks.next_invocation (c_str label)) = true) :
    let dump := dump_of_launch app (launching_hooks app hooks label policy functor) (c_str label)
    dump.functor_data = functor.bytes ∧ dump.nvcc_inner_lambda_data = functor.inner_lambda.getD [] ∧
      impl.register_bounds app.extract policy = .ok dump.policy ∧
      ∀ allocation, allocation ∈ dump.input_snapshot.allocations ↔ Reachable app before functor allocation := by
  obtain ⟨desc, hdesc⟩ := impl.register_bounds_ok app.extract policy
  obtain ⟨start, hpolicy, htracker, hlaunching⟩ : ∃ start : CaptureHooks, start.policy = desc ∧
      start.allocation_tracker = hooks.allocation_tracker ∧
      launching_hooks app hooks label policy functor = replay_functor app start functor := by
    refine ⟨{ (hooks.krepe_kernel_dump_next_invocation_will_dump app.run (c_str label)).2 with policy := desc },
      rfl, rfl, ?_⟩
    unfold launching_hooks
    dsimp only
    rw [will_dump_eq, if_pos hselected, hdesc]
  rw [hlaunching]
  obtain ⟨hbytes, hinner_lambda⟩ := replay_functor_data app start functor
  refine ⟨hbytes, hinner_lambda, ?_,
    fun allocation => mem_snapshot_reachable (htracker ▸ hfollows) functor⟩
  rw [hdesc, dump_of_launch, (replay_functor_keeps app start functor).2.1, hpolicy]

end

end krepe
