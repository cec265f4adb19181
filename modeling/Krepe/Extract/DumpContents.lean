import Krepe.Capture.AllocationTracker.History
import Krepe.Extract.ParallelFor
import Krepe.PolicyRoundTrip

open std kokkos

namespace krepe

variable {app : Application}

/-- Some calls of the hooks lead to the tracker. -/
def Tracked (app : Application) (tracker : AllocationTracker) : Prop :=
  ∃ history, tracker = tracker_after app.run.build history

/-- A tracker with a history has one after one more event. -/
theorem Tracked.apply {tracker : AllocationTracker} (htracked : Tracked app tracker)
    (event : TrackerEvent) : Tracked app (event.apply app.run.build tracker) := by
  obtain ⟨history, rfl⟩ := htracked
  exact ⟨history ++ [event], (tracker_after_concat history event).symm⟩

/-- What a call of the hooks keeps: the functor, the policy and the metadata of a
    later dump, and a tracker with a history. -/
structure KeepsCapture (app : Application) (hooks next : CaptureHooks) : Prop where
  functor_data : next.functor_data = hooks.functor_data
  nvcc_inner_lambda_data : next.nvcc_inner_lambda_data = hooks.nvcc_inner_lambda_data
  metadata : next.metadata = hooks.metadata
  policy : next.policy = hooks.policy
  tracked : Tracked app hooks.allocation_tracker → Tracked app next.allocation_tracker

theorem KeepsCapture.trans {first second third : CaptureHooks} (hfirst : KeepsCapture app first second)
    (hsecond : KeepsCapture app second third) : KeepsCapture app first third where
  functor_data := hsecond.functor_data.trans hfirst.functor_data
  nvcc_inner_lambda_data := hsecond.nvcc_inner_lambda_data.trans hfirst.nvcc_inner_lambda_data
  metadata := hsecond.metadata.trans hfirst.metadata
  policy := hsecond.policy.trans hfirst.policy
  tracked := fun htracked => hsecond.tracked (hfirst.tracked htracked)

/-- The dump which the begin hook of a launch makes. -/
def dump_of_launch (app : Application) (hooks : CaptureHooks) (kernel_label : String) : KernelDump :=
  ⟨(hooks.allocation_tracker.snapshot app.run.build.compiler_plugins).1, hooks.functor_data,
    hooks.nvcc_inner_lambda_data, hooks.metadata, hooks.policy, kernel_label, hooks.next_kernel_id,
    hooks.next_invocation kernel_label⟩

theorem store_dump_path_invocations (hooks : KernelHooks) (id : Nat) (result : ViewDumpResult) :
    (hooks.store_dump_path id result).kernel_invocations = hooks.kernel_invocations := by
  unfold KernelHooks.store_dump_path
  cases hooks.kernel_states.lookup id with
  | none => rfl
  | some state => cases result.ok <;> rfl

theorem take_kernel_invocations (hooks : KernelHooks) (id : Nat) :
    (hooks.take_kernel id).2.kernel_invocations = hooks.kernel_invocations := by
  unfold KernelHooks.take_kernel
  cases hooks.kernel_states.lookup id <;> rfl

section

variable (app) (hooks : CaptureHooks) (label : CString) (device_id : UInt32)

/-- The kernels after the first section of a begin hook. -/
def registered_kernels : KernelHooks :=
  hooks.toKernelHooks.fetch_kernel_id.2.register_kernel hooks.next_kernel_id (label_or_unknown label)
    device_id

/-- The begin hook counts the launch, and makes the dump if the launch is selected. -/
theorem begin_kernel_eq :
    hooks.begin_kernel app.run label device_id =
      if should_dump_views_for_invocation app.run.selection (label_or_unknown label)
          (hooks.next_invocation (label_or_unknown label)) then
        (hooks.next_kernel_id, some (dump_of_launch app hooks (label_or_unknown label)),
          { hooks with
            toKernelHooks := (registered_kernels hooks label device_id).store_dump_path
              hooks.next_kernel_id
              (app.run.create_kernel_dump (dump_of_launch app hooks (label_or_unknown label)))
            allocation_tracker := TrackerEvent.snapshot.apply app.run.build hooks.allocation_tracker })
      else
        (hooks.next_kernel_id, none,
          { hooks with toKernelHooks := registered_kernels hooks label device_id }) := by
  unfold CaptureHooks.begin_kernel
  dsimp only
  split
  · next hselected => exact (if_pos hselected).symm
  · next hselected => exact (if_neg hselected).symm

/-- The begin hook makes a dump for a selected launch alone. -/
theorem begin_kernel_dump :
    (hooks.begin_kernel app.run label device_id).2.1 =
      if should_dump_views_for_invocation app.run.selection (label_or_unknown label)
          (hooks.next_invocation (label_or_unknown label)) then
        some (dump_of_launch app hooks (label_or_unknown label))
      else none := by
  rw [begin_kernel_eq]
  split
  · rfl
  · rfl

theorem begin_kernel_invocations :
    (hooks.begin_kernel app.run label device_id).2.2.kernel_invocations =
      (registered_kernels hooks label device_id).kernel_invocations := by
  rw [begin_kernel_eq]
  split
  · exact store_dump_path_invocations _ _ _
  · rfl

/-- The begin hook counts its own label. -/
theorem begin_kernel_counts (other : String) :
    (hooks.begin_kernel app.run label device_id).2.2.next_invocation other =
      hooks.next_invocation other + if other = label_or_unknown label then 1 else 0 := by
  rw [← KernelHooks.next_invocation_register hooks.toKernelHooks hooks.next_kernel_id
    (label_or_unknown label) device_id other, KernelHooks.next_invocation, begin_kernel_invocations]
  rfl

/-- The begin hook keeps what was captured. -/
theorem begin_kernel_keeps :
    KeepsCapture app hooks (hooks.begin_kernel app.run label device_id).2.2 := by
  rw [begin_kernel_eq]
  split
  · exact ⟨rfl, rfl, rfl, rfl, fun htracked => htracked.apply .snapshot⟩
  · exact ⟨rfl, rfl, rfl, rfl, fun htracked => htracked⟩

theorem end_kernel_invocations (kernel_id : Nat) :
    (hooks.end_kernel app.run kernel_id).2.kernel_invocations = hooks.kernel_invocations := by
  unfold CaptureHooks.end_kernel
  dsimp only
  split
  · exact take_kernel_invocations hooks.toKernelHooks kernel_id
  · exact take_kernel_invocations hooks.toKernelHooks kernel_id

/-- The end hook keeps what was captured. -/
theorem end_kernel_keeps (kernel_id : Nat) :
    KeepsCapture app hooks (hooks.end_kernel app.run kernel_id).2 := by
  unfold CaptureHooks.end_kernel
  dsimp only
  split
  · exact ⟨rfl, rfl, rfl, rfl, fun htracked => htracked.apply .snapshot⟩
  · exact ⟨rfl, rfl, rfl, rfl, fun htracked => htracked⟩

/-- The end hook has an output for a kernel with a dump. -/
theorem end_kernel_output (kernel_id : Nat) :
    (hooks.end_kernel app.run kernel_id).1 =
      if (hooks.toKernelHooks.take_kernel kernel_id).1.dump_path ≠ "" then
        some ⟨(hooks.allocation_tracker.snapshot app.run.build.compiler_plugins).1,
          (hooks.toKernelHooks.take_kernel kernel_id).1.dump_path⟩
      else none := by
  unfold CaptureHooks.end_kernel
  dsimp only
  split
  · rfl
  · rfl

/-- A launch is dumped if it is the selected one. -/
theorem kokkos_launch_dump :
    (kokkos_launch app hooks label device_id).1 =
      if should_dump_views_for_invocation app.run.selection (label_or_unknown label)
          (hooks.next_invocation (label_or_unknown label)) then
        some (dump_of_launch app hooks (label_or_unknown label))
      else none := begin_kernel_dump app hooks label device_id

/-- A launch counts its own label. -/
theorem kokkos_launch_counts (other : String) :
    (kokkos_launch app hooks label device_id).2.next_invocation other =
      hooks.next_invocation other + if other = label_or_unknown label then 1 else 0 := by
  rw [← begin_kernel_counts app hooks label device_id other, kokkos_launch]
  exact congrArg (fun map => (AList.lookup other map).getD 0 + 1) (end_kernel_invocations app _ _)

/-- A launch keeps what was captured. -/
theorem kokkos_launch_keeps : KeepsCapture app hooks (kokkos_launch app hooks label device_id).2 :=
  (begin_kernel_keeps app hooks label device_id).trans (end_kernel_keeps app _ _)

/-- A prediction is the decision of the next launch with its label. -/
theorem will_dump_eq (kernel_name : String) :
    (hooks.krepe_kernel_dump_next_invocation_will_dump app.run kernel_name).1 =
      should_dump_views_for_invocation app.run.selection kernel_name
        (hooks.next_invocation kernel_name) := by
  unfold CaptureHooks.krepe_kernel_dump_next_invocation_will_dump
  dsimp only
  rw [UnorderedMap.index_fst]
  rfl

/-- A prediction may make a count of zero, which is the count of a label without one. -/
theorem will_dump_counts (kernel_name other : String) :
    (hooks.krepe_kernel_dump_next_invocation_will_dump app.run kernel_name).2.next_invocation other =
      hooks.next_invocation other := by
  have hlookup : (AList.lookup other (UnorderedMap.index hooks.kernel_invocations kernel_name 0).2).getD 0 =
      (AList.lookup other hooks.kernel_invocations).getD 0 := by
    rw [UnorderedMap.lookup_index]
    by_cases hother : other = kernel_name
    · rw [if_pos hother, hother]
      rfl
    · rw [if_neg hother]
  exact congrArg (· + 1) hlookup

/-- Asking about the next launch keeps what was captured. -/
theorem will_dump_keeps (kernel_name : String) :
    KeepsCapture app hooks
      (hooks.krepe_kernel_dump_next_invocation_will_dump app.run kernel_name).2 :=
  ⟨rfl, rfl, rfl, rfl, fun htracked => htracked⟩

end

section

variable (app) (hooks : CaptureHooks) (functor : FunctorObject)

/-- Registering the views of a functor leads the tracker through these events. -/
def register_events (functor : FunctorObject) : List TrackerEvent :=
  .clear_used_allocations :: functor.views.map fun view => .record_used_allocation view.2 view.1

/-- The registration of the views of a functor is a history of events of the tracker. -/
theorem register_functor_views_tracker (history : List TrackerEvent)
    (htracker : hooks.allocation_tracker = tracker_after app.run.build history) :
    (register_functor_views hooks functor).allocation_tracker =
      tracker_after app.run.build (history ++ register_events functor) := by
  have hviews : ∀ (views : List (Pointer × String)) (start : CaptureHooks),
      (views.foldl (fun hooks view => hooks.krepe_kernel_dump_register_view view.1 view.2)
        start).allocation_tracker =
      (views.map fun view => TrackerEvent.record_used_allocation view.2 view.1).foldl
        (fun tracker event => event.apply app.run.build tracker) start.allocation_tracker := by
    intro views
    induction views with
    | nil => exact fun _ => rfl
    | cons view rest ih => exact fun start => ih _
  rw [register_functor_views, hviews, register_events, tracker_after, List.foldl_append,
    List.foldl_cons, ← tracker_after, ← htracker]
  rfl

theorem register_functor_views_keeps :
    let next := register_functor_views hooks functor
    next.toKernelHooks = hooks.toKernelHooks ∧ next.policy = hooks.policy ∧
      next.metadata = hooks.metadata := by
  have hviews : ∀ (views : List (Pointer × String)) (start : CaptureHooks),
      let next := views.foldl
        (fun hooks view => hooks.krepe_kernel_dump_register_view view.1 view.2) start
      next.toKernelHooks = start.toKernelHooks ∧ next.policy = start.policy ∧
        next.metadata = start.metadata := by
    intro views
    induction views with
    | nil => exact fun _ => ⟨rfl, rfl, rfl⟩
    | cons view rest ih => exact fun start => ih _
  exact hviews functor.views hooks.krepe_kernel_dump_clear_registered_views

/-- The tool has the bytes of the functor that was replayed last. -/
theorem replay_functor_data :
    (replay_functor app hooks functor).functor_data = functor.bytes ∧
      (replay_functor app hooks functor).nvcc_inner_lambda_data = functor.inner_lambda.getD [] := by
  unfold replay_functor
  cases functor.inner_lambda with
  | none => exact ⟨rfl, rfl⟩
  | some inner_lambda => exact ⟨rfl, rfl⟩

theorem replay_functor_keeps :
    let next := replay_functor app hooks functor
    next.toKernelHooks = hooks.toKernelHooks ∧ next.policy = hooks.policy ∧
      next.metadata = hooks.metadata := by
  unfold replay_functor
  cases functor.inner_lambda with
  | none =>
    dsimp only
    split
    · exact register_functor_views_keeps hooks functor
    · exact ⟨rfl, rfl, rfl⟩
  | some inner_lambda =>
    dsimp only
    split
    · exact register_functor_views_keeps hooks functor
    · exact ⟨rfl, rfl, rfl⟩

/-- A replay of the functor registers its views with the plugins, and nothing without. -/
theorem replay_functor_tracker (history : List TrackerEvent)
    (htracker : hooks.allocation_tracker = tracker_after app.run.build history) :
    (replay_functor app hooks functor).allocation_tracker = tracker_after app.run.build
      (history ++ if app.run.build.compiler_plugins then register_events functor else []) := by
  have hregister := register_functor_views_tracker app hooks functor history htracker
  unfold replay_functor
  cases functor.inner_lambda with
  | none =>
    cases app.run.build.compiler_plugins with
    | true => exact hregister
    | false => exact htracker.trans (congrArg _ (List.append_nil history).symm)
  | some inner_lambda =>
    cases app.run.build.compiler_plugins with
    | true => exact hregister
    | false => exact htracker.trans (congrArg _ (List.append_nil history).symm)

end

/-- After its registration only the views of a functor are registered. -/
theorem registered_register_events {history : List TrackerEvent} {functor : FunctorObject}
    {space : String} {q : Pointer} (hregistered : Registered (history ++ register_events functor) space q) :
    (q, space) ∈ functor.views := by
  unfold register_events at hregistered
  generalize functor.views = views at hregistered ⊢
  induction views using List.reverseRecOn with
  | nil =>
    cases (registered_concat history _ space q).mp hregistered with
    | inl heq => cases heq
    | inr hclear => exact absurd rfl hclear.1
  | append_singleton views view ih =>
    rw [List.map_append, List.map_singleton, ← List.cons_append, ← List.append_assoc] at hregistered
    cases (registered_concat _ _ space q).mp hregistered with
    | inl heq =>
      cases heq
      exact List.mem_append_right views List.mem_cons_self
    | inr hearlier => exact List.mem_append_left _ (ih hearlier.2)

/-- The registration of views changes nothing in what is live. -/
theorem live_register_events (build : CaptureBuild) (history : List TrackerEvent) (functor : FunctorObject)
    (key : String × Pointer) :
    live build (history ++ register_events functor) key = live build history key := by
  have hnothing : (register_events functor).filterMap (TrackerEvent.tracked build) = [] := by
    rw [List.filterMap_eq_nil_iff]
    intro event hevent
    cases List.mem_cons.mp hevent with
    | inl hclear =>
      rw [hclear]
      rfl
    | inr hview =>
      obtain ⟨view, _, rfl⟩ := List.mem_map.mp hview
      rfl
  rw [live, live, List.filterMap_append, hnothing, List.append_nil]

/-- Every view of a functor is registered afterwards. -/
theorem registered_of_view (history : List TrackerEvent) {functor : FunctorObject} {space : String}
    {q : Pointer} (hview : (q, space) ∈ functor.views) :
    Registered (history ++ register_events functor) space q := by
  obtain ⟨before, after, hsplit⟩ := List.append_of_mem hview
  refine ⟨history ++ register_events { functor with views := before },
    after.map fun view => .record_used_allocation view.2 view.1, ?_, ?_⟩
  · simp [register_events, hsplit]
  · simp

/-- What is dumped after a functor was replayed: with compiler plugins the allocations
    its views are in. -/
theorem mem_snapshot_replayed {hooks : CaptureHooks} {history : List TrackerEvent}
    (htracker : hooks.allocation_tracker = tracker_after app.run.build history) (functor : FunctorObject)
    {allocation : ActiveAllocation} :
    allocation ∈ ((replay_functor app hooks functor).allocation_tracker.snapshot
        app.run.build.compiler_plugins).1.allocations ↔
      live app.run.build history allocation.key = some allocation.record ∧
        (app.run.build.compiler_plugins = true → ∃ data, (data, allocation.record.space) ∈ functor.views ∧
          allocation.record.p_data ≤ data ∧ data ≤ allocation.record.p_data + allocation.record.size) := by
  rw [replay_functor_tracker app hooks functor history htracker]
  cases hplugins : app.run.build.compiler_plugins with
  | false =>
    have hsnapshot := @mem_snapshot_after app.run.build history allocation
    rw [snapshot_after, hplugins] at hsnapshot
    rw [if_neg Bool.false_ne_true, List.append_nil, hsnapshot]
    exact and_congr_right fun _ => ⟨fun _ hfalse => absurd hfalse Bool.false_ne_true,
      fun _ hfalse => absurd hfalse Bool.false_ne_true⟩
  | true =>
    have hsnapshot := @mem_snapshot_after app.run.build (history ++ register_events functor) allocation
    rw [snapshot_after, hplugins, live_register_events] at hsnapshot
    rw [if_pos rfl, hsnapshot]
    refine and_congr_right fun _ => ⟨fun hused _ => ?_, fun hview _ => ?_⟩
    · obtain ⟨data, hregistered, hlow, hhigh⟩ := hused rfl
      exact ⟨data, registered_register_events hregistered, hlow, hhigh⟩
    · obtain ⟨data, hmem, hlow, hhigh⟩ := hview rfl
      exact ⟨data, registered_of_view history hmem, hlow, hhigh⟩

/-- The label of the launch which an action makes. -/
def AppAction.kernel_label : AppAction → Option String
  | .parallel_for label _ _ _ => some (c_str label)
  | .launch label _ => some (label_or_unknown label)
  | _ => none

/-- The functor of a manual `replay_functor`. -/
def AppAction.replayed : AppAction → Option FunctorObject
  | .replay_functor functor => some functor
  | _ => none

/-- The number of launches of a label which the application asks the extractor for. -/
def launches (label : String) (actions : List AppAction) : Nat :=
  actions.countP fun action => action.kernel_label = some label

/-- The bytes of the last functor which was replayed by hand. -/
def last_replayed (actions : List AppAction) : List UInt8 :=
  ((actions.filterMap AppAction.replayed).getLast?.map FunctorObject.bytes).getD []

/-- The selected launch has not been reached. -/
def Undumped (app : Application) (before : List AppAction) : Prop :=
  ∀ invocation, app.run.selection.dump_kernel_invocation = some invocation →
    launches app.run.selection.dump_kernel_label before < invocation

/-- The hooks after a sequence of actions: the counters count its launches, and
    no policy and no functor of `parallel_for` is there before the selected launch. -/
structure Reflects (app : Application) (before : List AppAction) (hooks : CaptureHooks) : Prop where
  counts : ∀ label, hooks.next_invocation label = launches label before + 1
  tracked : Tracked app hooks.allocation_tracker
  policy : Undumped app before → hooks.policy = .no_policy
  functor_data : Undumped app before → hooks.functor_data = last_replayed before

/-- One more action launches its own label. -/
theorem launches_concat (label : String) (before : List AppAction) (action : AppAction) :
    launches label (before ++ [action]) =
      launches label before + if action.kernel_label = some label then 1 else 0 := by
  simp [launches, List.countP_append, List.countP_singleton]

theorem Undumped.of_concat {before : List AppAction} {action : AppAction}
    (hundumped : Undumped app (before ++ [action])) : Undumped app before := by
  intro invocation hinvocation
  have hlater := hundumped invocation hinvocation
  rw [launches_concat] at hlater
  omega

theorem last_replayed_concat {before : List AppAction} {action : AppAction}
    (hnone : action.replayed = none) : last_replayed (before ++ [action]) = last_replayed before := by
  simp [last_replayed, hnone]

/-- After the launch to dump, the selected launch has been reached. -/
theorem not_undumped_of_selected {before : List AppAction} {action : AppAction} {label : String}
    (hlabel : action.kernel_label = some label)
    (hselected : should_dump_views_for_invocation app.run.selection label (launches label before + 1) = true) :
    ¬ Undumped app (before ++ [action]) := by
  intro hundumped
  obtain ⟨_, hsame, hinvocation⟩ := should_dump_views_for_invocation_iff.mp hselected
  have hlater := hundumped _ hinvocation
  rw [launches_concat, ← hsame, hlabel, if_pos rfl] at hlater
  omega

/-- An action which keeps the functor and the policy, and counts its launch. -/
theorem Reflects.keep {before : List AppAction} {hooks next : CaptureHooks} {action : AppAction}
    (hreflects : Reflects app before hooks) (hkeeps : KeepsCapture app hooks next)
    (hcounts : ∀ label, next.next_invocation label =
      hooks.next_invocation label + if action.kernel_label = some label then 1 else 0)
    (hreplayed : action.replayed = none) : Reflects app (before ++ [action]) next where
  counts := fun label => by
    rw [hcounts, hreflects.counts, launches_concat]
    omega
  tracked := hkeeps.tracked hreflects.tracked
  policy := fun hundumped => hkeeps.policy.trans (hreflects.policy hundumped.of_concat)
  functor_data := fun hundumped => by
    rw [hkeeps.functor_data, hreflects.functor_data hundumped.of_concat, last_replayed_concat hreplayed]

theorem keeps_of_tracker (hooks : CaptureHooks) (event : TrackerEvent) :
    KeepsCapture app hooks { hooks with
      allocation_tracker := event.apply app.run.build hooks.allocation_tracker } :=
  ⟨rfl, rfl, rfl, rfl, fun htracked => htracked.apply event⟩

/-- A launch by `parallel_for` which is predicted to be dumped. -/
def predicted_launch (app : Application) (hooks : CaptureHooks) (label : String) (desc : PolicyDesc)
    (functor : FunctorObject) (device_id : UInt32) : Option KernelDump × CaptureHooks :=
  let hooks := (hooks.krepe_kernel_dump_next_invocation_will_dump app.run (c_str label)).2
  kokkos_launch app (replay_functor app { hooks with policy := desc } functor) (some (c_str label))
    device_id

/-- A prediction selects one of two ways to launch. -/
theorem parallel_for_eq (hooks : CaptureHooks) (label : String) (policy : Policy)
    (functor : FunctorObject) (device_id : UInt32) {desc : PolicyDesc}
    (hdesc : impl.register_bounds app.extract policy = .ok desc) :
    parallel_for app hooks label policy functor device_id =
      if should_dump_views_for_invocation app.run.selection (c_str label)
          (hooks.next_invocation (c_str label)) then
        (⟨some true, (predicted_launch app hooks label desc functor device_id).1⟩,
          (predicted_launch app hooks label desc functor device_id).2)
      else
        let unpredicted := kokkos_launch app
          (hooks.krepe_kernel_dump_next_invocation_will_dump app.run (c_str label)).2
          (some (c_str label)) device_id
        (⟨some false, unpredicted.1⟩, unpredicted.2) := by
  unfold parallel_for
  rw [← will_dump_eq]
  dsimp only
  split
  · rw [hdesc]
    rfl
  · rfl

theorem predicted_launch_counts (hooks : CaptureHooks) (label : String) (desc : PolicyDesc)
    (functor : FunctorObject) (device_id : UInt32) (other : String) :
    (predicted_launch app hooks label desc functor device_id).2.next_invocation other =
      hooks.next_invocation other + if other = c_str label then 1 else 0 := by
  have hpredicted := will_dump_counts app hooks (c_str label) other
  unfold predicted_launch
  dsimp only
  rw [kokkos_launch_counts, (replay_functor_keeps app _ functor).1, ← hpredicted]
  rfl

/-- One action keeps the hooks in step with the actions. -/
theorem Reflects.step {before : List AppAction} {hooks : CaptureHooks}
    (hreflects : Reflects app before hooks) (action : AppAction) :
    Reflects app (before ++ [action]) (action.perform app hooks).2 := by
  cases action with
  | parallel_for label policy functor device_id =>
    obtain ⟨desc, hdesc⟩ := impl.register_bounds_ok app.extract policy
    have hlabel : (AppAction.parallel_for label policy functor device_id).kernel_label =
        some (c_str label) := rfl
    rw [AppAction.perform, parallel_for_eq hooks label policy functor device_id hdesc]
    split
    · next hselected =>
      rw [hreflects.counts] at hselected
      have hdumped := not_undumped_of_selected hlabel hselected
      refine ⟨fun other => ?_, ?_, fun hundumped => absurd hundumped hdumped,
        fun hundumped => absurd hundumped hdumped⟩
      · rw [predicted_launch_counts, hreflects.counts, launches_concat, hlabel]
        simp only [Option.some.injEq, eq_comm]
        omega
      · apply (kokkos_launch_keeps app _ _ device_id).tracked
        obtain ⟨history, hhistory⟩ := hreflects.tracked
        exact ⟨_, replay_functor_tracker app _ functor history hhistory⟩
    · refine hreflects.keep ((will_dump_keeps app hooks (c_str label)).trans
        (kokkos_launch_keeps app _ _ device_id)) (fun other => ?_) rfl
      rw [kokkos_launch_counts, will_dump_counts, hlabel]
      by_cases hother : other = c_str label <;>
        simp [label_or_unknown, eq_comm (a := c_str label), hother]
  | replay_functor functor =>
    obtain ⟨hkernels, hpolicy, _⟩ := replay_functor_keeps app hooks functor
    refine ⟨fun other => ?_, ?_, fun hundumped => ?_, fun hundumped => ?_⟩
    · rw [launches_concat, AppAction.perform, hkernels, hreflects.counts]
      rfl
    · obtain ⟨history, hhistory⟩ := hreflects.tracked
      exact ⟨_, replay_functor_tracker app hooks functor history hhistory⟩
    · rw [AppAction.perform, hpolicy, hreflects.policy hundumped.of_concat]
    · rw [AppAction.perform, (replay_functor_data app hooks functor).1]
      simp [last_replayed, AppAction.replayed]
  | launch label device_id =>
    refine hreflects.keep (kokkos_launch_keeps app hooks label device_id) (fun other => ?_) rfl
    rw [AppAction.perform, kokkos_launch_counts]
    simp only [AppAction.kernel_label, Option.some.injEq, eq_comm]
  | next_invocation_will_dump label =>
    exact hreflects.keep (will_dump_keeps app hooks (c_str label)) (will_dump_counts app hooks (c_str label)) rfl
  | allocate_data queries space label ptr size =>
    exact hreflects.keep (keeps_of_tracker hooks (.allocate_data queries space label ptr size))
      (fun _ => rfl) rfl
  | deallocate_data space label ptr size =>
    exact hreflects.keep (keeps_of_tracker hooks (.deallocate_data space label ptr size))
      (fun _ => rfl) rfl
  | add_metadata key value =>
    refine ⟨fun other => ?_, hreflects.tracked, fun hundumped => hreflects.policy hundumped.of_concat,
      fun hundumped => ?_⟩
    · rw [launches_concat]
      exact hreflects.counts other
    · rw [last_replayed_concat rfl]
      exact hreflects.functor_data hundumped.of_concat

/-- The hooks reflect the actions before them, by induction on these. -/
theorem reflects_hooks_after (tool_fence : Fence) (actions : List AppAction) :
    Reflects app actions (hooks_after app (CaptureHooks.initial tool_fence) actions) := by
  induction actions using List.reverseRecOn with
  | nil => exact ⟨fun _ => rfl, ⟨[], rfl⟩, fun _ => rfl, fun _ => rfl⟩
  | append_singleton before action ih =>
    rw [hooks_after, List.foldl_append]
    exact ih.step action

end krepe
