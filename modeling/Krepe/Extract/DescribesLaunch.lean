import Mathlib.Data.List.Induction
import Krepe.Extract.DescribesPolicy
import Krepe.Extract.DumpContents
import Krepe.Transition.Run

open std kokkos transition

namespace krepe

variable {app : Application}

/-- A dump holds what a `parallel_for` was called with: the bytes of its functor,
    those of the inner lambda of an extended one (none otherwise), a descriptor of
    its policy, and with compiler plugins only allocations which a view of its
    functor points into. -/
structure HoldsCall (app : Application) (policy : Policy) (functor : FunctorObject) (dump : KernelDump) :
    Prop where
  functor_data : dump.functor_data = functor.bytes
  nvcc_inner_lambda_data : dump.nvcc_inner_lambda_data = functor.inner_lambda.getD []
  policy : DescribesPolicy app.extract policy dump.policy
  views : app.run.build.compiler_plugins = true → ∀ allocation ∈ dump.input_snapshot.allocations,
    ∃ data, (data, allocation.record.space) ∈ functor.views ∧ allocation.record.p_data ≤ data ∧
      data ≤ allocation.record.p_data + allocation.record.size

/-- What holds of an action and its answer after the actions before it: a launch is dumped
    exactly if it is the selected invocation of the selected label, and its dump is named so; a
    `parallel_for` predicts whether it is dumped, and its dump holds what it was called with;
    the dump of any other launch has no policy and the functor which was replayed last. -/
structure DescribesLaunch (app : Application) (before : List (AppAction × Call))
    (performed : AppAction × Call) : Prop where
  dumped : performed.2.dump.isSome = true ↔
    app.run.selection.dump_kernel_label ≠ "" ∧
      performed.1.kernel_label = some app.run.selection.dump_kernel_label ∧
      app.run.selection.dump_kernel_invocation =
        some (launches app.run.selection.dump_kernel_label (before.map Prod.fst) + 1)
  named : ∀ dump, performed.2.dump = some dump →
    dump.label = app.run.selection.dump_kernel_label ∧
      app.run.selection.dump_kernel_invocation = some dump.kernel_invocation
  predicted : ∀ label policy functor device_id,
    performed.1 = .parallel_for label policy functor device_id →
      performed.2.predicted = some performed.2.dump.isSome
  replayed : ∀ label policy functor device_id dump,
    performed.1 = .parallel_for label policy functor device_id → performed.2.dump = some dump →
      HoldsCall app policy functor dump
  plain : ∀ label device_id dump, performed.1 = .launch label device_id →
    performed.2.dump = some dump →
      dump.policy = .no_policy ∧ dump.functor_data = last_replayed (before.map Prod.fst)

section

variable {before : List AppAction} {hooks : CaptureHooks}

/-- The launch of an action is dumped when it is the selected one. -/
theorem selected_iff (hreflects : Reflects app before hooks) (label : String) :
    should_dump_views_for_invocation app.run.selection label (hooks.next_invocation label) = true ↔
      app.run.selection.dump_kernel_label ≠ "" ∧ label = app.run.selection.dump_kernel_label ∧
        app.run.selection.dump_kernel_invocation =
          some (launches app.run.selection.dump_kernel_label before + 1) := by
  rw [should_dump_views_for_invocation_iff, hreflects.counts]
  refine and_congr_right fun _ => and_congr_right fun hsame => ?_
  rw [hsame]

/-- Before the selected launch, the launch itself is undumped. -/
theorem undumped_of_selected {label : String}
    (hreflects : Reflects app before hooks)
    (hselected : should_dump_views_for_invocation app.run.selection label
      (hooks.next_invocation label) = true) : Undumped app before := by
  intro invocation hinvocation
  obtain ⟨_, _, hcount⟩ := (selected_iff hreflects label).mp hselected
  rw [hinvocation, Option.some.injEq] at hcount
  omega

/-- The dump of a selected launch is named after the selected label and invocation. -/
theorem named_of_selected {label : String}
    (hselected : should_dump_views_for_invocation app.run.selection label
      (hooks.next_invocation label) = true) :
    (dump_of_launch app hooks label).label = app.run.selection.dump_kernel_label ∧
      app.run.selection.dump_kernel_invocation =
        some (dump_of_launch app hooks label).kernel_invocation :=
  (should_dump_views_for_invocation_iff.mp hselected).2

/-- The dump of a predicted launch holds the call which predicted it. -/
theorem predicted_launch_holds (hreflects : Reflects app before hooks) {label : String}
    {policy : Policy} {functor : FunctorObject} {device_id : UInt32} {desc : PolicyDesc}
    {dump : KernelDump} (hdesc : impl.register_bounds app.extract policy = .ok desc)
    (hdump : (predicted_launch app hooks label desc functor device_id).1 = some dump) :
    HoldsCall app policy functor dump := by
  unfold predicted_launch at hdump
  dsimp only at hdump
  rw [kokkos_launch_dump, Option.ite_none_right_eq_some, Option.some.injEq] at hdump
  obtain ⟨_, rfl⟩ := hdump
  generalize hstart : ({ (hooks.krepe_kernel_dump_next_invocation_will_dump app.run (c_str label)).2 with
    policy := desc } : CaptureHooks) = start
  have hpolicy : start.policy = desc := by rw [← hstart]
  obtain ⟨history, hhistory⟩ := hreflects.tracked
  have htracker := replay_functor_tracker app start functor history (by rw [← hstart]; exact hhistory)
  refine ⟨(replay_functor_data app start functor).1, (replay_functor_data app start functor).2, ?_,
    fun hplugins allocation hallocation => ?_⟩
  · rw [dump_of_launch, (replay_functor_keeps app start functor).2.1, hpolicy]
    exact impl.register_bounds_describes hdesc
  · rw [hplugins, if_pos rfl] at htracker
    rw [dump_of_launch, htracker] at hallocation
    obtain ⟨_, hused⟩ := mem_snapshot_after.mp hallocation
    obtain ⟨data, hregistered, hlow, hhigh⟩ := hused hplugins
    exact ⟨data, registered_register_events hregistered, hlow, hhigh⟩

/-- A selected launch of the extractor has a dump of its policy and functor. -/
theorem predicted_launch_dump {label : String} {desc : PolicyDesc} {functor : FunctorObject}
    {device_id : UInt32}
    (hselected : should_dump_views_for_invocation app.run.selection (c_str label)
      (hooks.next_invocation (c_str label)) = true) :
    ∃ dump, (predicted_launch app hooks label desc functor device_id).1 = some dump ∧
      dump.label = app.run.selection.dump_kernel_label ∧
      app.run.selection.dump_kernel_invocation = some dump.kernel_invocation := by
  unfold predicted_launch
  dsimp only
  have hcount : ∀ start : CaptureHooks,
      start = { (hooks.krepe_kernel_dump_next_invocation_will_dump app.run (c_str label)).2 with
        policy := desc } →
      (replay_functor app start functor).next_invocation (c_str label) =
        hooks.next_invocation (c_str label) := by
    intro start hstart
    rw [(replay_functor_keeps app start functor).1, ← will_dump_counts app hooks (c_str label), hstart]
  have hstart := hcount _ rfl
  rw [← hstart] at hselected
  rw [kokkos_launch_dump, label_or_unknown, Option.getD_some, if_pos hselected]
  exact ⟨_, rfl, named_of_selected hselected⟩

/-- The launch of an action is dumped when its hook decides so. -/
theorem Reflects.dumped_iff {history : List (AppAction × Call)}
    (hreflects : Reflects app (history.map Prod.fst) hooks) {action : AppAction} {call : Call}
    {label : String} (hlabel : action.kernel_label = some label)
    (hdump : call.dump.isSome = should_dump_views_for_invocation app.run.selection label
      (hooks.next_invocation label)) :
    call.dump.isSome = true ↔ app.run.selection.dump_kernel_label ≠ "" ∧
      action.kernel_label = some app.run.selection.dump_kernel_label ∧
      app.run.selection.dump_kernel_invocation =
        some (launches app.run.selection.dump_kernel_label (history.map Prod.fst) + 1) := by
  rw [hdump, selected_iff hreflects label, hlabel, Option.some.injEq]

/-- An action without a launch shows no dump. -/
theorem describes_silent (history : List (AppAction × Call)) {action : AppAction} {call : Call}
    (hdump : call.dump = none) (hlabel : action.kernel_label = none) :
    DescribesLaunch app history (action, call) := by
  refine ⟨?_, fun dump hsome => ?_, fun _ _ _ _ heq => ?_, fun _ _ _ _ dump _ hsome => ?_,
    fun _ _ dump _ hsome => ?_⟩
  · simp [hdump, hlabel]
  · rw [hdump] at hsome
    cases hsome
  · dsimp only at heq
    rw [heq] at hlabel
    cases hlabel
  · rw [hdump] at hsome
    cases hsome
  · rw [hdump] at hsome
    cases hsome

/-- A `parallel_for` of the extractor is described by its dump, after any history which the
    hooks reflect. -/
theorem Reflects.describes_parallel_for {history : List (AppAction × Call)}
    (hreflects : Reflects app (history.map Prod.fst) hooks) (label : String) (policy : Policy)
    (functor : FunctorObject) (device_id : UInt32) :
    DescribesLaunch app history (.parallel_for label policy functor device_id,
      (parallel_for app hooks label policy functor device_id).1) := by
  obtain ⟨desc, hdesc⟩ := impl.register_bounds_ok app.extract policy
  rw [parallel_for_eq hooks label policy functor device_id hdesc]
  by_cases hselected : should_dump_views_for_invocation app.run.selection (c_str label)
      (hooks.next_invocation (c_str label)) = true
  · rw [if_pos hselected]
    obtain ⟨dump, hdump, hnamed⟩ := @predicted_launch_dump app hooks label desc functor device_id hselected
    refine ⟨hreflects.dumped_iff rfl ?_, fun other hother => ?_, fun _ _ _ _ _ => ?_,
      fun _ _ _ _ other heq hother => ?_, fun _ _ _ heq => (by cases heq)⟩
    · rw [hselected, hdump]
      rfl
    · dsimp only at hother
      rw [hdump] at hother
      cases hother
      exact hnamed
    · dsimp only
      rw [hdump]
      rfl
    · cases heq
      exact predicted_launch_holds hreflects hdesc hother
  · rw [if_neg hselected]
    have hnone : (kokkos_launch app
        (hooks.krepe_kernel_dump_next_invocation_will_dump app.run (c_str label)).2
        (some (c_str label)) device_id).1 = none := by
      rw [kokkos_launch_dump, will_dump_counts, label_or_unknown, Option.getD_some, if_neg hselected]
    dsimp only
    rw [hnone]
    refine ⟨hreflects.dumped_iff rfl ?_, fun _ hother => (by cases hother), fun _ _ _ _ _ => rfl,
      fun _ _ _ _ _ _ hother => (by cases hother), fun _ _ _ heq => (by cases heq)⟩
    rw [Bool.eq_false_iff.mpr hselected]
    rfl

/-- A launch without the extractor is described by its dump, after any history which the hooks
    reflect. -/
theorem Reflects.describes_launch {history : List (AppAction × Call)}
    (hreflects : Reflects app (history.map Prod.fst) hooks) (label : CString) (device_id : UInt32) :
    DescribesLaunch app history (.launch label device_id,
      ⟨none, (kokkos_launch app hooks label device_id).1⟩) := by
  rw [kokkos_launch_dump]
  by_cases hselected : should_dump_views_for_invocation app.run.selection (label_or_unknown label)
      (hooks.next_invocation (label_or_unknown label)) = true
  · rw [if_pos hselected]
    have hundumped := undumped_of_selected hreflects hselected
    refine ⟨hreflects.dumped_iff rfl hselected.symm, fun dump hdump => ?_, fun _ _ _ _ heq => (by cases heq),
      fun _ _ _ _ _ heq => (by cases heq), fun _ _ dump _ hdump => ?_⟩
    · cases hdump
      exact named_of_selected hselected
    · cases hdump
      exact ⟨hreflects.policy hundumped, hreflects.functor_data hundumped⟩
  · rw [if_neg hselected]
    exact ⟨hreflects.dumped_iff rfl (Bool.eq_false_iff.mpr hselected).symm,
      fun _ hdump => (by cases hdump), fun _ _ _ _ heq => (by cases heq),
      fun _ _ _ _ _ heq => (by cases heq), fun _ _ _ _ hdump => (by cases hdump)⟩

/-- Every action shows what it does itself. -/
theorem Reflects.describes {history : List (AppAction × Call)}
    (hreflects : Reflects app (history.map Prod.fst) hooks) (action : AppAction) :
    DescribesLaunch app history (action, (action.perform app hooks).1) := by
  cases action with
  | parallel_for label policy functor device_id =>
    exact hreflects.describes_parallel_for label policy functor device_id
  | launch label device_id => exact hreflects.describes_launch label device_id
  | _ => exact describes_silent history rfl rfl

end

/-- The calls of one more action are those before it and its own, made of the hooks after them. -/
theorem calls_concat (hooks : CaptureHooks) (before : List AppAction) (action : AppAction) :
    calls app hooks (before ++ [action]) =
      calls app hooks before ++ [(action, (action.perform app (hooks_after app hooks before)).1)] := by
  induction before generalizing hooks with
  | nil => rfl
  | cons first before ih => exact congrArg (List.cons _) (ih _)

theorem calls_map_fst (hooks : CaptureHooks) (actions : List AppAction) :
    (calls app hooks actions).map Prod.fst = actions := by
  induction actions generalizing hooks with
  | nil => rfl
  | cons action rest ih => exact congrArg (List.cons _) (ih _)

/-- Every action of a sequence is described, by induction on the sequence. -/
theorem throughout_describes (tool_fence : Fence) (actions : List AppAction) :
    Throughout (DescribesLaunch app) (calls app (CaptureHooks.initial tool_fence) actions) := by
  induction actions using List.reverseRecOn with
  | nil => exact throughout_nil
  | append_singleton before action ih =>
    rw [calls_concat, throughout_concat]
    refine ⟨ih, Reflects.describes ?_ action⟩
    rw [calls_map_fst]
    exact reflects_hooks_after tool_fence before

end krepe
