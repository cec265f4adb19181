import Krepe.Extract.DescribesLaunch

open std kokkos transition

namespace krepe

variable {app : Application}

/-- Hooks which count the same launches, though one of them may hold counts of
    zero where the other holds none. -/
structure SameDecisions (hooks other : CaptureHooks) : Prop where
  counts : ∀ label, other.next_invocation label = hooks.next_invocation label
  rest : other = { hooks with kernel_invocations := other.kernel_invocations }

theorem SameDecisions.refl (hooks : CaptureHooks) : SameDecisions hooks hooks := ⟨fun _ => rfl, rfl⟩

theorem store_dump_path_counts (hooks : KernelHooks) (counts : UnorderedMap String Nat) (id : Nat)
    (result : ViewDumpResult) :
    ({ hooks with kernel_invocations := counts } : KernelHooks).store_dump_path id result =
      { hooks.store_dump_path id result with kernel_invocations := counts } := by
  unfold KernelHooks.store_dump_path
  dsimp only
  cases hooks.kernel_states.lookup id with
  | none => rfl
  | some state => cases result.ok <;> rfl

theorem take_kernel_counts (hooks : KernelHooks) (counts : UnorderedMap String Nat) (id : Nat) :
    ({ hooks with kernel_invocations := counts } : KernelHooks).take_kernel id =
      ((hooks.take_kernel id).1, { (hooks.take_kernel id).2 with kernel_invocations := counts }) := by
  unfold KernelHooks.take_kernel
  dsimp only
  cases hooks.kernel_states.lookup id <;> rfl

/-- Registering a kernel differs in the counts only, if its own count is the same. -/
theorem register_kernel_counts {hooks : KernelHooks} {counts : UnorderedMap String Nat}
    {kernel_label : String}
    (hcounts : ({ hooks with kernel_invocations := counts } : KernelHooks).next_invocation kernel_label =
      hooks.next_invocation kernel_label) (id : Nat) (device_id : UInt32) :
    ({ hooks with kernel_invocations := counts } : KernelHooks).register_kernel id kernel_label device_id =
      { hooks.register_kernel id kernel_label device_id with
        kernel_invocations := counts.insert kernel_label (hooks.next_invocation kernel_label) } := by
  unfold KernelHooks.register_kernel
  rw [hcounts]

section

variable (app) {hooks other : CaptureHooks}

/-- Hooks which decide alike make the same dump at the begin of a kernel, and decide alike after
    it. -/
theorem SameDecisions.begin_kernel (hsame : SameDecisions hooks other) (label : CString)
    (device_id : UInt32) :
    (other.begin_kernel app.run label device_id).1 = (hooks.begin_kernel app.run label device_id).1 ∧
      (other.begin_kernel app.run label device_id).2.1 =
        (hooks.begin_kernel app.run label device_id).2.1 ∧
      SameDecisions (hooks.begin_kernel app.run label device_id).2.2
        (other.begin_kernel app.run label device_id).2.2 := by
  have hcounted : ∀ name, (other.begin_kernel app.run label device_id).2.2.next_invocation name =
      (hooks.begin_kernel app.run label device_id).2.2.next_invocation name := by
    intro name
    rw [begin_kernel_counts, begin_kernel_counts, hsame.counts]
  obtain ⟨hcounts, hrest⟩ := hsame
  generalize other.kernel_invocations = counts at hrest
  subst hrest
  have hlabel := hcounts (label_or_unknown label)
  suffices hbegin : ∃ final, CaptureHooks.begin_kernel app.run { hooks with kernel_invocations := counts }
      label device_id = ((hooks.begin_kernel app.run label device_id).1,
        (hooks.begin_kernel app.run label device_id).2.1,
        { (hooks.begin_kernel app.run label device_id).2.2 with kernel_invocations := final }) by
    obtain ⟨final, hbegin⟩ := hbegin
    rw [hbegin] at hcounted ⊢
    exact ⟨rfl, rfl, hcounted, rfl⟩
  refine ⟨counts.insert (label_or_unknown label) (hooks.next_invocation (label_or_unknown label)), ?_⟩
  have hdump : dump_of_launch app { hooks with kernel_invocations := counts } (label_or_unknown label) =
      dump_of_launch app hooks (label_or_unknown label) := by
    rw [dump_of_launch, hlabel]
    rfl
  have hregister : registered_kernels { hooks with kernel_invocations := counts } label device_id =
      { registered_kernels hooks label device_id with
        kernel_invocations := counts.insert (label_or_unknown label)
          (hooks.next_invocation (label_or_unknown label)) } :=
    @register_kernel_counts hooks.fetch_kernel_id.2 counts _ hlabel hooks.next_kernel_id device_id
  rw [begin_kernel_eq, begin_kernel_eq, hlabel, hdump, hregister, store_dump_path_counts]
  split
  · rfl
  · rfl

/-- Hooks which decide alike do so after the end of a kernel. -/
theorem SameDecisions.end_kernel (hsame : SameDecisions hooks other) (kernel_id : Nat) :
    SameDecisions (hooks.end_kernel app.run kernel_id).2 (other.end_kernel app.run kernel_id).2 := by
  have hcounted : ∀ name, (other.end_kernel app.run kernel_id).2.next_invocation name =
      (hooks.end_kernel app.run kernel_id).2.next_invocation name := by
    intro name
    rw [KernelHooks.next_invocation, KernelHooks.next_invocation, end_kernel_invocations,
      end_kernel_invocations]
    exact hsame.counts name
  refine ⟨hcounted, ?_⟩
  rw [end_kernel_invocations]
  rw [hsame.rest]
  generalize other.kernel_invocations = counts
  unfold CaptureHooks.end_kernel
  dsimp only
  rw [take_kernel_counts]
  dsimp only
  split
  · rfl
  · rfl

/-- Hooks which decide alike make the same dump of a launch, and decide alike after it. -/
theorem SameDecisions.kokkos_launch (hsame : SameDecisions hooks other) (label : CString)
    (device_id : UInt32) :
    (kokkos_launch app other label device_id).1 = (kokkos_launch app hooks label device_id).1 ∧
      SameDecisions (kokkos_launch app hooks label device_id).2
        (kokkos_launch app other label device_id).2 := by
  obtain ⟨hid, hdump, hbegun⟩ := hsame.begin_kernel app label device_id
  unfold krepe.kokkos_launch
  dsimp only
  rw [hid]
  exact ⟨hdump, hbegun.end_kernel app _⟩

/-- A prediction changes no count. -/
theorem SameDecisions.will_dump (hsame : SameDecisions hooks other) (kernel_name : String) :
    SameDecisions hooks
      (other.krepe_kernel_dump_next_invocation_will_dump app.run kernel_name).2 := by
  refine ⟨fun label => (will_dump_counts app other kernel_name label).trans (hsame.counts label), ?_⟩
  exact congrArg (fun start : CaptureHooks => { start with
    kernel_invocations := (UnorderedMap.index other.kernel_invocations kernel_name 0).2 }) hsame.rest

theorem SameDecisions.symm (hsame : SameDecisions hooks other) : SameDecisions other hooks := by
  refine ⟨fun label => (hsame.counts label).symm, ?_⟩
  exact (congrArg (fun start : CaptureHooks => { start with
    kernel_invocations := hooks.kernel_invocations }) hsame.rest).symm

/-- Hooks which decide alike do so after they are asked about the next launch. -/
theorem SameDecisions.will_dump_both (hsame : SameDecisions hooks other) (kernel_name : String) :
    SameDecisions (hooks.krepe_kernel_dump_next_invocation_will_dump app.run kernel_name).2
      (other.krepe_kernel_dump_next_invocation_will_dump app.run kernel_name).2 :=
  ((hsame.will_dump app kernel_name).symm.will_dump app kernel_name).symm

/-- Hooks which decide alike predict alike. -/
theorem SameDecisions.predicts (hsame : SameDecisions hooks other) (kernel_name : String) :
    (other.krepe_kernel_dump_next_invocation_will_dump app.run kernel_name).1 =
      (hooks.krepe_kernel_dump_next_invocation_will_dump app.run kernel_name).1 := by
  rw [will_dump_eq, will_dump_eq, hsame.counts]

theorem register_functor_views_counts (counts : UnorderedMap String Nat) (functor : FunctorObject) :
    register_functor_views { hooks with kernel_invocations := counts } functor =
      { register_functor_views hooks functor with kernel_invocations := counts } := by
  have hviews : ∀ (views : List (Pointer × String)) (start : CaptureHooks),
      views.foldl (fun hooks view => hooks.krepe_kernel_dump_register_view view.1 view.2)
        { start with kernel_invocations := counts } =
      { views.foldl (fun hooks view => hooks.krepe_kernel_dump_register_view view.1 view.2) start with
        kernel_invocations := counts } := by
    intro views
    induction views with
    | nil => exact fun _ => rfl
    | cons view rest ih => exact fun start => ih (start.krepe_kernel_dump_register_view view.1 view.2)
  exact hviews functor.views hooks.krepe_kernel_dump_clear_registered_views

theorem replay_functor_counts (counts : UnorderedMap String Nat) (functor : FunctorObject) :
    replay_functor app { hooks with kernel_invocations := counts } functor =
      { replay_functor app hooks functor with kernel_invocations := counts } := by
  unfold replay_functor
  rw [register_functor_views_counts]
  cases app.run.build.compiler_plugins <;> cases functor.inner_lambda <;> rfl

/-- Hooks which decide alike do so after a functor is replayed. -/
theorem SameDecisions.replay_functor (hsame : SameDecisions hooks other) (functor : FunctorObject) :
    SameDecisions (replay_functor app hooks functor) (replay_functor app other functor) := by
  have hkernels := (replay_functor_keeps app hooks functor).1
  have hotherKernels := (replay_functor_keeps app other functor).1
  refine ⟨fun label => ?_, ?_⟩
  · rw [hkernels, hotherKernels]
    exact hsame.counts label
  · rw [hotherKernels, ← replay_functor_counts, ← hsame.rest]

theorem SameDecisions.with_policy (hsame : SameDecisions hooks other) (desc : PolicyDesc) :
    SameDecisions { hooks with policy := desc } { other with policy := desc } :=
  ⟨hsame.counts, congrArg (fun start : CaptureHooks => { start with policy := desc }) hsame.rest⟩

/-- Hooks which decide alike answer a `parallel_for` alike, and decide alike after it. -/
theorem SameDecisions.parallel_for (hsame : SameDecisions hooks other) (label : String)
    (policy : Policy) (functor : FunctorObject) (device_id : UInt32) :
    (parallel_for app other label policy functor device_id).1 =
        (parallel_for app hooks label policy functor device_id).1 ∧
      SameDecisions (parallel_for app hooks label policy functor device_id).2
        (parallel_for app other label policy functor device_id).2 := by
  have hpredicted := hsame.predicts app (c_str label)
  have hasked := hsame.will_dump_both app (c_str label)
  unfold krepe.parallel_for
  dsimp only
  rw [hpredicted]
  split
  · cases impl.register_bounds app.extract policy with
    | error failure => exact ⟨rfl, hasked⟩
    | ok desc =>
      obtain ⟨hdump, hlaunched⟩ := ((hasked.with_policy desc).replay_functor app functor).kokkos_launch app
        (some (c_str label)) device_id
      exact ⟨congrArg (Call.mk (some true)) hdump, hlaunched⟩
  · obtain ⟨hdump, hlaunched⟩ := hasked.kokkos_launch app (some (c_str label)) device_id
    exact ⟨congrArg (Call.mk (some false)) hdump, hlaunched⟩

theorem SameDecisions.with_tracker (hsame : SameDecisions hooks other) (event : TrackerEvent) :
    SameDecisions
      { hooks with allocation_tracker := event.apply app.run.build hooks.allocation_tracker }
      { other with allocation_tracker := event.apply app.run.build other.allocation_tracker } :=
  ⟨hsame.counts, congrArg (fun start : CaptureHooks => { start with
    allocation_tracker := event.apply app.run.build start.allocation_tracker }) hsame.rest⟩

/-- Every action shows the same, and keeps the decisions the same. -/
theorem SameDecisions.perform (hsame : SameDecisions hooks other) (action : AppAction) :
    (action.perform app other).1 = (action.perform app hooks).1 ∧
      SameDecisions (action.perform app hooks).2 (action.perform app other).2 := by
  cases action with
  | parallel_for label policy functor device_id =>
    exact hsame.parallel_for app label policy functor device_id
  | replay_functor functor => exact ⟨rfl, hsame.replay_functor app functor⟩
  | launch label device_id =>
    obtain ⟨hdump, hlaunched⟩ := hsame.kokkos_launch app label device_id
    exact ⟨congrArg (Call.mk none) hdump, hlaunched⟩
  | next_invocation_will_dump label =>
    exact ⟨congrArg (fun answer => Call.mk (some answer) none) (hsame.predicts app (c_str label)),
      hsame.will_dump_both app (c_str label)⟩
  | allocate_data queries space label ptr size =>
    exact ⟨rfl, hsame.with_tracker app (.allocate_data queries space label ptr size)⟩
  | deallocate_data space label ptr size =>
    exact ⟨rfl, hsame.with_tracker app (.deallocate_data space label ptr size)⟩
  | add_metadata key value =>
    exact ⟨rfl, hsame.counts, congrArg (fun start : CaptureHooks =>
      start.krepe_kernel_dump_add_metadata (c_str key) value) hsame.rest⟩

end

/-- The action only asks whether the next launch would be dumped. -/
def AppAction.is_prediction : AppAction → Bool
  | .next_invocation_will_dump _ => true
  | _ => false

/-- Without its predictions, a sequence of actions shows the same. -/
theorem SameDecisions.calls_filter {hooks other : CaptureHooks} (hsame : SameDecisions hooks other)
    (actions : List AppAction) :
    (calls app other actions).filter (fun performed => !performed.1.is_prediction) =
      calls app hooks (actions.filter fun action => !action.is_prediction) := by
  induction actions generalizing hooks other with
  | nil => rfl
  | cons action rest ih =>
    cases hprediction : action.is_prediction with
    | true =>
      cases action with
      | next_invocation_will_dump label =>
        rw [calls, List.filter_cons_of_neg (by simp [hprediction]),
          List.filter_cons_of_neg (by simp [hprediction])]
        exact ih (hsame.will_dump app (c_str label))
      | _ => cases hprediction
    | false =>
      obtain ⟨hcall, hnext⟩ := hsame.perform app action
      rw [calls, List.filter_cons_of_pos (by simp [hprediction]),
        List.filter_cons_of_pos (by simp [hprediction]), calls, hcall, ih hnext]

/-- For every application and every sequence of its actions. A launch is dumped exactly if it is
    the selected invocation of the selected label, and the dump says so; a `parallel_for` of the
    extractor knows this beforehand, and its dump describes the policy, the functor and the
    views it was called with; a launch without the extractor has no policy and the functor that
    was replayed last. Asking about the next launch changes nothing but its own answers. -/
theorem dump_describes_launch (app : Application) (tool_fence : Fence) (actions : List AppAction) :
    Throughout (DescribesLaunch app) (calls app (CaptureHooks.initial tool_fence) actions) ∧
      (calls app (CaptureHooks.initial tool_fence) actions).filter
          (fun performed => !performed.1.is_prediction) =
        calls app (CaptureHooks.initial tool_fence)
          (actions.filter fun action => !action.is_prediction) :=
  ⟨throughout_describes tool_fence actions, (SameDecisions.refl _).calls_filter actions⟩

end krepe
