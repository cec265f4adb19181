import Krepe.Capture.Host
import Krepe.Extract.ToolBinding
import Krepe.Outcome.Ends

open std kokkos

namespace krepe

variable {app : LinkedApplication} {process : Process}

/-- The symbols of the hooks are found in the tool only. -/
def Exports (app : LinkedApplication) (linker : Linker) : Prop :=
  ∀ hook : Hook, ∀ address, linker hook.symbol = some address →
    address = app.address hook ∧ address ≠ 0

/-- All the hooks can be found. -/
def Complete (app : LinkedApplication) (linker : Linker) : Prop :=
  app.enable_libdl = true ∧ ∀ hook : Hook, (linker hook.symbol).isSome = true

namespace Process

/-- The extractor calls the hooks of the tool. -/
structure Bound (app : LinkedApplication) (process : Process) : Prop where
  tool : process.has_kernel_dump_tool = some true
  functions : ∀ hook, process.functions hook = .at (app.address hook)

/-- The extractor calls lambdas which do nothing. -/
structure Unbound (process : Process) : Prop where
  tool : process.has_kernel_dump_tool = some false
  functions : ∀ hook, process.functions hook = .lambda

/-- A hook which the linker finds is bound to its address. -/
theorem load_function_found {hook : Hook} {address : Pointer} (hclear : process.dl_error = false)
    (hfound : process.linker hook.symbol = some address) (hnonnull : address ≠ 0) :
    process.load_function_from_tool hook =
      (true, { process with functions := Function.update process.functions hook (.at address) }) := by
  obtain ⟨hooks, functions, tool, linker, dl_error⟩ := process
  dsimp only at hclear hfound
  subst hclear
  simp [load_function_from_tool, dlsym, dlerror, hfound, hnonnull]

/-- A hook which the linker does not find is not bound, and its error is fetched. -/
theorem load_function_missing {hook : Hook} (hmissing : process.linker hook.symbol = none) :
    process.load_function_from_tool hook = (false, { process with dl_error := false }) := by
  simp [load_function_from_tool, dlsym, dlerror, hmissing]

/-- The lookups find the hooks of a list, or stop at one which is missing. -/
structure LookedUp (app : LinkedApplication) (process : Process) (hooks : List Hook)
    (result : Bool × Process) : Prop where
  keeps_hooks : result.2.hooks = process.hooks
  found : result.1 = true ↔ ∀ hook ∈ hooks, (process.linker hook.symbol).isSome = true
  functions : result.1 = true → ∀ hook, result.2.functions hook =
    if hook ∈ hooks then .at (app.address hook) else process.functions hook

/-- The hooks are bound in their order, up to the first which is missing. -/
theorem load_functions_looked_up (hexports : Exports app process.linker)
    (hclear : process.dl_error = false) (hooks : List Hook) :
    LookedUp app process hooks (process.load_functions_from_tool hooks) := by
  induction hooks generalizing process with
  | nil => exact ⟨rfl, by simp [load_functions_from_tool], fun _ hook => by simp [load_functions_from_tool]⟩
  | cons first rest ih =>
    rw [load_functions_from_tool]
    cases hfirst : process.linker first.symbol with
    | none =>
      rw [load_function_missing hfirst]
      refine ⟨rfl, ?_, fun hloaded => absurd hloaded (by simp)⟩
      simp [hfirst]
    | some address =>
      obtain ⟨haddress, hnonnull⟩ := hexports first address hfirst
      rw [load_function_found hclear hfirst hnonnull, haddress]
      dsimp only
      rw [if_pos rfl]
      have hrest := @ih { process with
        functions := Function.update process.functions first (.at (app.address first)) } hexports hclear
      refine ⟨hrest.keeps_hooks, ?_, fun hloaded hook => ?_⟩
      · rw [hrest.found, List.forall_mem_cons, hfirst]
        simp
      · rw [hrest.functions hloaded hook]
        by_cases hsame : hook = first
        · subst hsame
          simp
        · simp [hsame]

/-- The tool is found if the linker has all hooks, and their pointers are set then. -/
theorem init_from_tool_looked_up (hexports : Exports app process.linker) :
    (process.init_internal_functions_from_tool app).2.hooks = process.hooks ∧
      ((process.init_internal_functions_from_tool app).1 = true ↔ Complete app process.linker) ∧
      ((process.init_internal_functions_from_tool app).1 = true →
        ∀ hook, (process.init_internal_functions_from_tool app).2.functions hook = .at (app.address hook)) := by
  unfold init_internal_functions_from_tool
  by_cases hlibdl : app.enable_libdl = true
  · rw [if_pos hlibdl]
    -- An error from before the lookups is cleared.
    have hlooked := @load_functions_looked_up app { process with dl_error := false } hexports rfl Hook.all
    refine ⟨hlooked.keeps_hooks, ?_, fun hloaded hook => ?_⟩
    · rw [Complete, iff_true_intro hlibdl, true_and]
      exact hlooked.found.trans ⟨fun hall hook => hall hook hook.mem_all, fun hall hook _ => hall hook⟩
    · exact (hlooked.functions hloaded hook).trans (if_pos hook.mem_all)
  · rw [if_neg hlibdl]
    exact ⟨rfl, by simp [Complete, hlibdl], by simp⟩

/-- The first call decides which functions the extractor calls. -/
theorem init_decides (hexports : Exports app process.linker) (hfresh : process.has_kernel_dump_tool = none) :
    (process.init_internal_functions app).hooks = process.hooks ∧
      (Complete app process.linker → Bound app (process.init_internal_functions app)) ∧
      (¬ Complete app process.linker → Unbound (process.init_internal_functions app)) := by
  obtain ⟨hhooks, hfound, hfunctions⟩ := init_from_tool_looked_up hexports
  unfold init_internal_functions
  rw [hfresh, Option.isSome_none, if_neg Bool.false_ne_true]
  dsimp only
  by_cases hloaded : (process.init_internal_functions_from_tool app).1 = true
  · rw [if_pos hloaded]
    exact ⟨hhooks, fun _ => ⟨rfl, hfunctions hloaded⟩, fun hincomplete => absurd (hfound.mp hloaded) hincomplete⟩
  · rw [if_neg hloaded]
    exact ⟨hhooks, fun hcomplete => absurd (hfound.mpr hcomplete) hloaded, fun _ => ⟨rfl, fun _ => rfl⟩⟩

theorem init_of_settled (hsettled : process.has_kernel_dump_tool.isSome = true) :
    process.init_internal_functions app = process := if_pos hsettled

/-- The second call of the initialization changes nothing. -/
theorem init_init : (process.init_internal_functions app).init_internal_functions app =
    process.init_internal_functions app := by
  apply init_of_settled
  unfold init_internal_functions
  dsimp only
  split
  · assumption
  · split <;> rfl

variable {α : Type} (hook : Hook) (otherwise : α) (apply : CaptureHooks → α × CaptureHooks)

theorem call_init :
    (process.init_internal_functions app).call app hook otherwise apply =
      process.call app hook otherwise apply := by
  unfold call
  rw [init_init]

/-- A bound hook reaches the tool. -/
theorem call_bound (hbound : Bound app process) :
    process.call app hook otherwise apply =
      .ok ((apply process.hooks).1, { process with hooks := (apply process.hooks).2 }) := by
  have hsettled := @init_of_settled app process (by rw [hbound.tool]; rfl)
  simp only [call, hsettled, hbound.functions, if_pos]
  rfl

/-- An unbound hook does nothing and answers with its default. -/
theorem call_unbound (hunbound : Unbound process) :
    process.call app hook otherwise apply = .ok (otherwise, process) := by
  have hsettled := @init_of_settled app process (by rw [hunbound.tool]; rfl)
  simp only [call, hsettled, hunbound.functions]
  rfl

theorem call_void_bound (hbound : Bound app process) (apply : CaptureHooks → CaptureHooks) :
    process.call_void app hook apply = .ok { process with hooks := apply process.hooks } := by
  rw [call_void, call_bound _ _ _ hbound]
  rfl

theorem call_void_unbound (hunbound : Unbound process) (apply : CaptureHooks → CaptureHooks) :
    process.call_void app hook apply = .ok process := by
  rw [call_void, call_unbound _ _ _ hunbound]
  rfl

theorem Bound.with_hooks (hbound : Bound app process) (hooks : CaptureHooks) :
    Bound app { process with hooks := hooks } := ⟨hbound.tool, hbound.functions⟩

theorem Unbound.with_hooks (hunbound : Unbound process) (hooks : CaptureHooks) :
    Unbound { process with hooks := hooks } := ⟨hunbound.tool, hunbound.functions⟩

/-- What the views of a functor add, in the order in which they are registered. -/
theorem register_views_bound (hbound : Bound app process) (views : List (Pointer × String)) :
    views.foldlM (fun process view => register_view app process view.1 view.2) process =
      .ok { process with
        hooks := views.foldl (fun hooks view => hooks.krepe_kernel_dump_register_view view.1 view.2)
          process.hooks } := by
  induction views generalizing process with
  | nil => rfl
  | cons view views ih =>
    rw [List.foldlM_cons, register_view, call_void_bound _ hbound]
    exact ih (hbound.with_hooks _)

theorem register_views_unbound (hunbound : Unbound process) (views : List (Pointer × String)) :
    views.foldlM (fun process view => register_view app process view.1 view.2) process = .ok process := by
  induction views with
  | nil => rfl
  | cons view views ih =>
    rw [List.foldlM_cons, register_view, call_void_unbound _ hunbound]
    exact ih

/-- Bound, the bytes of the functor reach the tool. -/
theorem copy_functor_object_bound (hbound : Bound app process) (functor : FunctorObject) :
    process.copy_functor_object app functor =
      .ok { process with hooks := match functor.inner_lambda with
        | some inner_lambda => process.hooks.krepe_kernel_dump_copy_nvcc_lambda functor.bytes inner_lambda
        | none => process.hooks.krepe_kernel_dump_copy_functor functor.bytes } := by
  unfold copy_functor_object
  cases functor.inner_lambda with
  | none => exact call_void_bound _ hbound _
  | some inner_lambda => exact call_void_bound _ hbound _

theorem copy_functor_object_unbound (hunbound : Unbound process) (functor : FunctorObject) :
    process.copy_functor_object app functor = .ok process := by
  unfold copy_functor_object
  cases functor.inner_lambda with
  | none => exact call_void_unbound _ hunbound _
  | some inner_lambda => exact call_void_unbound _ hunbound _

/-- Bound, a replay of the functor is that of the model without pointers. -/
theorem replay_functor_bound (hbound : Bound app process) (functor : FunctorObject) :
    process.replay_functor app functor =
      .ok { process with hooks := krepe.replay_functor app.toApplication process.hooks functor } := by
  unfold Process.replay_functor krepe.replay_functor
  by_cases hplugins : app.run.build.compiler_plugins = true
  · rw [if_pos hplugins, if_pos hplugins, Process.register_functor_views, clear_registered_views,
      call_void_bound _ hbound]
    have hviews := register_views_bound (hbound.with_hooks
      process.hooks.krepe_kernel_dump_clear_registered_views) functor.views
    exact (congrArg (· >>= _) hviews).trans (copy_functor_object_bound (hbound.with_hooks _) functor)
  · rw [if_neg hplugins, if_neg hplugins]
    exact copy_functor_object_bound hbound functor

/-- Unbound, a replay of the functor does nothing. -/
theorem replay_functor_unbound (hunbound : Unbound process) (functor : FunctorObject) :
    process.replay_functor app functor = .ok process := by
  unfold Process.replay_functor
  by_cases hplugins : app.run.build.compiler_plugins = true
  · rw [if_pos hplugins, Process.register_functor_views, clear_registered_views,
      call_void_unbound _ hunbound]
    exact (congrArg (· >>= _) (register_views_unbound hunbound functor.views)).trans
      (copy_functor_object_unbound hunbound functor)
  · rw [if_neg hplugins]
    exact copy_functor_object_unbound hunbound functor

/-- Bound, each action is that of the model without pointers. -/
theorem perform_bound (hbound : Bound app process) (action : AppAction) :
    process.perform app action =
      .ok ((action.perform app.toApplication process.hooks).1,
        { process with hooks := (action.perform app.toApplication process.hooks).2 }) := by
  cases action with
  | parallel_for label policy functor device_id =>
    rw [perform, Process.parallel_for, AppAction.perform, krepe.parallel_for, next_invocation_will_dump,
      call_bound _ _ _ hbound]
    generalize process.hooks.krepe_kernel_dump_next_invocation_will_dump app.run (c_str label) = answer
    obtain ⟨will_dump, hooks⟩ := answer
    cases will_dump with
    | false => rfl
    | true =>
      simp only [bind, Except.bind, if_pos]
      cases impl.register_bounds app.extract policy with
      | error _ => rfl
      | ok desc =>
        have hpolicy := call_void_bound (register_hook policy) (hbound.with_hooks hooks)
          ({ · with policy := desc })
        have hfunctor := replay_functor_bound ((hbound.with_hooks hooks).with_hooks
          { hooks with policy := desc }) functor
        simp only [register_policy, hpolicy, hfunctor]
        rfl
  | replay_functor functor =>
    rw [perform, replay_functor_bound hbound]
    rfl
  | next_invocation_will_dump label =>
    rw [perform, next_invocation_will_dump, call_bound _ _ _ hbound]
    rfl
  | add_metadata key value =>
    rw [perform, add_metadata, call_void_bound _ hbound]
    rfl
  | launch label device_id => rfl
  | allocate_data queries space label ptr size => rfl
  | deallocate_data space label ptr size => rfl

end Process

/-- What is left of an action when the functions of the extractor do nothing. -/
def AppAction.unassisted : AppAction → Option AppAction
  | .parallel_for label _ _ device_id => some (.launch (some (c_str label)) device_id)
  | .replay_functor _ => none
  | .next_invocation_will_dump _ => none
  | .add_metadata _ _ => none
  | action => some action

/-- An action which calls a function of the extractor. -/
def AppAction.calls_extractor : AppAction → Bool
  | .parallel_for _ _ _ _ => true
  | .replay_functor _ => true
  | .next_invocation_will_dump _ => true
  | .add_metadata _ _ => true
  | _ => false

/-- The dumps which some actions make, in their order. -/
def dumps (app : Application) (hooks : CaptureHooks) (actions : List AppAction) : List KernelDump :=
  (calls app hooks actions).filterMap fun performed => performed.2.dump

namespace Process

/-- Unbound, each action tells the tool nothing that the extractor would. -/
theorem perform_unbound (hunbound : Unbound process) (action : AppAction) :
    ∃ call, process.perform app action = .ok (call,
        { process with hooks := hooks_after app.toApplication process.hooks action.unassisted.toList }) ∧
      call.predicted ≠ some true ∧
      call.dump.toList = dumps app.toApplication process.hooks action.unassisted.toList := by
  cases action with
  | parallel_for label policy functor device_id =>
    refine ⟨⟨some false, (kokkos_launch app.toApplication process.hooks (some (c_str label)) device_id).1⟩,
      ?_, by simp, ?_⟩
    · rw [perform, Process.parallel_for, next_invocation_will_dump, call_unbound _ _ _ hunbound]
      rfl
    · simp only [dumps, AppAction.unassisted, Option.toList, calls, AppAction.perform]
      cases (kokkos_launch app.toApplication process.hooks (some (c_str label)) device_id).1 <;> rfl
  | replay_functor functor =>
    refine ⟨⟨none, none⟩, ?_, by simp, rfl⟩
    rw [perform, replay_functor_unbound hunbound]
    rfl
  | next_invocation_will_dump label =>
    refine ⟨⟨some false, none⟩, ?_, by simp, rfl⟩
    rw [perform, next_invocation_will_dump, call_unbound _ _ _ hunbound]
    rfl
  | add_metadata key value =>
    refine ⟨⟨none, none⟩, ?_, by simp, rfl⟩
    rw [perform, add_metadata, call_void_unbound _ hunbound]
    rfl
  | launch label device_id =>
    refine ⟨⟨none, (kokkos_launch app.toApplication process.hooks label device_id).1⟩, rfl, by simp, ?_⟩
    simp only [dumps, AppAction.unassisted, Option.toList, calls, AppAction.perform]
    cases (kokkos_launch app.toApplication process.hooks label device_id).1 <;> rfl
  | allocate_data queries space label ptr size => exact ⟨⟨none, none⟩, rfl, by simp, rfl⟩
  | deallocate_data space label ptr size => exact ⟨⟨none, none⟩, rfl, by simp, rfl⟩

theorem call_void_init (hook : Hook) (apply : CaptureHooks → CaptureHooks) :
    (process.init_internal_functions app).call_void app hook apply = process.call_void app hook apply := by
  rw [call_void, call_init]
  rfl

/-- Such an action settles the functions first. -/
theorem perform_init {action : AppAction} (hcalls : action.calls_extractor = true) :
    (process.init_internal_functions app).perform app action = process.perform app action := by
  cases action with
  | parallel_for label policy functor device_id =>
    rw [perform, perform, Process.parallel_for, Process.parallel_for, next_invocation_will_dump,
      next_invocation_will_dump, call_init]
  | replay_functor functor =>
    have hreplay : (process.init_internal_functions app).replay_functor app functor =
        process.replay_functor app functor := by
      unfold Process.replay_functor Process.register_functor_views clear_registered_views
      simp only [call_void_init]
      by_cases hplugins : app.run.build.compiler_plugins = true
      · rw [if_pos hplugins, if_pos hplugins]
      · rw [if_neg hplugins, if_neg hplugins, pure_bind, pure_bind, copy_functor_object, copy_functor_object]
        cases functor.inner_lambda with
        | none => exact call_void_init _ _
        | some inner_lambda => exact call_void_init _ _
    rw [perform, perform, hreplay]
  | next_invocation_will_dump label =>
    rw [perform, perform, next_invocation_will_dump, next_invocation_will_dump, call_init]
  | add_metadata key value =>
    rw [perform, perform, add_metadata, add_metadata, call_void_init]
  | launch label device_id => cases hcalls
  | allocate_data queries space label ptr size => cases hcalls
  | deallocate_data space label ptr size => cases hcalls

/-- The other actions are the same however the functions are bound. -/
theorem perform_apart {action : AppAction} (hcalls : action.calls_extractor = false) :
    process.perform app action =
      .ok ((action.perform app.toApplication process.hooks).1,
        { process with hooks := (action.perform app.toApplication process.hooks).2 }) := by
  cases action with
  | parallel_for label policy functor device_id => cases hcalls
  | replay_functor functor => cases hcalls
  | next_invocation_will_dump label => cases hcalls
  | add_metadata key value => cases hcalls
  | launch label device_id => rfl
  | allocate_data queries space label ptr size => rfl
  | deallocate_data space label ptr size => rfl

/-- Every call answers, and leaves the tool, as if the actions were made with the hooks of the
    tool bound from the start. -/
structure Assisted (app : LinkedApplication) (hooks : CaptureHooks) (actions : List AppAction)
    (performed : List Call) (final : Process) : Prop where
  calls : performed = (krepe.calls app.toApplication hooks actions).map Prod.snd
  hooks : final.hooks = hooks_after app.toApplication hooks actions

/-- No call predicts a dump, and the tool sees the launches and the allocations of the actions
    and nothing else. -/
structure Unassisted (app : LinkedApplication) (hooks : CaptureHooks) (actions : List AppAction)
    (performed : List Call) (final : Process) : Prop where
  predicted : ∀ call ∈ performed, call.predicted ≠ some true
  dumps : performed.filterMap Call.dump =
    krepe.dumps app.toApplication hooks (actions.filterMap AppAction.unassisted)
  hooks : final.hooks = hooks_after app.toApplication hooks (actions.filterMap AppAction.unassisted)

end Process

/-- The call of the extractor which an event is, if it is one. -/
def ProcessEvent.action? : ProcessEvent → Option AppAction
  | .action performed => some performed
  | _ => none

/-- The symbols which an event makes visible, if it loads a library. -/
def ProcessEvent.linker? : ProcessEvent → Option Linker
  | .load linker => some linker
  | _ => none

/-- What can be found when a function of the extractor is first called. -/
def linker_at_first_call (linker : Linker) : List ProcessEvent → Option Linker
  | [] => none
  | .action action :: rest => if action.calls_extractor then some linker else linker_at_first_call linker rest
  | .load loaded :: rest => linker_at_first_call loaded rest
  | .dl_error :: rest => linker_at_first_call linker rest

namespace Process

theorem dumps_cons (app : Application) (hooks : CaptureHooks) (action : AppAction) (rest : List AppAction) :
    krepe.dumps app hooks (action :: rest) =
      (action.perform app hooks).1.dump.toList ++ krepe.dumps app (action.perform app hooks).2 rest := by
  unfold krepe.dumps
  rw [krepe.calls, List.filterMap_cons]
  cases (action.perform app hooks).1.dump <;> rfl

/-- One more action in front keeps a process assisted. -/
theorem Assisted.cons {call : Call} {actions : List AppAction} {performed : List Call} {final : Process}
    {hooks : CaptureHooks} (action : AppAction)
    (hcall : call = (action.perform app.toApplication hooks).1)
    (hrest : Assisted app (action.perform app.toApplication hooks).2 actions performed final) :
    Assisted app hooks (action :: actions) (call :: performed) final where
  calls := by rw [hcall, hrest.calls, krepe.calls, List.map_cons]
  hooks := hrest.hooks

/-- One more action in front keeps a process unassisted. -/
theorem Unassisted.cons {call : Call} {action : AppAction} {actions : List AppAction} {performed : List Call}
    {final : Process} {hooks : CaptureHooks} (hpredicted : call.predicted ≠ some true)
    (hdump : call.dump.toList = krepe.dumps app.toApplication hooks action.unassisted.toList)
    (hrest : Unassisted app (hooks_after app.toApplication hooks action.unassisted.toList) actions
      performed final) :
    Unassisted app hooks (action :: actions) (call :: performed) final where
  predicted := List.forall_mem_cons.mpr ⟨hpredicted, hrest.predicted⟩
  dumps := by
    have hfirst : (call :: performed).filterMap Call.dump = call.dump.toList ++ performed.filterMap Call.dump := by
      cases hcalled : call.dump <;> simp [hcalled]
    rw [hfirst, hdump, hrest.dumps]
    cases hleft : action.unassisted with
    | none => simp [krepe.dumps, krepe.calls, hooks_after, hleft]
    | some left =>
      rw [List.filterMap_cons, hleft, Option.toList_some, dumps_cons, dumps_cons, List.append_assoc]
      rfl
  hooks := by
    rw [hrest.hooks]
    cases hleft : action.unassisted <;> simp [hooks_after, hleft]

theorem run_action {action : AppAction} {call : Call} {next final : Process} {rest : List ProcessEvent}
    {performed : List Call} (hperform : process.perform app action = .ok (call, next))
    (hrest : next.run app rest = .ok (performed, final)) :
    process.run app (.action action :: rest) = .ok (call :: performed, final) := by
  rw [run, hperform, outcome.ok_bind]
  dsimp only
  rw [hrest]
  rfl

/-- Bound, the whole run reaches the tool, by induction on the events. -/
theorem run_bound (hbound : Bound app process) (events : List ProcessEvent) :
    ∃ performed final, process.run app events = .ok (performed, final) ∧
      Assisted app process.hooks (events.filterMap ProcessEvent.action?) performed final := by
  induction events generalizing process with
  | nil => exact ⟨[], process, rfl, rfl, rfl⟩
  | cons event rest ih =>
    cases event with
    | action action =>
      obtain ⟨performed, final, hrun, hassisted⟩ :=
        ih (hbound.with_hooks (action.perform app.toApplication process.hooks).2)
      exact ⟨_, final, run_action (perform_bound hbound action) hrun, hassisted.cons action rfl⟩
    | load linker => exact @ih { process with linker := linker } ⟨hbound.tool, hbound.functions⟩
    | dl_error => exact @ih { process with dl_error := true } ⟨hbound.tool, hbound.functions⟩

/-- Unbound, nothing of the whole run reaches the tool, by induction on the events. -/
theorem run_unbound (hunbound : Unbound process) (events : List ProcessEvent) :
    ∃ performed final, process.run app events = .ok (performed, final) ∧
      Unassisted app process.hooks (events.filterMap ProcessEvent.action?) performed final := by
  induction events generalizing process with
  | nil => exact ⟨[], process, rfl, by simp, rfl, rfl⟩
  | cons event rest ih =>
    cases event with
    | action action =>
      obtain ⟨call, hperform, hpredicted, hdump⟩ := @perform_unbound app _ hunbound action
      obtain ⟨performed, final, hrun, hunassisted⟩ :=
        ih (hunbound.with_hooks (hooks_after app.toApplication process.hooks action.unassisted.toList))
      exact ⟨_, final, run_action hperform hrun, hunassisted.cons hpredicted hdump⟩
    | load linker => exact @ih { process with linker := linker } ⟨hunbound.tool, hunbound.functions⟩
    | dl_error => exact @ih { process with dl_error := true } ⟨hunbound.tool, hunbound.functions⟩

/-- An action apart from the extractor is the same with and without it. -/
theorem apart_unassisted {action : AppAction} (hcalls : action.calls_extractor = false)
    (app : Application) (hooks : CaptureHooks) :
    action.unassisted = some action ∧ (action.perform app hooks).1.predicted = none := by
  cases action with
  | parallel_for label policy functor device_id => cases hcalls
  | replay_functor functor => cases hcalls
  | next_invocation_will_dump label => cases hcalls
  | add_metadata key value => cases hcalls
  | launch label device_id => exact ⟨rfl, rfl⟩
  | allocate_data queries space label ptr size => exact ⟨rfl, rfl⟩
  | deallocate_data space label ptr size => exact ⟨rfl, rfl⟩

/-- What was found at the first call decides on all the calls which follow. -/
theorem run_fresh (hfresh : process.has_kernel_dump_tool = none) (events : List ProcessEvent)
    (hexports : ∀ linker ∈ process.linker :: events.filterMap ProcessEvent.linker?, Exports app linker) :
    ∃ performed final, process.run app events = .ok (performed, final) ∧
      ((∃ found, linker_at_first_call process.linker events = some found ∧ Complete app found) →
        Assisted app process.hooks (events.filterMap ProcessEvent.action?) performed final) ∧
      ((¬ ∃ found, linker_at_first_call process.linker events = some found ∧ Complete app found) →
        Unassisted app process.hooks (events.filterMap ProcessEvent.action?) performed final) := by
  induction events generalizing process with
  | nil => exact ⟨[], process, rfl, fun _ => ⟨rfl, rfl⟩, fun _ => ⟨by simp, rfl, rfl⟩⟩
  | cons event rest ih =>
    cases event with
    | action action =>
      have hlinker : Exports app process.linker := hexports _ List.mem_cons_self
      by_cases hcalls : action.calls_extractor = true
      · -- The run is one of the process in which the functions are settled.
        have hrun : (process.init_internal_functions app).run app (.action action :: rest) =
            process.run app (.action action :: rest) := by
          rw [run, run, perform_init hcalls]
        have hfound : linker_at_first_call process.linker (.action action :: rest) = some process.linker :=
          if_pos hcalls
        obtain ⟨hhooks, hbound, hunbound⟩ := init_decides hlinker hfresh
        rw [hfound, ← hrun, ← hhooks]
        by_cases hcomplete : Complete app process.linker
        · obtain ⟨performed, final, hok, hassisted⟩ := run_bound (hbound hcomplete) (.action action :: rest)
          exact ⟨performed, final, hok, fun _ => hassisted,
            fun hincomplete => absurd ⟨_, rfl, hcomplete⟩ hincomplete⟩
        · obtain ⟨performed, final, hok, hunassisted⟩ :=
            @run_unbound app _ (hunbound hcomplete) (.action action :: rest)
          refine ⟨performed, final, hok, fun hfound => ?_, fun _ => hunassisted⟩
          obtain ⟨found, hsame, hall⟩ := hfound
          exact absurd (Option.some.inj hsame ▸ hall) hcomplete
      · have happart : action.calls_extractor = false := eq_false_of_ne_true hcalls
        obtain ⟨hleft, hpredicted⟩ := apart_unassisted happart app.toApplication process.hooks
        have hfound : linker_at_first_call process.linker (.action action :: rest) =
            linker_at_first_call process.linker rest := if_neg hcalls
        obtain ⟨performed, final, hrun, hassisted, hunassisted⟩ :=
          @ih { process with hooks := (action.perform app.toApplication process.hooks).2 } hfresh hexports
        refine ⟨_, final, run_action (perform_apart happart) hrun, ?_, ?_⟩
        · rw [hfound]
          exact fun hcomplete => (hassisted hcomplete).cons action rfl
        · rw [hfound]
          refine fun hincomplete => Unassisted.cons (by simp [hpredicted]) ?_ (hleft ▸ hunassisted hincomplete)
          rw [hleft, Option.toList_some, dumps_cons]
          exact (List.append_nil _).symm
    | load linker =>
      exact @ih { process with linker := linker } hfresh
        (fun loaded hloaded => hexports loaded (List.mem_cons_of_mem _ hloaded))
    | dl_error => exact @ih { process with dl_error := true } hfresh hexports

end Process

/-- For any libraries which are loaded and any stale errors of the linker during a run, where
    symbols of the hooks only ever lead to the hooks: the run does not fail, so that no call
    goes through a null pointer. If all hooks could be found at the first call of the extractor,
    every later call reaches the tool, and otherwise none does. -/
theorem first_call_binds (app : LinkedApplication) (hooks : CaptureHooks) (linker : Linker)
    (dl_error : Bool) (events : List ProcessEvent)
    (hexports : ∀ loaded ∈ linker :: events.filterMap ProcessEvent.linker?, Exports app loaded) :
    ∃ performed final, (Process.initial hooks linker dl_error).run app events = .ok (performed, final) ∧
      ((∃ found, linker_at_first_call linker events = some found ∧ Complete app found) →
        Process.Assisted app hooks (events.filterMap ProcessEvent.action?) performed final) ∧
      ((¬ ∃ found, linker_at_first_call linker events = some found ∧ Complete app found) →
        Process.Unassisted app hooks (events.filterMap ProcessEvent.action?) performed final) :=
  @Process.run_fresh app (Process.initial hooks linker dl_error) rfl events hexports

/-- An application which dumps its first `axpy`, and a tool with hooks at
    consecutive addresses. -/
def late_application : LinkedApplication where
  extract := ⟨false, false, false, false⟩
  run := ⟨host_build, ⟨"axpy", some 1⟩, fun _ => ⟨true, "krepe_axpy_1.h5", ""⟩⟩
  enable_libdl := true
  address := fun hook => UInt64.ofNat (4096 + Hook.all.idxOf hook)

/-- The symbols of the process once the tool is loaded, each at its own address. -/
def tool_linker : Linker :=
  fun name => (Hook.all.find? fun hook => hook.symbol = name).map late_application.address

/-- The symbols of the tool lead to its hooks. -/
theorem tool_linker_exports : Exports late_application tool_linker := by
  intro hook address hfound
  have hsymbol : tool_linker hook.symbol = some (late_application.address hook) := by
    cases hook <;> decide
  rw [hsymbol, Option.some.injEq] at hfound
  subst hfound
  exact ⟨rfl, by cases hook <;> decide⟩

/-- Metadata which is added before the tool is loaded leaves a later launch undescribed. -/
theorem first_call_binds_example :
    ∃ performed final,
      (Process.initial (CaptureHooks.initial none) (fun _ => none) true).run late_application
        [.action (.add_metadata "mesh" "fine"), .load tool_linker,
          .action (.parallel_for "axpy" (.scalar 7) ⟨[1], none, []⟩ 0)] = .ok (performed, final) ∧
      ∀ call ∈ performed, call.predicted ≠ some true := by
  let events : List ProcessEvent :=
    [.action (.add_metadata "mesh" "fine"), .load tool_linker,
      .action (.parallel_for "axpy" (.scalar 7) ⟨[1], none, []⟩ 0)]
  have hexports : ∀ loaded ∈ (fun _ => none) :: events.filterMap ProcessEvent.linker?,
      Exports late_application loaded := by
    intro loaded hloaded
    cases List.mem_cons.mp hloaded with
    | inl hfirst =>
      intro hook address hfound
      rw [hfirst] at hfound
      cases hfound
    | inr hlater => exact List.mem_singleton.mp hlater ▸ tool_linker_exports
  obtain ⟨performed, final, hrun, _, hunassisted⟩ :=
    first_call_binds late_application (CaptureHooks.initial none) (fun _ => none) true events hexports
  refine ⟨performed, final, hrun, (hunassisted fun hfound => ?_).predicted⟩
  obtain ⟨found, hfirst, _, hall⟩ := hfound
  rw [← Option.some.inj hfirst] at hall
  exact Bool.false_ne_true (hall .add_metadata)

end krepe
