import Krepe.Capture.KokkosHooks
import Krepe.Extract.KernelExtractor

open std kokkos

namespace krepe

/-- A functor of the application: its bytes, those of the inner lambda if it is an
    extended lambda of nvcc, and its views, each as its data and the name of its
    memory space, as a compiler plugin finds them. -/
structure FunctorObject where
  bytes : List UInt8
  inner_lambda : Option (List UInt8)
  views : List (Pointer × String)

/-- An application with the tool loaded. -/
structure Application where
  extract : ExtractBuild
  run : CaptureRun

/-- What an action of the application shows: its prediction, and the dump which
    the begin hook of its launch makes. -/
structure Call where
  predicted : Option Bool
  dump : Option KernelDump

variable (app : Application)

/-- What a compiler plugin puts in front of the body of `replay_functor`. -/
def register_functor_views (hooks : CaptureHooks) (functor : FunctorObject) : CaptureHooks :=
  functor.views.foldl (fun hooks view => hooks.krepe_kernel_dump_register_view view.1 view.2)
    hooks.krepe_kernel_dump_clear_registered_views

/-- With the compiler plugins the views of the functor are registered first; then its bytes are
    copied, with those of the host lambda if there is one. -/
def replay_functor (hooks : CaptureHooks) (functor : FunctorObject) : CaptureHooks :=
  let hooks :=
    if app.run.build.compiler_plugins then register_functor_views hooks functor else hooks
  match functor.inner_lambda with
  | some inner_lambda => hooks.krepe_kernel_dump_copy_nvcc_lambda functor.bytes inner_lambda
  | none => hooks.krepe_kernel_dump_copy_functor functor.bytes

/-- A launch by Kokkos, which calls the hooks with the label it is given. -/
def kokkos_launch (hooks : CaptureHooks) (label : CString) (device_id : UInt32) :
    Option KernelDump × CaptureHooks :=
  let (kernel_id, dump, hooks) := hooks.begin_kernel app.run label device_id
  (dump, (hooks.end_kernel app.run kernel_id).2)

/-- Unless the tool says that the launch will be dumped, nothing but the launch happens; else
    the policy and the functor are handed over before it. A policy that cannot be described ends
    the call with its exception. -/
def parallel_for (hooks : CaptureHooks) (label : String) (policy : Policy) (functor : FunctorObject)
    (device_id : UInt32) : Call × CaptureHooks :=
  let (will_dump, hooks) := hooks.krepe_kernel_dump_next_invocation_will_dump app.run (c_str label)
  if will_dump then
    match impl.register_bounds app.extract policy with
    | .error _ => (⟨some true, none⟩, hooks)
    | .ok desc =>
      let hooks := { hooks with policy := desc }
      let (dump, hooks) :=
        kokkos_launch app (replay_functor app hooks functor) (some (c_str label)) device_id
      (⟨some true, dump⟩, hooks)
  else
    let (dump, hooks) := kokkos_launch app hooks (some (c_str label)) device_id
    (⟨some false, dump⟩, hooks)

/-- What an application does that the tool sees: calls of the extractor, launches without it,
    the allocation hooks, and metadata. -/
inductive AppAction where
  | parallel_for (label : String) (policy : Policy) (functor : FunctorObject) (device_id : UInt32)
  | replay_functor (functor : FunctorObject)
  | launch (label : CString) (device_id : UInt32)
  | next_invocation_will_dump (label : String)
  | allocate_data (queries : AllocationQueries) (space : SpaceHandle) (label : CString) (ptr : Pointer)
      (size : UInt64)
  | deallocate_data (space : SpaceHandle) (label : CString) (ptr : Pointer) (size : UInt64)
  | add_metadata (key value : String)

/-- The action as a change of the statics of the tool, and what the call answers. -/
def AppAction.perform (hooks : CaptureHooks) : AppAction → Call × CaptureHooks
  | .parallel_for label policy functor device_id =>
    krepe.parallel_for app hooks label policy functor device_id
  | .replay_functor functor => (⟨none, none⟩, krepe.replay_functor app hooks functor)
  | .launch label device_id =>
    let (dump, hooks) := kokkos_launch app hooks label device_id
    (⟨none, dump⟩, hooks)
  | .next_invocation_will_dump label =>
    let (will_dump, hooks) :=
      hooks.krepe_kernel_dump_next_invocation_will_dump app.run (c_str label)
    (⟨some will_dump, none⟩, hooks)
  | .allocate_data queries space label ptr size =>
    (⟨none, none⟩, { hooks with
      allocation_tracker :=
        kokkosp_allocate_data app.run.build queries space label ptr size hooks.allocation_tracker })
  | .deallocate_data space label ptr size =>
    (⟨none, none⟩, { hooks with
      allocation_tracker := kokkosp_deallocate_data space label ptr size hooks.allocation_tracker })
  | .add_metadata key value =>
    (⟨none, none⟩, hooks.krepe_kernel_dump_add_metadata (c_str key) value)

/-- The hooks after a sequence of actions. -/
def hooks_after (hooks : CaptureHooks) (actions : List AppAction) : CaptureHooks :=
  actions.foldl (fun hooks action => (action.perform app hooks).2) hooks

/-- The actions of a sequence with what each of them shows. -/
def calls (hooks : CaptureHooks) : List AppAction → List (AppAction × Call)
  | [] => []
  | action :: rest =>
    (action, (action.perform app hooks).1) :: calls (action.perform app hooks).2 rest

end krepe
