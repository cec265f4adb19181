import Mathlib.Logic.Function.Basic
import Krepe.Extract.ParallelFor

open std kokkos

namespace krepe

/-- The hooks of the tool which the extractor looks up, in the order of the lookups. -/
inductive Hook where
  | add_metadata
  | copy_functor
  | copy_nvcc_lambda
  | register_scalar_policy
  | register_range_policy
  | register_mdrange_policy
  | register_team_policy
  | next_invocation_will_dump
  | clear_registered_views
  | register_view
  deriving DecidableEq, Repr

namespace Hook

/-- The hooks in the order in which they are looked up. -/
def all : List Hook :=
  [add_metadata, copy_functor, copy_nvcc_lambda, register_scalar_policy, register_range_policy,
    register_mdrange_policy, register_team_policy, next_invocation_will_dump, clear_registered_views,
    register_view]

theorem mem_all (hook : Hook) : hook ∈ all := by
  cases hook <;> decide

/-- The name under which the tool exports a hook. -/
def symbol : Hook → String
  | add_metadata => "krepe_kernel_dump_add_metadata"
  | copy_functor => "krepe_kernel_dump_copy_functor"
  | copy_nvcc_lambda => "krepe_kernel_dump_copy_nvcc_lambda"
  | register_scalar_policy => "krepe_kernel_dump_register_scalar_policy"
  | register_range_policy => "krepe_kernel_dump_register_range_policy"
  | register_mdrange_policy => "krepe_kernel_dump_register_mdrange_policy"
  | register_team_policy => "krepe_kernel_dump_register_team_policy"
  | next_invocation_will_dump => "krepe_kernel_dump_next_invocation_will_dump"
  | clear_registered_views => "krepe_kernel_dump_clear_registered_views"
  | register_view => "krepe_kernel_dump_register_view"

end Hook

/-- The hook which `register_bounds` calls for a policy. -/
def register_hook : Policy → Hook
  | .scalar _ => .register_scalar_policy
  | .range _ => .register_range_policy
  | .mdrange _ => .register_mdrange_policy
  | .team _ => .register_team_policy

/-- The symbols which `dlsym` finds in the objects loaded so far. -/
abbrev Linker := String → Option Pointer

/-- What a function pointer of the extractor holds: null, a lambda of the extractor itself, or
    an address from the linker. -/
inductive FunctionPointer where
  | null
  /-- The lambda which does nothing. -/
  | lambda
  | «at» (address : Pointer)
  deriving DecidableEq, Repr

/-- A process: the hooks of the tool, the globals of the extractor, and the
    state of the dynamic linker, with whether `dlerror` has an error to tell. -/
structure Process where
  hooks : CaptureHooks
  functions : Hook → FunctionPointer
  has_kernel_dump_tool : Option Bool
  linker : Linker
  dl_error : Bool

/-- A process in which no hook was looked up, with an error of `dlopen` still pending or not. -/
def Process.initial (hooks : CaptureHooks) (linker : Linker) (dl_error : Bool) : Process :=
  ⟨hooks, fun _ => .null, none, linker, dl_error⟩

/-- An application, whether it is built with `KOKKOS_ENABLE_LIBDL`, and where the
    hooks of the tool are. -/
structure LinkedApplication extends Application where
  enable_libdl : Bool
  address : Hook → Pointer

variable (app : LinkedApplication)

namespace Process

/-- A null pointer for a symbol which is not found. -/
def dlsym (process : Process) (name : String) : Pointer × Process :=
  match process.linker name with
  | some handle => (handle, process)
  | none => (0, { process with dl_error := true })

/-- Whether there was an error, which is told once. -/
def dlerror (process : Process) : Bool × Process := (process.dl_error, { process with dl_error := false })

/-- The symbol is looked up, and the pointer is set unless `dlerror` reports a failure. The null
    pointer is a valid address of a symbol. -/
def load_function_from_tool (process : Process) (hook : Hook) : Bool × Process :=
  let (handle, process) := process.dlsym hook.symbol
  let (failed, process) := process.dlerror
  if failed then (false, process)
  else
    let pointer := if handle = 0 then .null else .at handle
    (true, { process with functions := Function.update process.functions hook pointer })

/-- `&&` of the lookups, the first failure of which is the last. -/
def load_functions_from_tool (process : Process) : List Hook → Bool × Process
  | [] => (true, process)
  | hook :: rest =>
    let (loaded, process) := process.load_function_from_tool hook
    if loaded then process.load_functions_from_tool rest else (false, process)

/-- An old error is discarded first, then all hooks are looked up; without `libdl` there is no
    tool. -/
def init_internal_functions_from_tool (process : Process) : Bool × Process :=
  if app.enable_libdl then
    let (_, process) := process.dlerror
    process.load_functions_from_tool Hook.all
  else (false, process)

/-- Only the first call looks for the tool; where a hook is missing all pointers become lambdas
    that do nothing. -/
def init_internal_functions (process : Process) : Process :=
  if process.has_kernel_dump_tool.isSome then process
  else
    let (loaded, process) := process.init_internal_functions_from_tool app
    if loaded then { process with has_kernel_dump_tool := some true }
    else { process with functions := fun _ => .lambda, has_kernel_dump_tool := some false }

/-- A function of the extractor: what the hook does, if its pointer is to it, and
    what the lambda returns otherwise. -/
def call {α : Type} (process : Process) (hook : Hook) (otherwise : α)
    (apply : CaptureHooks → α × CaptureHooks) : Except Failure (α × Process) :=
  let process := process.init_internal_functions app
  match process.functions hook with
  | .null => throw .segmentation_fault
  | .lambda => pure (otherwise, process)
  | .at address =>
    if address = app.address hook then
      let (value, hooks) := apply process.hooks
      pure (value, { process with hooks := hooks })
    else throw .undefined_behavior

/-- A function of the extractor which returns nothing. -/
def call_void (process : Process) (hook : Hook) (apply : CaptureHooks → CaptureHooks) :
    Except Failure Process := do
  let (_, process) ← process.call app hook () (fun hooks => ((), apply hooks))
  pure process

/-- The bytes of a functor go to the tool. -/
def copy_functor (process : Process) (functor_data : List UInt8) : Except Failure Process :=
  process.call_void app .copy_functor (·.krepe_kernel_dump_copy_functor functor_data)

/-- The bytes of an extended lambda and of its host lambda go to the tool. -/
def copy_nvcc_lambda (process : Process) (functor_data inner_functor_data : List UInt8) :
    Except Failure Process :=
  process.call_void app .copy_nvcc_lambda
    (·.krepe_kernel_dump_copy_nvcc_lambda functor_data inner_functor_data)

/-- The tool is asked about the next launch of a kernel; without a tool the answer is no. -/
def next_invocation_will_dump (process : Process) (kernel_name : String) :
    Except Failure (Bool × Process) :=
  process.call app .next_invocation_will_dump false
    (·.krepe_kernel_dump_next_invocation_will_dump app.run kernel_name)

/-- The tool forgets the views of an earlier functor. -/
def clear_registered_views (process : Process) : Except Failure Process :=
  process.call_void app .clear_registered_views (·.krepe_kernel_dump_clear_registered_views)

/-- One view of the functor goes to the tool. -/
def register_view (process : Process) (data : Pointer) (space : String) : Except Failure Process :=
  process.call_void app .register_view (·.krepe_kernel_dump_register_view data space)

/-- A key up to its first null character, and a value, go to the tool. -/
def add_metadata (process : Process) (key value : String) : Except Failure Process :=
  process.call_void app .add_metadata (·.krepe_kernel_dump_add_metadata (c_str key) value)

/-- The hook makes the description from its arguments, and keeps it. -/
def register_policy (process : Process) (hook : Hook) (desc : PolicyDesc) : Except Failure Process :=
  process.call_void app hook ({ · with policy := desc })

/-- What the compiler plugins insert into `replay_functor`: the views of an earlier functor are
    cleared, then each view is registered. -/
def register_functor_views (process : Process) (functor : FunctorObject) : Except Failure Process := do
  let process ← process.clear_registered_views app
  functor.views.foldlM (fun process view => process.register_view app view.1 view.2) process

/-- The body of `replay_functor` as it is written. -/
def copy_functor_object (process : Process) (functor : FunctorObject) : Except Failure Process :=
  match functor.inner_lambda with
  | some inner_lambda => process.copy_nvcc_lambda app functor.bytes inner_lambda
  | none => process.copy_functor app functor.bytes

/-- The functor goes to the tool, after its views if the plugins are in use. -/
def replay_functor (process : Process) (functor : FunctorObject) : Except Failure Process := do
  let process ←
    if app.run.build.compiler_plugins then process.register_functor_views app functor else pure process
  process.copy_functor_object app functor

/-- Kokkos has hooks of its own, which it looks up itself. -/
def launch (process : Process) (label : CString) (device_id : UInt32) : Option KernelDump × Process :=
  let (dump, hooks) := kokkos_launch app.toApplication process.hooks label device_id
  (dump, { process with hooks := hooks })

/-- The extractor's `parallel_for`, with each hook called through its pointer. -/
def parallel_for (process : Process) (label : String) (policy : Policy) (functor : FunctorObject)
    (device_id : UInt32) : Except Failure (Call × Process) := do
  let (will_dump, process) ← process.next_invocation_will_dump app (c_str label)
  if will_dump then
    match impl.register_bounds app.extract policy with
    | .error _ => pure (⟨some true, none⟩, process)
    | .ok desc =>
      let process ← process.register_policy app (register_hook policy) desc
      let process ← process.replay_functor app functor
      let (dump, process) := process.launch app (some (c_str label)) device_id
      pure (⟨some true, dump⟩, process)
  else
    let (dump, process) := process.launch app (some (c_str label)) device_id
    pure (⟨some false, dump⟩, process)

/-- The actions which call no function of the extractor act on the hooks alone. -/
def perform (process : Process) : AppAction → Except Failure (Call × Process)
  | .parallel_for label policy functor device_id => process.parallel_for app label policy functor device_id
  | .replay_functor functor => do
    let process ← process.replay_functor app functor
    pure (⟨none, none⟩, process)
  | .next_invocation_will_dump label => do
    let (will_dump, process) ← process.next_invocation_will_dump app (c_str label)
    pure (⟨some will_dump, none⟩, process)
  | .add_metadata key value => do
    let process ← process.add_metadata app key value
    pure (⟨none, none⟩, process)
  | action =>
    let (call, hooks) := action.perform app.toApplication process.hooks
    pure (call, { process with hooks := hooks })

end Process

/-- What happens in a process: an action of the application, a change of the
    objects which are loaded, or an error of the linker which nobody asked for. -/
inductive ProcessEvent where
  | action (action : AppAction)
  | load (linker : Linker)
  | dl_error

/-- The events of a process in their order: calls of the extractor, libraries that are loaded,
    and errors of the linker that nobody fetched. -/
def Process.run (process : Process) : List ProcessEvent → Except Failure (List Call × Process)
  | [] => pure ([], process)
  | .action action :: rest => do
    let (call, process) ← process.perform app action
    let (calls, process) ← process.run rest
    pure (call :: calls, process)
  | .load linker :: rest => { process with linker := linker }.run rest
  | .dl_error :: rest => { process with dl_error := true }.run rest

end krepe
