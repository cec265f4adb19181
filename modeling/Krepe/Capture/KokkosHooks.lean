import Krepe.Capture.KokkosHooks.Kernel

open std

namespace krepe

/-- The globals of the hooks. -/
structure CaptureHooks extends KernelHooks where
  allocation_tracker : AllocationTracker
  functor_data : List UInt8
  nvcc_inner_lambda_data : List UInt8
  metadata : UnorderedMap String String
  policy : PolicyDesc

/-- The statics of the tool when the library is loaded: nothing tracked, copied or registered. -/
def CaptureHooks.initial (tool_fence : Fence) : CaptureHooks where
  toKernelHooks := KernelHooks.initial tool_fence
  allocation_tracker := AllocationTracker.empty
  functor_data := []
  nvcc_inner_lambda_data := []
  metadata := ∅
  policy := .no_policy

/-- The arguments of `create_kernel_dump`. -/
structure KernelDump where
  input_snapshot : AllocationSnapshot
  functor_data : List UInt8
  nvcc_inner_lambda_data : List UInt8
  metadata : UnorderedMap String String
  policy : PolicyDesc
  label : String
  kernel_id : Nat
  kernel_invocation : Nat

/-- The arguments of `append_kernel_output`. -/
structure KernelOutput where
  output_snapshot : AllocationSnapshot
  filename : String

/-- The hooks of a run: how they are built, the launch which is to be dumped, and
    what the calls of `create_kernel_dump` return. -/
structure CaptureRun where
  build : CaptureBuild
  selection : DumpSelection
  create_kernel_dump : KernelDump → ViewDumpResult

variable (run : CaptureRun)

namespace CaptureHooks

/-- What the dump of a launch is created from: a snapshot of the tracker, and the functor, the
    metadata and the policy that were registered last. -/
def dump_input_views (hooks : CaptureHooks) (label : String) (kernel_id invocation : Nat) :
    KernelDump × CaptureHooks :=
  let (snapshot, allocation_tracker) := hooks.allocation_tracker.snapshot run.build.compiler_plugins
  (⟨snapshot, hooks.functor_data, hooks.nvcc_inner_lambda_data, hooks.metadata, hooks.policy, label,
    kernel_id, invocation⟩, { hooks with allocation_tracker := allocation_tracker })

/-- The snapshot which is appended to a dump when its kernel has ended. -/
def dump_output_views (hooks : CaptureHooks) (dump_path : String) : KernelOutput × CaptureHooks :=
  let (snapshot, allocation_tracker) := hooks.allocation_tracker.snapshot run.build.compiler_plugins
  (⟨snapshot, dump_path⟩, { hooks with allocation_tracker := allocation_tracker })

/-- The identifier given to the kernel, and the dump if one is made. A fence
    changes nothing in the hooks. -/
def begin_kernel (hooks : CaptureHooks) (label : CString) (device_id : UInt32) :
    Nat × Option KernelDump × CaptureHooks :=
  let (id, kernels) := hooks.toKernelHooks.fetch_kernel_id
  let kernel_label := label_or_unknown label
  let invocation := kernels.next_invocation kernel_label
  let dump_this_kernel := should_dump_views_for_invocation run.selection kernel_label invocation
  let hooks := { hooks with toKernelHooks := kernels.register_kernel id kernel_label device_id }
  if dump_this_kernel then
    let (dump, hooks) := hooks.dump_input_views run kernel_label id invocation
    let kernels := hooks.toKernelHooks.store_dump_path id (run.create_kernel_dump dump)
    (id, some dump, { hooks with toKernelHooks := kernels })
  else (id, none, hooks)

/-- Takes the state of a kernel out of the table, and gives the output to append if its launch
    created a dump. -/
def end_kernel (hooks : CaptureHooks) (kernel_id : Nat) : Option KernelOutput × CaptureHooks :=
  let (state, kernels) := hooks.toKernelHooks.take_kernel kernel_id
  let hooks := { hooks with toKernelHooks := kernels }
  if state.dump_path ≠ "" then
    let (output, hooks) := hooks.dump_output_views run state.dump_path
    (some output, hooks)
  else (none, hooks)

/-- A later value for a key replaces the earlier one. -/
def krepe_kernel_dump_add_metadata (hooks : CaptureHooks) (key value : String) : CaptureHooks :=
  { hooks with metadata := hooks.metadata.insert key value }

/-- Keeps the bytes of a functor, and drops those of the `nvcc` lambda of an earlier one. -/
def krepe_kernel_dump_copy_functor (hooks : CaptureHooks) (data : List UInt8) : CaptureHooks :=
  { hooks with functor_data := data, nvcc_inner_lambda_data := [] }

/-- Keeps the bytes of an extended lambda and of the host lambda inside it. -/
def krepe_kernel_dump_copy_nvcc_lambda (hooks : CaptureHooks) (data inner_functor_data : List UInt8) :
    CaptureHooks :=
  { hooks with functor_data := data, nvcc_inner_lambda_data := inner_functor_data }

/-- Looking up the count of a label makes a count of zero if there is none. -/
def krepe_kernel_dump_next_invocation_will_dump (hooks : CaptureHooks) (kernel_name : String) :
    Bool × CaptureHooks :=
  let (count, kernel_invocations) := UnorderedMap.index hooks.kernel_invocations kernel_name 0
  (should_dump_views_for_invocation run.selection kernel_name (count + 1),
    { hooks with kernel_invocations := kernel_invocations })

/-- Forgets the views which were registered for an earlier functor. -/
def krepe_kernel_dump_clear_registered_views (hooks : CaptureHooks) : CaptureHooks :=
  { hooks with allocation_tracker := hooks.allocation_tracker.clear_used_allocations }

/-- Records that the functor uses the view at an address of a memory space. -/
def krepe_kernel_dump_register_view (hooks : CaptureHooks) (data : Pointer) (space : String) :
    CaptureHooks :=
  { hooks with allocation_tracker := hooks.allocation_tracker.record_used_allocation space data }

end CaptureHooks

end krepe
