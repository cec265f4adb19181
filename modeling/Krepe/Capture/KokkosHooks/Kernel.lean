import Krepe.Capture.KokkosHooks.Allocation
import Krepe.Capture.ViewDump.Types

open std

namespace krepe

/-- What is kept of a kernel between its launch and its end; the path is empty unless a dump was
    created. -/
structure KernelState where
  device_id : UInt32
  invocation : Nat
  dump_path : String
  deriving DecidableEq, Repr

/-- A `Kokkos_Tools_toolInvokedFenceFunction`, which may be null. -/
abbrev Fence := Option Pointer

/-- The launch to dump, as `kokkosp_parse_args` sets it. -/
structure DumpSelection where
  dump_kernel_label : String
  dump_kernel_invocation : Option Nat
  deriving DecidableEq, Repr

/-- The globals which the hooks of kernels use. The counters do not wrap. -/
structure KernelHooks where
  next_kernel_id : Nat
  kernel_states : UnorderedMap Nat KernelState
  kernel_invocations : UnorderedMap String Nat
  tool_fence : Fence

/-- The first kernel has the identifier 1, and no label was launched. -/
def KernelHooks.initial (tool_fence : Fence) : KernelHooks := ⟨1, ∅, ∅, tool_fence⟩

variable (selection : DumpSelection)

/-- A label was selected, and it is this one. -/
def should_dump_views_for_label (label : String) : Bool :=
  selection.dump_kernel_label != "" && label == selection.dump_kernel_label

/-- The label and the number of the invocation are both the selected ones. -/
def should_dump_views_for_invocation (label : String) (invocation : Nat) : Bool :=
  selection.dump_kernel_invocation.isSome && should_dump_views_for_label selection label &&
    some invocation == selection.dump_kernel_invocation

namespace KernelHooks

/-- `next_kernel_id.fetch_add(1)`. -/
def fetch_kernel_id (hooks : KernelHooks) : Nat × KernelHooks :=
  (hooks.next_kernel_id, { hooks with next_kernel_id := hooks.next_kernel_id + 1 })

/-- The number of a launch among those with its label, while it is counted. -/
def next_invocation (hooks : KernelHooks) (kernel_label : String) : Nat :=
  (hooks.kernel_invocations.lookup kernel_label).getD 0 + 1

/-- The first section of `begin_kernel`, without its decision on the dump. -/
def register_kernel (hooks : KernelHooks) (id : Nat) (kernel_label : String) (device_id : UInt32) :
    KernelHooks :=
  let invocation := hooks.next_invocation kernel_label
  { hooks with
    kernel_invocations := hooks.kernel_invocations.insert kernel_label invocation
    kernel_states := hooks.kernel_states.insert id ⟨device_id, invocation, ""⟩ }

/-- The last section of `begin_kernel`. -/
def store_dump_path (hooks : KernelHooks) (id : Nat) (result : ViewDumpResult) : KernelHooks :=
  match hooks.kernel_states.lookup id with
  | none => hooks
  | some state =>
    if result.ok then
      { hooks with
        kernel_states := hooks.kernel_states.insert id { state with dump_path := result.filename } }
    else hooks

/-- The section of `end_kernel`: what it takes from the state of the kernel, if
    there is one. -/
def take_kernel (hooks : KernelHooks) (kernel_id : Nat) : KernelState × KernelHooks :=
  match hooks.kernel_states.lookup kernel_id with
  | none => (⟨0, 0, ""⟩, hooks)
  | some state => (state, { hooks with kernel_states := hooks.kernel_states.erase kernel_id })

/-- A registered launch counts for its own label. -/
theorem next_invocation_register (hooks : KernelHooks) (id : Nat) (kernel_label : String)
    (device_id : UInt32) (label : String) :
    (hooks.register_kernel id kernel_label device_id).next_invocation label =
      hooks.next_invocation label + if label = kernel_label then 1 else 0 := by
  unfold next_invocation register_kernel
  by_cases hlabel : label = kernel_label
  · subst hlabel
    simp [next_invocation]
  · simp [AList.lookup_insert_ne hlabel, hlabel]

/-- A registered launch gets a state without a dump, and the states of other kernels stay. -/
theorem lookup_register (hooks : KernelHooks) (id : Nat) (kernel_label : String)
    (device_id : UInt32) (other : Nat) :
    (hooks.register_kernel id kernel_label device_id).kernel_states.lookup other =
      if other = id then some ⟨device_id, hooks.next_invocation kernel_label, ""⟩
      else hooks.kernel_states.lookup other := by
  unfold register_kernel
  by_cases hother : other = id
  · subst hother
    simp
  · simp [AList.lookup_insert_ne hother, hother]

end KernelHooks

variable {selection} in
/-- A launch is to be dumped if a label is selected, and its label and invocation are the
    selected ones. -/
theorem should_dump_views_for_invocation_iff {label : String} {invocation : Nat} :
    should_dump_views_for_invocation selection label invocation = true ↔
      selection.dump_kernel_label ≠ "" ∧ label = selection.dump_kernel_label ∧
        selection.dump_kernel_invocation = some invocation := by
  simp only [should_dump_views_for_invocation, should_dump_views_for_label, Bool.and_eq_true,
    bne_iff_ne, beq_iff_eq]
  refine ⟨fun hselected => ⟨hselected.1.2.1, hselected.1.2.2, hselected.2.symm⟩, fun hselected => ?_⟩
  obtain ⟨hlabel, hsame, hinvocation⟩ := hselected
  exact ⟨⟨by rw [hinvocation]; rfl, hlabel, hsame⟩, hinvocation.symm⟩

end krepe
