import Krepe.Common.UnorderedMap
import Krepe.Memory.Mapped
import Krepe.Replay.Allocation
import Krepe.Replay.ParallelFor
import Mathlib.Data.Finset.Insert

open std hdf5 memory

namespace krepe

namespace impl

/-- The two kinds of memory the replayer reserves. -/
inductive MemorySpaceType where
  | HOST
  | DEVICE
  deriving DecidableEq, Repr

/-- The replayer tells the memory spaces apart only as the host and the rest. -/
def memory_space_type_from_string (space_name : String) : MemorySpaceType :=
  if space_name = "Host" then .HOST else .DEVICE

end impl

open impl

/-- A process which replays a dump: how it is built, and what the libraries it
    calls answer. -/
structure ReplayMachine where
  build : ReplayBuild
  /-- `KERNEL_REPLAYER_HAS_DEVICE_SPACE`. -/
  has_device_space : Bool
  /-- `KERNEL_REPLAYER_USE_NVCC_HDL_WORKAROUND`. -/
  use_nvcc_hdl_workaround : Bool
  allocation_granularity : MemorySpaceType → Nat
  allocation_granularity_pos : ∀ type, 0 < allocation_granularity type
  fresh_byte : MemorySpaceType → Nat → UInt8
  /-- The order in which names are visited is not specified. -/
  iteration_order : List String → List String
  iteration_order_perm : ∀ names, (iteration_order names).Perm names
  device_init_error : Option String
  /-- The error of reserving a range besides those which already are. -/
  reserve_error : MemorySpaceType → List (Nat × Nat) → Nat × Nat → Option String
  /-- A buffer with arbitrary bytes. None is larger than `PTRDIFF_MAX`. -/
  host_buffer : MemorySpaceType → Nat → Option (List UInt8)
  host_buffer_length : ∀ type size buffer, host_buffer type size = some buffer → buffer.length = size
  host_buffer_max : ∀ type size, 2 ^ 63 ≤ size → host_buffer type size = none
  /-- The error of allocating memory at an address of its own. -/
  regular_allocate_error : MemorySpaceType → Nat → Option Failure

/-- The members of the guard are kept by the type of their memory space. -/
structure ScopeGuard where
  memory : MemorySpaceType → Memory UInt8
  allocations : MemorySpaceType → UnorderedMap String Nat
  output_allocations : MemorySpaceType → UnorderedMap String (List UInt8)
  output_labels : MemorySpaceType → Finset String
  metadata : UnorderedMap String String
  functor_data : List UInt8
  nvcc_inner_lambda_data : List UInt8
  replay_policy : PolicyVar

variable (machine : ReplayMachine)

/-- A guard before its constructor has read anything. -/
def ScopeGuard.initial : ScopeGuard where
  memory type := Memory.unmapped (machine.fresh_byte type)
  allocations _ := ∅
  output_allocations _ := ∅
  output_labels _ := ∅
  metadata := ∅
  functor_data := []
  nvcc_inner_lambda_data := []
  replay_policy := .monostate

/-- A failed call of a library, as an exception with its text. -/
def check_error : Option String → Except Failure Unit
  | none => pure ()
  | some what => throw (.runtime_error what)

/-- Starts the device, which may fail. -/
def device_init : Except Failure Unit := check_error machine.device_init_error

/-- The error where a dump has allocations of a device and the replayer has none. -/
def no_device_space : Failure :=
  .runtime_error "Trying to access device allocations but no device space is enabled"

namespace impl

/-- `get_allocation_address` with the granularity of the memory space. -/
def get_space_allocation_address (target_address size : Nat) (space : MemorySpaceType) :
    Except Failure (Nat × Nat) :=
  if space = .DEVICE ∧ !machine.has_device_space then
    throw (.runtime_error
      "Tried to compute a device allocation address but no device space is enabled")
  else pure (get_allocation_address (machine.allocation_granularity space) target_address size)

/-- A buffer for the bytes of a dataset on their way to a memory space. -/
def allocate_host_buffer (size : Nat) (mem : MemorySpaceType) : Except Failure (List UInt8) :=
  match machine.host_buffer mem size with
  | some buffer => pure buffer
  | none => throw .bad_alloc

/-- A copy to memory which is not mapped is a fault. -/
def copy_data (guard : ScopeGuard) (space : MemorySpaceType) (address : Nat) (data : List UInt8) :
    Except Failure ScopeGuard :=
  if space = .DEVICE ∧ !machine.has_device_space then
    throw (.runtime_error "Tried to copy data to a device space but no device backend is enabled")
  else
    match (guard.memory space).write address data with
    | none => throw .segmentation_fault
    | some next => pure { guard with memory := Function.update guard.memory space next }

end impl

namespace ScopeGuard

/-- Reserves a range of addresses in a memory space, which the system may refuse. -/
def allocate (guard : ScopeGuard) (memory_space : MemorySpaceType) (range : Nat × Nat) :
    Except Failure ScopeGuard :=
  if memory_space = .DEVICE ∧ !machine.has_device_space then throw no_device_space
  else do
    let memory := guard.memory memory_space
    check_error (machine.reserve_error memory_space memory.regions range)
    pure { guard with memory := Function.update guard.memory memory_space (memory.map range) }

/-- The table of a memory space which does not exist is not there. -/
def set_allocation (guard : ScopeGuard) (memory_space : MemorySpaceType) (label : String)
    (address : Nat) : ScopeGuard :=
  if memory_space = .DEVICE ∧ !machine.has_device_space then guard
  else
    let entries := (guard.allocations memory_space).insert label address
    { guard with allocations := Function.update guard.allocations memory_space entries }

/-- The copy of a dataset, and an entry for its label. Empty data has no address. -/
def copy_data_wrapper (guard : ScopeGuard) (label memory_space : String) (address : Nat)
    (data : List UInt8) : Except Failure ScopeGuard := do
  let space := memory_space_type_from_string memory_space
  if data.length = 0 then pure (guard.set_allocation machine space label 0)
  else
    let guard ← copy_data machine guard space address data
    pure (guard.set_allocation machine space label address)

/-- An empty output has a label, but no allocation. -/
def allocate_output (guard : ScopeGuard) (label memory_space : String) (data : List UInt8) :
    Except Failure ScopeGuard :=
  let space := memory_space_type_from_string memory_space
  if space = .DEVICE ∧ !machine.has_device_space then throw no_device_space
  else
    let labels := insert label (guard.output_labels space)
    let guard := { guard with output_labels := Function.update guard.output_labels space labels }
    if data.length = 0 then pure guard
    else
      match machine.regular_allocate_error space data.length with
      | some failure => throw failure
      | none =>
        let entries := (guard.output_allocations space).insert label data
        pure { guard with
          output_allocations := Function.update guard.output_allocations space entries }

/-- The address of a label, zero for none. -/
def get_allocation (guard : ScopeGuard) (memory_space : MemorySpaceType) (label : String) :
    Except Failure Nat :=
  if memory_space = .DEVICE ∧ !machine.has_device_space then throw no_device_space
  else pure (((guard.allocations memory_space).lookup label).getD 0)

/-- What is at the address of a label, unless the address is null. -/
def get_out_allocation (guard : ScopeGuard) (memory_space : MemorySpaceType) (label : String) :
    Except Failure (Option (List UInt8)) :=
  if memory_space = .DEVICE ∧ !machine.has_device_space then throw no_device_space
  else pure ((guard.output_allocations memory_space).lookup label)

/-- A registered address is found under its label in its memory space. -/
theorem set_allocation_lookup {machine : ReplayMachine} {memory_space : MemorySpaceType}
    (hdevice : memory_space = .DEVICE → machine.has_device_space = true) (guard : ScopeGuard)
    (other : MemorySpaceType) (key label : String) (address : Nat) :
    ((guard.set_allocation machine other key address).allocations memory_space).lookup label =
      if other = memory_space ∧ key = label then some address
      else (guard.allocations memory_space).lookup label := by
  unfold set_allocation
  by_cases hspace : other = memory_space
  · subst hspace
    have hno : ¬ (other = .DEVICE ∧ !machine.has_device_space) := by
      rintro ⟨htype, hhas⟩
      simp [hdevice htype] at hhas
    rw [if_neg hno]
    by_cases hlabel : key = label
    · subst hlabel
      simp
    · simp [hlabel, AList.lookup_insert_ne (Ne.symm hlabel)]
  · split <;> simp [hspace, Function.update_of_ne (Ne.symm hspace)]

/-- A table is changed and nothing else. -/
theorem set_allocation_rest (guard : ScopeGuard) (memory_space : MemorySpaceType) (label : String)
    (address : Nat) :
    guard.set_allocation machine memory_space label address = { guard with
      allocations := (guard.set_allocation machine memory_space label address).allocations } := by
  unfold set_allocation
  split <;> rfl

/-- The output has an allocation of the label in the memory space. -/
def has_out_allocation (guard : ScopeGuard) (memory_space : MemorySpaceType) (label : String) :
    Except Failure Bool :=
  if memory_space = .DEVICE ∧ !machine.has_device_space then throw no_device_space
  else pure (label ∈ guard.output_labels memory_space)

/-- An output is there if its label is known in an existing memory space. -/
theorem has_out_allocation_eq_true {machine : ReplayMachine} {guard : ScopeGuard}
    {memory_space : MemorySpaceType} {label : String} :
    guard.has_out_allocation machine memory_space label = .ok true ↔
      (memory_space = .DEVICE → machine.has_device_space = true) ∧ label ∈ guard.output_labels memory_space := by
  unfold has_out_allocation
  by_cases hno : memory_space = .DEVICE ∧ !machine.has_device_space
  · rw [if_pos hno]
    constructor
    · intro hthrow
      cases hthrow
    · rintro ⟨hdevice, _⟩
      simp [hdevice hno.1] at hno
  · rw [if_neg hno]
    have hdevice : memory_space = .DEVICE → machine.has_device_space = true := fun htype => by
      simpa [htype] using hno
    have hpure : (pure (decide (label ∈ guard.output_labels memory_space)) : Except Failure Bool) = .ok true ↔
        label ∈ guard.output_labels memory_space := by simp [pure, Except.pure]
    exact hpure.trans ⟨fun hlabel => ⟨hdevice, hlabel⟩, And.right⟩

/-- The address of the view which is compared, and what is at that of its reference. -/
def compare_views (guard : ScopeGuard) (memory_space : MemorySpaceType) (label : String) :
    Except Failure (Nat × Option (List UInt8)) := do
  let data ← guard.get_allocation machine memory_space label
  let has_out_allocation ← guard.has_out_allocation machine memory_space label
  if !has_out_allocation then
    throw (.runtime_error ("Reference output for view '" ++ label ++ "' is not available in the kernel dump"))
  let ref_data ← guard.get_out_allocation machine memory_space label
  pure (data, ref_data)

end ScopeGuard

end krepe
