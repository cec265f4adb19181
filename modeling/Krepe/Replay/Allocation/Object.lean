import Krepe.Replay.Machine

namespace krepe.impl

/-- A region as it was reserved. -/
structure Region where
  memory_space : MemorySpaceType
  address : Nat
  size : Nat
  deriving DecidableEq, Repr

/-- A `void*`, and the reservation which its value came from, of which the
    program knows nothing. -/
structure RawPointer where
  address : Nat
  reservation : Option Nat
  deriving DecidableEq, Repr

/-- The pointer of an object that owns nothing. -/
def nullptr : RawPointer := ⟨0, none⟩

/-- A memory space of `none` is not initialized. -/
structure Allocation where
  address : RawPointer
  size : Nat
  memory_space : Option MemorySpaceType
  deriving DecidableEq, Repr

/-- A call of the deallocator of a memory space. -/
structure Deallocation where
  deallocator : MemorySpaceType
  address : RawPointer
  size : Nat
  deriving DecidableEq, Repr

namespace Allocation

/-- What the default constructor makes, which leaves the memory space unset. -/
def default : Allocation := ⟨nullptr, 0, none⟩

/-- The object for a successful reservation. -/
def reserved (reservation : Nat) (region : Region) : Allocation :=
  ⟨⟨region.address, some reservation⟩, region.size, some region.memory_space⟩

/-- `Allocation(Allocation&&)`, which leaves the memory space as it is. -/
def move_construct (other : Allocation) : Allocation := ⟨other.address, other.size, none⟩

/-- `operator=(Allocation&&)`, which neither releases what it replaces nor
    assigns the memory space. -/
def move_assign (allocation other : Allocation) : Allocation :=
  { allocation with address := other.address, size := other.size }

/-- What a move leaves behind: the null pointer and size zero. -/
def moved_from (other : Allocation) : Allocation := { other with address := nullptr, size := 0 }

/-- `~Allocation`. What an uninitialized memory space reads as is up to the storage. -/
def destroy (has_device_space : Bool) (garbage : MemorySpaceType) (allocation : Allocation) :
    List Deallocation :=
  if allocation.address.address = 0 then []
  else
    match allocation.memory_space.getD garbage with
    | .HOST => [⟨.HOST, allocation.address, allocation.size⟩]
    | .DEVICE => if has_device_space then [⟨.DEVICE, allocation.address, allocation.size⟩] else []

end Allocation

/-- The objects by their storage, and the regions reserved so far. -/
structure Objects where
  object : Nat → Option Allocation
  regions : List Region

/-- No object lives, and no region was reserved. -/
def Objects.empty : Objects := ⟨fun _ => none, []⟩

/-- What may happen to the objects. A constructor takes storage without an object. -/
inductive Operation where
  | construct (id : Nat) (region : Region)
  | default_construct (id : Nat)
  | move_construct (id other : Nat)
  | move_assign (id other : Nat)
  | destroy (id : Nat)
  deriving DecidableEq, Repr

namespace Operation

/-- One operation, where the storage of a new object has to be free and the operands have to
    live. -/
def apply : Operation → Objects → Option Objects
  | .construct id region, ⟨object, regions⟩ =>
    match object id with
    | none => some ⟨Function.update object id (some (.reserved regions.length region)), regions ++ [region]⟩
    | some _ => none
  | .default_construct id, ⟨object, regions⟩ =>
    match object id with
    | none => some ⟨Function.update object id (some .default), regions⟩
    | some _ => none
  | .move_construct id other, ⟨object, regions⟩ =>
    match object id, object other with
    | none, some source =>
      some ⟨Function.update (Function.update object id (some source.move_construct)) other
        (some source.moved_from), regions⟩
    | _, _ => none
  | .move_assign id other, ⟨object, regions⟩ =>
    match object id, object other with
    | some target, some source =>
      some ⟨Function.update (Function.update object id (some (target.move_assign source))) other
        (some source.moved_from), regions⟩
    | _, _ => none
  | .destroy id, ⟨object, regions⟩ =>
    match object id with
    | some _ => some ⟨Function.update object id none, regions⟩
    | none => none

/-- The deallocations of an operation. `garbage` is what storage holds before an
    object is constructed in it. -/
def deallocations (has_device_space : Bool) (garbage : Nat → MemorySpaceType) (objects : Objects) :
    Operation → List Deallocation
  | .destroy id => (objects.object id).elim [] (Allocation.destroy has_device_space (garbage id))
  | _ => []

end Operation

/-- The operations in their order, if all of them are possible. -/
def run_operations : List Operation → Objects → Option Objects
  | [], objects => some objects
  | operation :: rest, objects => (operation.apply objects).bind (run_operations rest)

/-- What the destructors of a run give back, in their order. -/
def run_deallocations (has_device_space : Bool) (garbage : Nat → MemorySpaceType) :
    List Operation → Objects → List Deallocation
  | [], _ => []
  | operation :: rest, objects =>
    operation.deallocations has_device_space garbage objects ++
      (operation.apply objects).elim [] (run_deallocations has_device_space garbage rest)

/-- A `std::vector<Allocation>`: the storage of its elements. -/
structure AllocationVector where
  elements : List Nat
  capacity : Nat

/-- `emplace_back` with storage from `next` on. A vector which is full constructs
    its elements anew in larger storage, by moves. -/
def AllocationVector.emplace_back (grow : Nat → Nat) (vector : AllocationVector) (region : Region)
    (next : Nat) : List Operation × AllocationVector × Nat :=
  if vector.elements.length < vector.capacity then
    ([.construct next region], { vector with elements := vector.elements ++ [next] }, next + 1)
  else
    let moved := List.range' (next + 1) vector.elements.length
    (.construct next region ::
      (List.zipWith .move_construct moved vector.elements ++ vector.elements.map .destroy),
      ⟨moved ++ [next], grow vector.capacity⟩, next + 1 + vector.elements.length)

/-- The vectors of the guard, and the next unused storage. -/
structure RawAllocations where
  vector : MemorySpaceType → AllocationVector
  next : Nat

/-- Two empty vectors, and no object made. -/
def RawAllocations.empty : RawAllocations := ⟨fun _ => ⟨[], 0⟩, 0⟩

/-- What a program does with allocations. A reservation in `allocate` may fail,
    and then throws. -/
inductive Command where
  | allocate (region : Region) (reserved : Bool)
  | move_construct (other : Nat)
  | move_assign (id other : Nat)
  | destroy (id : Nat)
  | destroy_guard

namespace Command

variable (has_device_space : Bool) (grow : Nat → Nat)

/-- The operations on objects which a command comes to: an element that a vector moves when it
    grows is move-constructed and destroyed, and the guard destroys what its vectors hold. -/
def operations (raw : RawAllocations) : Command → List Operation × RawAllocations
  | .allocate region reserved =>
    -- `ScopeGuard::allocate` or the constructor throws
    if region.memory_space = .DEVICE ∧ !has_device_space ∨ !reserved then ([], raw)
    else
      let (operations, vector, next) :=
        (raw.vector region.memory_space).emplace_back grow region raw.next
      (operations, ⟨Function.update raw.vector region.memory_space vector, next⟩)
  | .move_construct other => ([.move_construct raw.next other], { raw with next := raw.next + 1 })
  | .move_assign id other => ([.move_assign id other], raw)
  | .destroy id => ([.destroy id], raw)
  | .destroy_guard =>
    (((raw.vector .DEVICE).elements ++ (raw.vector .HOST).elements).map .destroy,
      { raw with vector := fun _ => ⟨[], 0⟩ })

end Command

/-- The operations of several commands in their order. -/
def command_operations (has_device_space : Bool) (grow : Nat → Nat) :
    List Command → RawAllocations → List Operation
  | [], _ => []
  | command :: rest, raw =>
    let (operations, next) := command.operations has_device_space grow raw
    operations ++ command_operations has_device_space grow rest next

end krepe.impl
