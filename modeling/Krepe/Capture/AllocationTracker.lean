import Mathlib.Data.List.Sort
import Mathlib.Data.UInt
import Krepe.Common.UnorderedMap

open std

namespace krepe

/-- A `const void*`. -/
abbrev Pointer := UInt64

/-- What the tracker keeps of an allocation: its label and memory space as the hook received
    them, the address and the size of its data, the size which was reported to the hook, and
    whether the size of the data is known. -/
structure AllocationRecord where
  label : String
  space : String
  p_data : Pointer
  size : UInt64
  reported_size : UInt64
  data_size_known : Bool
  deriving DecidableEq, Repr

/-- An allocation of the tracker with the pointer it is recorded under. -/
structure ActiveAllocation where
  ptr : Pointer
  record : AllocationRecord
  deriving DecidableEq, Repr

/-- What a dump writes of the tracker: the allocations, and the sum of their sizes as a machine
    word. -/
structure AllocationSnapshot where
  active_bytes : UInt64
  allocations : List ActiveAllocation
  deriving DecidableEq, Repr

/-- The snapshot a visit of the tracker starts from. -/
def AllocationSnapshot.empty : AllocationSnapshot := ⟨0, []⟩

/-- A snapshot with one more allocation, whose size is added with the wrap of 64 bits. -/
def AllocationSnapshot.push (snapshot : AllocationSnapshot) (allocation : ActiveAllocation) :
    AllocationSnapshot :=
  ⟨snapshot.active_bytes + allocation.record.size, snapshot.allocations ++ [allocation]⟩

/-- The two tables of the tracker, each keyed by the name of a memory space: the pointers the
    functor was seen to use, and the allocations which are live. -/
structure AllocationTracker where
  used_allocations : UnorderedMap String (List Pointer)
  active_allocations : UnorderedMap String (UnorderedMap Pointer AllocationRecord)

namespace AllocationTracker

/-- The tracker before the first event. -/
def empty : AllocationTracker := ⟨∅, ∅⟩

/-- A new allocation replaces the one recorded at the same pointer of its memory space; the null
    pointer is not recorded. -/
def record_allocation (tracker : AllocationTracker) (label space : String) (ptr p_data : Pointer)
    (size reported_size : UInt64) (data_size_known : Bool) : AllocationTracker :=
  if ptr = 0 then tracker
  else
    let record := ⟨label, space, p_data, size, reported_size, data_size_known⟩
    let (bucket, active) := UnorderedMap.index tracker.active_allocations space ∅
    { tracker with active_allocations := active.insert space (bucket.insert ptr record) }

/-- Forgets the allocation at a pointer, and the memory space when nothing is left in it. -/
def record_deallocation (tracker : AllocationTracker) (space : String) (ptr : Pointer) :
    AllocationTracker :=
  if ptr = 0 then tracker
  else
    match tracker.active_allocations.lookup space with
    | none => tracker
    | some bucket =>
      let bucket := bucket.erase ptr
      if bucket.entries.isEmpty then
        { tracker with active_allocations := tracker.active_allocations.erase space }
      else
        { tracker with active_allocations := tracker.active_allocations.insert space bucket }

/-- Appends a pointer to those used of a memory space, without looking whether it is an
    allocation. -/
def record_used_allocation (tracker : AllocationTracker) (space : String) (ptr : Pointer) :
    AllocationTracker :=
  let (pointers, used) := UnorderedMap.index tracker.used_allocations space []
  { tracker with used_allocations := used.insert space (pointers ++ [ptr]) }

/-- Empties the list of used pointers of every memory space and keeps the memory spaces. -/
def clear_used_allocations (tracker : AllocationTracker) : AllocationTracker :=
  { tracker with
    used_allocations := UnorderedMap.map_values (fun _ => []) tracker.used_allocations }

/-- The first of the sorted pointers which is not below the data is at most its
    end. -/
def is_used (pointers : List Pointer) (record : AllocationRecord) : Bool :=
  match pointers.find? (record.p_data ≤ ·) with
  | some used_ptr => used_ptr ≤ record.p_data + record.size
  | none => false

/-- The allocations of one space which a registered pointer is in. -/
def snapshot_bucket (pointers : List Pointer) (bucket : UnorderedMap Pointer AllocationRecord)
    (snapshot : AllocationSnapshot) : AllocationSnapshot :=
  bucket.foldl
    (fun snapshot ptr record =>
      if is_used pointers record then snapshot.push ⟨ptr, record⟩ else snapshot)
    snapshot

/-- `active_allocations_[space]` makes a bucket for a space which has none. -/
def visit_used (state : AllocationSnapshot × UnorderedMap String (UnorderedMap Pointer AllocationRecord))
    (space : String) (pointers : List Pointer) :
    AllocationSnapshot × UnorderedMap String (UnorderedMap Pointer AllocationRecord) :=
  let (bucket, active) := UnorderedMap.index state.2 space ∅
  (snapshot_bucket pointers bucket state.1, active)

/-- `snapshot` of a build with compiler plugins. It sorts the registered
    pointers in place. -/
def snapshot_used (tracker : AllocationTracker) : AllocationSnapshot × AllocationTracker :=
  let used := UnorderedMap.map_values (·.mergeSort (· ≤ ·)) tracker.used_allocations
  let (snapshot, active) := used.foldl visit_used (AllocationSnapshot.empty, tracker.active_allocations)
  (snapshot, ⟨used, active⟩)

/-- `snapshot` of a build without compiler plugins. -/
def snapshot_active (tracker : AllocationTracker) : AllocationSnapshot :=
  tracker.active_allocations.foldl
    (fun snapshot _ bucket => bucket.foldl (fun snapshot ptr record => snapshot.push ⟨ptr, record⟩) snapshot)
    AllocationSnapshot.empty

/-- With the compiler plugins only the allocations that the functor uses, else all that are live. -/
def snapshot (compiler_plugins : Bool) (tracker : AllocationTracker) :
    AllocationSnapshot × AllocationTracker :=
  if compiler_plugins then tracker.snapshot_used else (tracker.snapshot_active, tracker)

end AllocationTracker

end krepe
