import Krepe.Capture.AllocationTracker

open std

namespace krepe

namespace AllocationTracker

/-- The bucket of a space, empty where the map has none. -/
def bucket (active : UnorderedMap String (UnorderedMap Pointer AllocationRecord)) (space : String) :
    UnorderedMap Pointer AllocationRecord :=
  (active.lookup space).getD ∅

/-- The record tracked for an address of a space. -/
def active_record (tracker : AllocationTracker) (space : String) (ptr : Pointer) :
    Option AllocationRecord :=
  (bucket tracker.active_allocations space).lookup ptr

/-- The pointers recorded as used in a memory space, in the order of their recording. -/
def used_pointers (tracker : AllocationTracker) (space : String) : List Pointer :=
  (tracker.used_allocations.lookup space).getD []

/-- A recorded allocation replaces the record of its memory space and pointer, and no other. -/
@[simp]
theorem record_allocation_active_record (tracker : AllocationTracker) (label space : String)
    (ptr p_data : Pointer) (size reported_size : UInt64) (data_size_known : Bool)
    (other : String) (address : Pointer) (hptr : ptr ≠ 0) :
    (tracker.record_allocation label space ptr p_data size reported_size data_size_known).active_record
        other address =
      if (space, ptr) = (other, address) then
        some ⟨label, space, p_data, size, reported_size, data_size_known⟩
      else tracker.active_record other address := by
  simp only [record_allocation, hptr, if_false, active_record, bucket, UnorderedMap.index_fst,
    Prod.mk.injEq]
  by_cases hspace : space = other
  · subst hspace
    rw [AList.lookup_insert, Option.getD_some]
    by_cases haddress : ptr = address
    · subst haddress
      simp
    · simp [haddress, AList.lookup_insert_ne (Ne.symm haddress)]
  · rw [AList.lookup_insert_ne (Ne.symm hspace), UnorderedMap.lookup_index, if_neg (Ne.symm hspace),
      if_neg fun heq => hspace heq.1]

/-- A deallocation removes the record of its memory space and pointer, and no other. -/
theorem record_deallocation_active_record (tracker : AllocationTracker) (space other : String)
    (ptr address : Pointer) (hptr : ptr ≠ 0) :
    (tracker.record_deallocation space ptr).active_record other address =
      if (space, ptr) = (other, address) then none else tracker.active_record other address := by
  simp only [record_deallocation, hptr, if_false, Prod.mk.injEq]
  have herase : ∀ entries : UnorderedMap Pointer AllocationRecord, (entries.erase ptr).lookup address =
      if ptr = address then none else entries.lookup address := by
    intro entries
    by_cases haddress : ptr = address
    · subst haddress
      simp
    · simp [haddress, AList.lookup_erase_ne (Ne.symm haddress)]
  by_cases hspace : space = other
  · subst hspace
    cases hlookup : tracker.active_allocations.lookup space with
    | none => simp [active_record, bucket, hlookup]
    | some entries =>
      by_cases hempty : (entries.erase ptr).entries.isEmpty = true
      · -- The bucket is removed when nothing is left in it.
        have hnothing := herase entries
        have hnil : entries.erase ptr = ∅ := AList.ext (List.isEmpty_iff.mp hempty)
        rw [hnil, AList.lookup_empty] at hnothing
        simp only [hempty, if_true, active_record, bucket, AList.lookup_erase, Option.getD_none,
          AList.lookup_empty, hlookup, Option.getD_some, true_and]
        exact hnothing
      · simp only [hempty, Bool.false_eq_true, if_false, active_record, bucket, AList.lookup_insert,
          Option.getD_some, hlookup, true_and]
        exact herase entries
  · rw [if_neg fun heq => hspace heq.1]
    cases hlookup : tracker.active_allocations.lookup space with
    | none => rfl
    | some entries =>
      simp only [active_record, bucket]
      split
      · rw [AList.lookup_erase_ne (Ne.symm hspace)]
      · rw [AList.lookup_insert_ne (Ne.symm hspace)]

@[simp]
theorem record_allocation_used_pointers (tracker : AllocationTracker) (label space : String)
    (ptr p_data : Pointer) (size reported_size : UInt64) (data_size_known : Bool) :
    (tracker.record_allocation label space ptr p_data size reported_size data_size_known).used_pointers =
      tracker.used_pointers := by
  unfold record_allocation
  split <;> rfl

@[simp]
theorem record_deallocation_used_pointers (tracker : AllocationTracker) (space : String)
    (ptr : Pointer) :
    (tracker.record_deallocation space ptr).used_pointers = tracker.used_pointers := by
  unfold record_deallocation
  split
  · rfl
  · split
    · rfl
    · dsimp only
      split <;> rfl

/-- A recorded use adds one pointer to one memory space. -/
theorem mem_record_used_allocation {tracker : AllocationTracker} {space other : String}
    {ptr q : Pointer} :
    q ∈ (tracker.record_used_allocation space ptr).used_pointers other ↔
      (space = other ∧ ptr = q) ∨ q ∈ tracker.used_pointers other := by
  simp only [record_used_allocation, used_pointers, UnorderedMap.index_fst]
  by_cases hspace : space = other
  · subst hspace
    simp [or_comm, eq_comm]
  · rw [AList.lookup_insert_ne (Ne.symm hspace), UnorderedMap.lookup_index, if_neg (Ne.symm hspace)]
    simp [hspace]

theorem clear_used_allocations_used_pointers (tracker : AllocationTracker) (space : String) :
    tracker.clear_used_allocations.used_pointers space = [] := by
  simp only [clear_used_allocations, used_pointers, UnorderedMap.lookup_map_values]
  cases tracker.used_allocations.lookup space <;> rfl

end AllocationTracker

end krepe
