import Krepe.Replay.Allocation.Owned

namespace krepe.impl

/-- The deallocations of a reserved region. -/
def released (reservation : Nat) (deallocations : List Deallocation) : List Deallocation :=
  deallocations.filter fun deallocation => deallocation.address.reservation = some reservation

@[simp]
theorem released_append (reservation : Nat) (first second : List Deallocation) :
    released reservation (first ++ second) = released reservation first ++ released reservation second :=
  List.filter_append _ _

/-- The deallocation of a region as it was reserved. -/
def Region.deallocation (region : Region) (reservation : Nat) : Deallocation :=
  ⟨region.memory_space, ⟨region.address, some reservation⟩, region.size⟩

section

variable {has_device_space : Bool} {garbage : Nat → MemorySpaceType} {objects next final : Objects}
  {operation : Operation} {operations : List Operation} {reservation : Nat}

/-- A destructor releases what its object holds, if it releases anything. -/
theorem mem_destroy {storage : MemorySpaceType} {allocation : Allocation} {deallocation : Deallocation}
    (hmem : deallocation ∈ allocation.destroy has_device_space storage) :
    deallocation.address = allocation.address ∧ deallocation.size = allocation.size ∧
      deallocation.address.address ≠ 0 ∧
      deallocation.deallocator = allocation.memory_space.getD storage := by
  unfold Allocation.destroy at hmem
  split at hmem
  · cases hmem
  · next hnull =>
    split at hmem
    · next hspace =>
      obtain rfl := List.mem_singleton.mp hmem
      exact ⟨rfl, rfl, hnull, hspace.symm⟩
    · next hspace =>
      split at hmem
      · obtain rfl := List.mem_singleton.mp hmem
        exact ⟨rfl, rfl, hnull, hspace.symm⟩
      · cases hmem

/-- Only the destruction of an object deallocates. -/
theorem mem_deallocations {deallocation : Deallocation}
    (hmem : deallocation ∈ operation.deallocations has_device_space garbage objects) :
    ∃ id allocation, operation = .destroy id ∧ objects.object id = some allocation ∧
      deallocation ∈ allocation.destroy has_device_space (garbage id) := by
  cases operation with
  | destroy id =>
    simp only [Operation.deallocations] at hmem
    cases hobject : objects.object id with
    | none =>
      rw [hobject] at hmem
      cases hmem
    | some allocation =>
      rw [hobject] at hmem
      exact ⟨id, allocation, rfl, hobject, hmem⟩
  | _ => cases hmem

/-- A region is not released by an operation which does not destroy its holder. -/
theorem released_eq_nil (hother : ∀ id, operation = .destroy id → ¬ Holds objects id reservation) :
    released reservation (operation.deallocations has_device_space garbage objects) = [] := by
  refine List.filter_eq_nil_iff.mpr fun deallocation hmem => ?_
  obtain ⟨id, allocation, rfl, hobject, hmem⟩ := mem_deallocations hmem
  obtain ⟨haddress, -⟩ := mem_destroy hmem
  simp only [decide_eq_true_eq, haddress]
  exact fun hreservation => hother id rfl ⟨allocation, hobject, hreservation⟩

/-- The destruction of an object which holds a region is the only release of that. -/
theorem released_destroy {id : Nat} {allocation : Allocation} (hobject : objects.object id = some allocation)
    (hreservation : allocation.address.reservation = some reservation) :
    released reservation ((Operation.destroy id).deallocations has_device_space garbage objects) =
      allocation.destroy has_device_space (garbage id) := by
  simp only [Operation.deallocations, hobject, Option.elim_some]
  refine List.filter_eq_self.mpr fun deallocation hmem => ?_
  obtain ⟨haddress, -⟩ := mem_destroy hmem
  simp [haddress, hreservation]

/-- No operation forgets a reserved region. -/
theorem regions_prefix_apply (happly : operation.apply objects = some next) :
    objects.regions <+: next.regions := by
  cases operation with
  | construct id region =>
    rw [(@holds_construct _ _ id 0 0 region happly).1]
    exact List.prefix_append _ _
  | default_construct id => rw [(@holds_default_construct _ _ id 0 0 happly).1]
  | move_construct id other => rw [(@holds_move_construct _ _ id other 0 0 happly).2.1]
  | move_assign id other => rw [(@holds_move_assign _ _ id other 0 0 happly).1]
  | destroy id => rw [(@holds_destroy _ _ id 0 0 happly).1]

/-- A run is its first operation and a run of the others. -/
theorem run_operations_cons :
    run_operations (operation :: operations) objects = some final ↔
      ∃ next, operation.apply objects = some next ∧ run_operations operations next = some final :=
  Option.bind_eq_some_iff

/-- No run forgets a reserved region. -/
theorem regions_prefix_run (hrun : run_operations operations objects = some final) :
    objects.regions <+: final.regions := by
  induction operations generalizing objects with
  | nil =>
    cases hrun
    exact List.prefix_refl _
  | cons operation rest ih =>
    obtain ⟨next, happly, hrun⟩ := run_operations_cons.mp hrun
    exact (regions_prefix_apply happly).trans (ih hrun)

/-- A reserved region which no object holds is lost. -/
theorem not_held_apply (happly : operation.apply objects = some next)
    (hlt : reservation < objects.regions.length) (hlost : ¬ Held objects reservation) :
    ¬ Held next reservation := by
  rintro ⟨holder, hholds⟩
  cases operation with
  | construct id region =>
    rw [(holds_construct happly).2] at hholds
    rcases hholds with ⟨-, rfl⟩ | hholds
    · exact Nat.lt_irrefl _ hlt
    · exact hlost ⟨holder, hholds⟩
  | default_construct id =>
    rw [(holds_default_construct happly).2] at hholds
    exact hlost ⟨holder, hholds⟩
  | move_construct id other =>
    rw [(holds_move_construct happly).2.2] at hholds
    split at hholds
    · exact hlost ⟨other, hholds⟩
    · exact hlost ⟨holder, hholds.2⟩
  | move_assign id other =>
    rw [(holds_move_assign happly).2] at hholds
    obtain ⟨-, hholds⟩ := hholds
    split at hholds
    · exact hlost ⟨other, hholds⟩
    · exact hlost ⟨holder, hholds⟩
  | destroy id =>
    rw [(holds_destroy happly).2] at hholds
    exact hlost ⟨holder, hholds.2⟩

/-- A lost region is never released. -/
theorem released_of_lost (hlt : reservation < objects.regions.length) (hlost : ¬ Held objects reservation) :
    released reservation (run_deallocations has_device_space garbage operations objects) = [] := by
  induction operations generalizing objects with
  | nil => rfl
  | cons operation rest ih =>
    rw [run_deallocations, released_append, released_eq_nil fun id _ hholds => hlost ⟨id, hholds⟩,
      List.nil_append]
    cases happly : operation.apply objects with
    | none => rfl
    | some next =>
      have hle := (regions_prefix_apply happly).length_le
      exact ih (by omega) (not_held_apply happly hlt hlost)

/-- A region at the null address is never released. -/
theorem address_ne_of_mem_run {deallocation : Deallocation}
    (hmem : deallocation ∈ run_deallocations has_device_space garbage operations objects) :
    deallocation.address.address ≠ 0 := by
  induction operations generalizing objects with
  | nil => cases hmem
  | cons operation rest ih =>
    rw [run_deallocations] at hmem
    rcases List.mem_append.mp hmem with hmem | hmem
    · obtain ⟨id, allocation, -, -, hmem⟩ := mem_deallocations hmem
      exact (mem_destroy hmem).2.2.1
    · cases happly : operation.apply objects with
      | none =>
        rw [happly] at hmem
        cases hmem
      | some next =>
        rw [happly] at hmem
        exact ih hmem

/-- A region which is still to be released after an operation is so before, and
    the operation does not release it. -/
theorem pending_before (howned : Owned objects) (happly : operation.apply objects = some next)
    (hpending : Held next reservation ∨ next.regions.length ≤ reservation) :
    (Held objects reservation ∨ objects.regions.length ≤ reservation) ∧
      released reservation (operation.deallocations has_device_space garbage objects) = [] := by
  have hle := (regions_prefix_apply happly).length_le
  by_cases hlt : reservation < objects.regions.length
  · have hnext : Held next reservation := hpending.resolve_right (by omega)
    have hheld : Held objects reservation := by
      by_contra hlost
      exact not_held_apply happly hlt hlost hnext
    refine ⟨.inl hheld, released_eq_nil ?_⟩
    rintro id rfl hholds
    obtain ⟨holder, hholder⟩ := hnext
    rw [(holds_destroy happly).2] at hholder
    exact hholder.1 (howned.unique _ _ _ hholder.2 hholds)
  · refine ⟨.inr (by omega), released_eq_nil fun id _ hholds => ?_⟩
    exact hlt (howned.lt_of_holds hholds)

end

end krepe.impl
