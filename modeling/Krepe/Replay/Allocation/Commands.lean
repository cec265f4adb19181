import Krepe.Replay.Allocation.Safe

namespace krepe.impl

/-- Every region is released once and as it was reserved, and by an object which
    is the only one that holds it. -/
structure Released (has_device_space : Bool) (garbage : Nat → MemorySpaceType) (operations : List Operation)
    (final : Objects) : Prop where
  once : ∀ reservation region, final.regions[reservation]? = some region →
    released reservation (run_deallocations has_device_space garbage operations Objects.empty) =
      [region.deallocation reservation]
  known : ∀ deallocation ∈ run_deallocations has_device_space garbage operations Objects.empty,
    ∃ reservation < final.regions.length, deallocation.address.reservation = some reservation
  alone : ∀ before operation after objects next, operations = before ++ operation :: after →
    run_operations before Objects.empty = some objects → operation.apply objects = some next →
    ∀ deallocation ∈ operation.deallocations has_device_space garbage objects, ∀ reservation,
      deallocation.address.reservation = some reservation → ¬ Held next reservation

section

variable {has_device_space : Bool} {garbage : Nat → MemorySpaceType} {objects final : Objects}
  {operations : List Operation}

/-- Ownership is kept by every run. -/
theorem Owned.run (howned : Owned objects) (hrun : run_operations operations objects = some final) :
    Owned final := by
  induction operations generalizing objects with
  | nil =>
    cases hrun
    exact howned
  | cons operation rest ih =>
    obtain ⟨next, happly, hnext⟩ := run_operations_cons.mp hrun
    exact ih (howned.apply happly) hnext

/-- What is not null was reserved. -/
theorem mem_run_deallocations (howned : Owned objects)
    (hrun : run_operations operations objects = some final) {deallocation : Deallocation}
    (hmem : deallocation ∈ run_deallocations has_device_space garbage operations objects) :
    ∃ reservation < final.regions.length, deallocation.address.reservation = some reservation := by
  induction operations generalizing objects with
  | nil => cases hmem
  | cons operation rest ih =>
    obtain ⟨next, happly, hnext⟩ := run_operations_cons.mp hrun
    simp only [run_deallocations, happly, Option.elim_some, List.mem_append] at hmem
    rcases hmem with hmem | hmem
    · obtain ⟨id, allocation, rfl, hobject, hmem⟩ := mem_deallocations hmem
      obtain ⟨haddress, -, hnull, -⟩ := mem_destroy hmem
      have hvalid := howned.valid id allocation hobject
      rw [haddress] at hnull ⊢
      cases hreservation : allocation.address.reservation with
      | none => exact absurd (hvalid.null hreservation) hnull
      | some reservation =>
        have hlt := howned.lt_of_holds ⟨allocation, hobject, hreservation⟩
        have hle := (regions_prefix_run hrun).length_le
        exact ⟨reservation, by omega, rfl⟩
    · exact ih (howned.apply happly) hnext hmem

/-- An object is the only one which holds what it releases. -/
theorem not_held_of_deallocation (howned : Owned objects) {operation : Operation} {next : Objects}
    (happly : operation.apply objects = some next) {deallocation : Deallocation}
    (hmem : deallocation ∈ operation.deallocations has_device_space garbage objects) {reservation : Nat}
    (hreservation : deallocation.address.reservation = some reservation) : ¬ Held next reservation := by
  obtain ⟨id, allocation, rfl, hobject, hmem⟩ := mem_deallocations hmem
  rw [(mem_destroy hmem).1] at hreservation
  exact not_held_destroy howned happly ⟨allocation, hobject, hreservation⟩

/-- A vector constructs objects only for the region which is added. -/
theorem construct_mem_emplace_back {grow : Nat → Nat} {vector : AllocationVector} {region added : Region}
    {next id : Nat} (hmem : .construct id region ∈ (vector.emplace_back grow added next).1) :
    region = added := by
  unfold AllocationVector.emplace_back at hmem
  split at hmem
  · obtain ⟨-, rfl⟩ := Operation.construct.inj (List.mem_singleton.mp hmem)
    rfl
  · rcases List.mem_cons.mp hmem with hmem | hmem
    · exact (Operation.construct.inj hmem).2
    · rcases List.mem_append.mp hmem with hmem | hmem
      · rw [← List.map_uncurry_zip_eq_zipWith] at hmem
        obtain ⟨⟨_, _⟩, _, hmoved⟩ := List.mem_map.mp hmem
        cases hmoved
      · obtain ⟨_, _, hdestroyed⟩ := List.mem_map.mp hmem
        cases hdestroyed

/-- Only regions of memory spaces which exist are reserved. -/
theorem reservable_of_construct {grow : Nat → Nat} {commands : List Command} {raw : RawAllocations}
    {id : Nat} {region : Region}
    (hmem : .construct id region ∈ command_operations has_device_space grow commands raw) :
    region.Reservable has_device_space := by
  induction commands generalizing raw with
  | nil => cases hmem
  | cons command rest ih =>
    rcases List.mem_append.mp hmem with hmem | hmem
    · cases command with
      | allocate added reserved =>
        simp only at hmem
        split at hmem
        · cases hmem
        · next hreserved =>
          obtain rfl := construct_mem_emplace_back hmem
          intro hdevice
          simpa [hdevice] using fun hmissing => hreserved (.inl ⟨hdevice, hmissing⟩)
      | move_construct other => cases List.mem_singleton.mp hmem
      | move_assign target other => cases List.mem_singleton.mp hmem
      | destroy target => cases List.mem_singleton.mp hmem
      | destroy_guard =>
        obtain ⟨_, _, hdestroyed⟩ := List.mem_map.mp hmem
        cases hdestroyed
    · exact ih hmem

/-- For any commands which run to the end with every object destroyed: whatever the storage of
    the objects holds before it is used, every reserved region is released once, by the
    deallocator of its memory space and with its size, if and only if every operation of the run
    is safe. -/
theorem released_iff_safe {grow : Nat → Nat} {commands : List Command}
    (hrun : run_operations (command_operations has_device_space grow commands RawAllocations.empty)
      Objects.empty = some final)
    (hdestroyed : ∀ id, final.object id = none) :
    (∀ garbage, Released has_device_space garbage
        (command_operations has_device_space grow commands RawAllocations.empty) final) ↔
      Safe (command_operations has_device_space grow commands RawAllocations.empty) := by
  constructor
  · intro hreleased
    exact safe_of_released Owned.empty Tracks.empty hrun fun garbage reservation region _ hregion =>
      (hreleased garbage).once reservation region hregion
  · intro hsafe garbage
    refine { once := ?_, known := ?_, alone := ?_ }
    · intro reservation region hregion
      obtain ⟨id, hconstruct⟩ :=
        (construct_of_mem_regions hrun (List.mem_of_getElem? hregion)).resolve_left (by simp [Objects.empty])
      exact released_of_safe Owned.empty Tracks.empty hsafe hrun hdestroyed (.inr (Nat.zero_le _)) hregion
        (address_ne_of_safe hsafe hrun hconstruct) (reservable_of_construct hconstruct)
    · intro deallocation hmem
      exact mem_run_deallocations Owned.empty hrun hmem
    · intro before operation after objects next _ hbefore happly deallocation hmem reservation hreservation
      exact not_held_of_deallocation (Owned.empty.run hbefore) happly hmem hreservation

/-- One region in each vector: no vector grows, so each region is released by the object which
    was made for it. -/
theorem released_iff_safe_example :
    let operations := command_operations true (fun capacity => max 1 (2 * capacity))
      [.allocate ⟨.HOST, 4096, 4096⟩ true, .allocate ⟨.DEVICE, 8192, 8192⟩ true, .destroy_guard] RawAllocations.empty
    Safe operations ∧ ∃ final, run_operations operations Objects.empty = some final ∧
      (∀ id, final.object id = none) ∧ ∀ garbage, Released true garbage operations final := by
  intro operations
  have hsafe : Safe operations := by
    have hhost : (4096 : Nat) ≠ 0 := by decide
    have hdevice : (8192 : Nat) ≠ 0 := by decide
    refine ⟨hhost, fun first hfirst => ⟨hdevice, fun second hsecond => ⟨?_, fun third hthird => ⟨?_, ?_⟩⟩⟩⟩
    · cases hfirst
      cases hsecond
      rintro reservation region ⟨allocation, hobject, hreservation⟩ hregion
      cases hobject
      cases hreservation
      cases hregion
      rfl
    · cases hfirst
      cases hsecond
      cases hthird
      rintro reservation region ⟨allocation, hobject, hreservation⟩ hregion
      cases hobject
      cases hreservation
      cases hregion
      rfl
    · exact fun _ _ => trivial
  have hdestroyed : ∀ id, Function.update (Function.update (Function.update (Function.update (fun _ => none)
      0 (some (.reserved 0 ⟨.HOST, 4096, 4096⟩))) 1 (some (.reserved 1 ⟨.DEVICE, 8192, 8192⟩))) 1 none) 0 none id =
        (none : Option Allocation) := by
    intro id
    by_cases hfirst : id = 0
    · simp [hfirst]
    · by_cases hsecond : id = 1 <;> simp [hfirst, hsecond, Function.update_of_ne]
  exact ⟨hsafe, _, rfl, hdestroyed, (released_iff_safe rfl hdestroyed).mpr hsafe⟩

/-- The second region makes the vector of the host grow, so the first is moved to
    storage whose old contents decide how it is released: not at all where there
    is no device. -/
theorem not_released_after_growth :
    ∃ final, run_operations (command_operations false (fun capacity => max 1 (2 * capacity))
          [.allocate ⟨.HOST, 4096, 4096⟩ true, .allocate ⟨.HOST, 16384, 4096⟩ true, .destroy_guard]
          RawAllocations.empty) Objects.empty = some final ∧ (∀ id, final.object id = none) ∧
      ¬ Released false (fun _ => .DEVICE)
        (command_operations false (fun capacity => max 1 (2 * capacity))
          [.allocate ⟨.HOST, 4096, 4096⟩ true, .allocate ⟨.HOST, 16384, 4096⟩ true, .destroy_guard]
          RawAllocations.empty) final := by
  refine ⟨_, rfl, fun id => ?_, fun hreleased => ?_⟩
  · match id with
    | 0 | 1 | 2 => rfl
    | _ + 3 => rfl
  · have honce := hreleased.once 0 ⟨.HOST, 4096, 4096⟩ rfl
    revert honce
    decide

end

end krepe.impl
