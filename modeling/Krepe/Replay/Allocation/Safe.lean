import Krepe.Replay.Allocation.Release

namespace krepe.impl

/-- How the objects were made, after an operation: for a region of a memory space, or by a
    move or without a region. An assignment does not change it. -/
def Operation.made (made : Nat → Option MemorySpaceType) : Operation → Nat → Option MemorySpaceType
  | .construct id region => Function.update made id (some region.memory_space)
  | .default_construct id => Function.update made id none
  | .move_construct id _ => Function.update made id none
  | .move_assign _ _ => made
  | .destroy _ => made

/-- What has to hold before an operation, so that no region is lost or goes to
    the wrong deallocator: no region is at the null address, no assignment
    replaces a region, and an object which holds a region when it is destroyed was
    made for a region of the same memory space, and not by a move. -/
def Operation.Safe (made : Nat → Option MemorySpaceType) (objects : Objects) : Operation → Prop
  | .construct _ region => region.address ≠ 0
  | .move_assign id _ => ∀ reservation, ¬ Holds objects id reservation
  | .destroy id => ∀ reservation region, Holds objects id reservation →
      objects.regions[reservation]? = some region → made id = some region.memory_space
  | _ => True

/-- Every operation is safe when its turn comes. -/
def SafeFrom : List Operation → (Nat → Option MemorySpaceType) → Objects → Prop
  | [], _, _ => True
  | operation :: rest, made, objects =>
    operation.Safe made objects ∧
      ∀ next, operation.apply objects = some next → SafeFrom rest (operation.made made) next

/-- Every operation of a run is safe, from the start when no object lives. -/
def Safe (operations : List Operation) : Prop := SafeFrom operations (fun _ => none) Objects.empty

/-- The memory space of an object says how it was made. -/
def Tracks (made : Nat → Option MemorySpaceType) (objects : Objects) : Prop :=
  ∀ id allocation, objects.object id = some allocation → allocation.memory_space = made id

theorem Tracks.empty : Tracks (fun _ => none) Objects.empty := by
  intro id allocation hobject
  cases hobject

section

variable {made : Nat → Option MemorySpaceType} {object : Nat → Option Allocation} {regions : List Region}
  {objects next : Objects} {operation : Operation} {id : Nat} {value : Allocation}

/-- An object which is made in some storage. -/
theorem Tracks.update {added : List Region} (htracks : Tracks made ⟨object, regions⟩) :
    Tracks (Function.update made id value.memory_space) ⟨Function.update object id (some value), added⟩ := by
  intro holder allocation hobject
  dsimp only at hobject
  by_cases hid : holder = id
  · subst hid
    rw [Function.update_self] at hobject ⊢
    cases hobject
    rfl
  · rw [Function.update_of_ne hid] at hobject ⊢
    exact htracks holder allocation hobject

/-- An object which is changed in its place. -/
theorem Tracks.change (htracks : Tracks made ⟨object, regions⟩) (hvalue : value.memory_space = made id) :
    Tracks made ⟨Function.update object id (some value), regions⟩ := by
  have hsame := @Tracks.update made object regions id value regions htracks
  rwa [hvalue, Function.update_eq_self] at hsame

/-- Every operation leaves objects whose memory space says how they were made. -/
theorem Tracks.apply (htracks : Tracks made objects) (happly : operation.apply objects = some next) :
    Tracks (operation.made made) next := by
  cases operation with
  | construct id region =>
    simp only [Operation.apply] at happly
    split at happly
    · cases happly
      exact htracks.update
    · cases happly
  | default_construct id =>
    simp only [Operation.apply] at happly
    split at happly
    · cases happly
      exact htracks.update
    · cases happly
  | move_construct id other =>
    simp only [Operation.apply] at happly
    split at happly
    · next source hfree hother =>
      cases happly
      have hne : other ≠ id := by
        rintro rfl
        rw [hfree] at hother
        cases hother
      have hmoved : source.moved_from.memory_space = Function.update made id none other := by
        rw [Function.update_of_ne hne]
        exact htracks other source hother
      exact htracks.update.change hmoved
    · cases happly
  | move_assign id other =>
    simp only [Operation.apply] at happly
    split at happly
    · next target source htarget hother =>
      cases happly
      have hassigned : (target.move_assign source).memory_space = made id := htracks id target htarget
      have hmoved : source.moved_from.memory_space = made other := htracks other source hother
      exact (htracks.change hassigned).change hmoved
    · cases happly
  | destroy id =>
    simp only [Operation.apply] at happly
    split at happly
    · cases happly
      intro holder allocation hobject
      dsimp only at hobject
      by_cases hid : holder = id
      · subst hid
        rw [Function.update_self] at hobject
        cases hobject
      · rw [Function.update_of_ne hid] at hobject
        exact htracks holder allocation hobject
    · cases happly

end

/-- A region of a memory space which exists. -/
def Region.Reservable (has_device_space : Bool) (region : Region) : Prop :=
  region.memory_space = .DEVICE → has_device_space = true

section

variable {has_device_space : Bool} {garbage : Nat → MemorySpaceType} {made : Nat → Option MemorySpaceType}
  {objects next final : Objects} {operation : Operation} {operations : List Operation} {reservation : Nat}

/-- An object with the memory space of its region releases the region. -/
theorem Allocation.Valid.destroy_eq {storage : MemorySpaceType} {region : Region} {allocation : Allocation}
    (hvalid : allocation.Valid objects.regions) (hreservation : allocation.address.reservation = some reservation)
    (hregion : objects.regions[reservation]? = some region) (hnull : region.address ≠ 0)
    (hspace : allocation.memory_space = some region.memory_space)
    (hdevice : region.Reservable has_device_space) :
    allocation.destroy has_device_space storage = [region.deallocation reservation] := by
  obtain ⟨held, hheld, haddress, hsize⟩ := hvalid.own reservation hreservation
  obtain rfl : held = region := Option.some.inj (hheld.symm.trans hregion)
  have hpointer : allocation.address = ⟨held.address, some reservation⟩ := by
    rw [← haddress, ← hreservation]
  rw [Allocation.destroy, haddress, if_neg hnull, hspace, Option.getD_some, hpointer, hsize,
    Region.deallocation]
  cases hmemory : held.memory_space with
  | HOST => rfl
  | DEVICE => exact if_pos (hdevice hmemory)

/-- A safe operation keeps a region with an object unless it destroys that one. -/
theorem held_apply (hsafe : operation.Safe made objects) (happly : operation.apply objects = some next)
    {holder : Nat} (hholds : Holds objects holder reservation) :
    Held next reservation ∨ operation = .destroy holder := by
  cases operation with
  | construct id region => exact .inl ⟨holder, (holds_construct happly).2.mpr (.inr hholds)⟩
  | default_construct id => exact .inl ⟨holder, (holds_default_construct happly).2.mpr hholds⟩
  | move_construct id other =>
    have hne : holder ≠ id := by
      rintro rfl
      obtain ⟨allocation, hobject, -⟩ := hholds
      rw [(@holds_move_construct _ _ holder other 0 0 happly).1] at hobject
      cases hobject
    by_cases hother : holder = other
    · subst hother
      exact .inl ⟨id, (holds_move_construct happly).2.2.mpr (by rwa [if_pos rfl])⟩
    · exact .inl ⟨holder, (holds_move_construct happly).2.2.mpr (by rw [if_neg hne]; exact ⟨hother, hholds⟩)⟩
  | move_assign id other =>
    have hne : holder ≠ id := by
      rintro rfl
      exact hsafe reservation hholds
    by_cases hother : holder = other
    · subst hother
      exact .inl ⟨id, (holds_move_assign happly).2.mpr ⟨hne.symm, by rwa [if_pos rfl]⟩⟩
    · exact .inl ⟨holder, (holds_move_assign happly).2.mpr ⟨hother, by rwa [if_neg hne]⟩⟩
  | destroy id =>
    by_cases hne : holder = id
    · exact .inr (by rw [hne])
    · exact .inl ⟨holder, (holds_destroy happly).2.mpr ⟨hne, hholds⟩⟩

/-- Only a construction reserves a region, which is then held by its object. -/
theorem held_of_new (happly : operation.apply objects = some next)
    (hle : objects.regions.length ≤ reservation) (hlt : reservation < next.regions.length) :
    Held next reservation := by
  cases operation with
  | construct id region =>
    rw [(@holds_construct _ _ id 0 0 region happly).1, List.length_append, List.length_singleton] at hlt
    exact ⟨id, (holds_construct happly).2.mpr (.inl ⟨rfl, by omega⟩)⟩
  | default_construct id =>
    rw [(@holds_default_construct _ _ id 0 0 happly).1] at hlt
    omega
  | move_construct id other =>
    rw [(@holds_move_construct _ _ id other 0 0 happly).2.1] at hlt
    omega
  | move_assign id other =>
    rw [(@holds_move_assign _ _ id other 0 0 happly).1] at hlt
    omega
  | destroy id =>
    rw [(@holds_destroy _ _ id 0 0 happly).1] at hlt
    omega

/-- The destruction of the object which holds a region is the last thing that
    happens to the region. -/
theorem not_held_destroy {id : Nat} (howned : Owned objects)
    (happly : (Operation.destroy id).apply objects = some next) (hholds : Holds objects id reservation) :
    ¬ Held next reservation := by
  rintro ⟨other, hother⟩
  rw [(holds_destroy happly).2] at hother
  exact hother.1 (howned.unique _ _ _ hother.2 hholds)

theorem getElem?_eq_of_start {A : Type} {left right : List A} (hstarts : left <+: right) {index : Nat}
    (hlt : index < left.length) : left[index]? = right[index]? := by
  obtain ⟨rest, rfl⟩ := hstarts
  exact (List.getElem?_append_left hlt).symm

/-- In a safe run every region is released as it was reserved, once. -/
theorem released_of_safe (howned : Owned objects) (htracks : Tracks made objects)
    (hsafe : SafeFrom operations made objects)
    (hrun : run_operations operations objects = some final)
    (hdestroyed : ∀ id, final.object id = none)
    (hpending : Held objects reservation ∨ objects.regions.length ≤ reservation) {region : Region}
    (hregion : final.regions[reservation]? = some region) (hnull : region.address ≠ 0)
    (hdevice : region.Reservable has_device_space) :
    released reservation (run_deallocations has_device_space garbage operations objects) =
      [region.deallocation reservation] := by
  have hlt := (List.getElem?_eq_some_iff.mp hregion).1
  induction operations generalizing objects made with
  | nil =>
    cases hrun
    rcases hpending with ⟨holder, allocation, hobject, -⟩ | hlater
    · rw [hdestroyed holder] at hobject
      cases hobject
    · omega
  | cons operation rest ih =>
    obtain ⟨hfirst, hrest⟩ := hsafe
    obtain ⟨next, happly, hnext⟩ := run_operations_cons.mp hrun
    have hlater := ih (howned.apply happly) (htracks.apply happly) (hrest next happly) hnext
    simp only [run_deallocations, happly, Option.elim_some, released_append]
    have hkept : Held next reservation ∨ next.regions.length ≤ reservation →
        released reservation (operation.deallocations has_device_space garbage objects) ++
          released reservation (run_deallocations has_device_space garbage rest next) =
            [region.deallocation reservation] := by
      intro hafter
      rw [(pending_before howned happly hafter).2, List.nil_append, hlater hafter]
    rcases hpending with ⟨holder, hholds⟩ | hunreserved
    · rcases held_apply hfirst happly hholds with hafter | rfl
      · exact hkept (.inl hafter)
      · have hbefore := howned.lt_of_holds hholds
        have hlost := not_held_destroy howned happly hholds
        have hstart : objects.regions[reservation]? = some region :=
          (getElem?_eq_of_start ((regions_prefix_apply happly).trans (regions_prefix_run hnext)) hbefore).trans
            hregion
        have hnextLength := (regions_prefix_apply happly).length_le
        have hmade := hfirst _ _ hholds hstart
        obtain ⟨allocation, hobject, hreservation⟩ := hholds
        rw [released_destroy hobject hreservation, released_of_lost (by omega) hlost, List.append_nil]
        exact (howned.valid _ _ hobject).destroy_eq hreservation hstart hnull
          ((htracks _ _ hobject).trans hmade) hdevice
    · by_cases hnew : reservation < next.regions.length
      · exact hkept (.inl (held_of_new happly hunreserved hnew))
      · exact hkept (.inr (by omega))

/-- The regions of a run are those its objects are constructed for. -/
theorem construct_of_mem_regions (hrun : run_operations operations objects = some final) {region : Region}
    (hregion : region ∈ final.regions) :
    region ∈ objects.regions ∨ ∃ id, .construct id region ∈ operations := by
  induction operations generalizing objects with
  | nil =>
    cases hrun
    exact .inl hregion
  | cons operation rest ih =>
    obtain ⟨next, happly, hnext⟩ := run_operations_cons.mp hrun
    rcases ih hnext with hmem | ⟨id, hmem⟩
    · cases operation with
      | construct id added =>
        rw [(@holds_construct _ _ id 0 0 added happly).1] at hmem
        rcases List.mem_append.mp hmem with hmem | hmem
        · exact .inl hmem
        · obtain rfl := List.mem_singleton.mp hmem
          exact .inr ⟨id, List.mem_cons_self⟩
      | default_construct id => exact .inl ((@holds_default_construct _ _ id 0 0 happly).1 ▸ hmem)
      | move_construct id other => exact .inl ((@holds_move_construct _ _ id other 0 0 happly).2.1 ▸ hmem)
      | move_assign id other => exact .inl ((@holds_move_assign _ _ id other 0 0 happly).1 ▸ hmem)
      | destroy id => exact .inl ((@holds_destroy _ _ id 0 0 happly).1 ▸ hmem)
    · exact .inr ⟨id, List.mem_cons_of_mem _ hmem⟩

/-- A region of a safe run is at an address other than null. -/
theorem address_ne_of_safe (hsafe : SafeFrom operations made objects)
    (hrun : run_operations operations objects = some final) {id : Nat} {region : Region}
    (hconstruct : .construct id region ∈ operations) : region.address ≠ 0 := by
  induction operations generalizing objects made with
  | nil => cases hconstruct
  | cons operation rest ih =>
    obtain ⟨next, happly, hnext⟩ := run_operations_cons.mp hrun
    rcases List.mem_cons.mp hconstruct with rfl | hconstruct
    · exact hsafe.1
    · exact ih (hsafe.2 next happly) hnext hconstruct

/-- A run which releases every region as it was reserved, whatever storage holds
    before it is used, is safe. -/
theorem safe_of_released (howned : Owned objects) (htracks : Tracks made objects)
    (hrun : run_operations operations objects = some final)
    (hreleased : ∀ garbage reservation region, Held objects reservation ∨ objects.regions.length ≤ reservation →
      final.regions[reservation]? = some region →
      released reservation (run_deallocations has_device_space garbage operations objects) =
        [region.deallocation reservation]) :
    SafeFrom operations made objects := by
  induction operations generalizing objects made with
  | nil => trivial
  | cons operation rest ih =>
    obtain ⟨next, happly, hnext⟩ := run_operations_cons.mp hrun
    have hstarts := (regions_prefix_apply happly).trans (regions_prefix_run hnext)
    have hsplit : ∀ garbage reservation,
        released reservation (run_deallocations has_device_space garbage (operation :: rest) objects) =
          released reservation (operation.deallocations has_device_space garbage objects) ++
            released reservation (run_deallocations has_device_space garbage rest next) := by
      intro garbage reservation
      simp only [run_deallocations, happly, Option.elim_some, released_append]
    -- a region which the operation loses is not released
    have hlost : ∀ garbage holder reservation, Holds objects holder reservation → ¬ Held next reservation →
        ∃ region, objects.regions[reservation]? = some region ∧
          released reservation (operation.deallocations has_device_space garbage objects) =
            [region.deallocation reservation] := by
      intro garbage holder reservation hholds hafter
      have hlt := howned.lt_of_holds hholds
      have hlength := (regions_prefix_apply happly).length_le
      have hstart := List.getElem?_eq_getElem hlt
      refine ⟨_, hstart, ?_⟩
      have hall := hreleased garbage reservation _ (.inl ⟨holder, hholds⟩)
        ((getElem?_eq_of_start hstarts hlt).symm.trans hstart)
      rwa [hsplit, released_of_lost (by omega) hafter, List.append_nil] at hall
    refine ⟨?_, fun other hother => ?_⟩
    · cases operation with
      | construct id region =>
        intro hnull
        have hregions := (@holds_construct _ _ id 0 0 region happly).1
        have hlt : objects.regions.length < next.regions.length := by simp [hregions]
        have hregion : final.regions[objects.regions.length]? = some region := by
          rw [← getElem?_eq_of_start (regions_prefix_run hnext) hlt, hregions]
          simp
        have hall := hreleased (fun _ => .HOST) _ region (.inr (Nat.le_refl _)) hregion
        have hmem : region.deallocation objects.regions.length ∈ released objects.regions.length
            (run_deallocations has_device_space (fun _ => .HOST) (.construct id region :: rest) objects) := by
          rw [hall]
          exact List.mem_singleton_self _
        exact address_ne_of_mem_run (List.mem_of_mem_filter hmem) hnull
      | default_construct id => trivial
      | move_construct id other => trivial
      | move_assign id other =>
        intro reservation hholds
        have hafter : ¬ Held next reservation := by
          rintro ⟨holder, hholder⟩
          rw [(holds_move_assign happly).2] at hholder
          obtain ⟨hne, hholder⟩ := hholder
          split at hholder
          · next hid => exact hne (hid.trans (howned.unique _ _ _ hholds hholder))
          · next hid => exact hid (howned.unique _ _ _ hholder hholds)
        obtain ⟨region, _, hall⟩ := hlost (fun _ => .HOST) id reservation hholds hafter
        cases hall
      | destroy id =>
        intro reservation region hholds hregion
        have hafter := not_held_destroy howned happly hholds
        have hholder := hholds
        obtain ⟨allocation, hobject, hreservation⟩ := hholder
        -- whatever the storage of the object reads as
        have hdeallocator : ∀ storage, allocation.memory_space.getD storage = region.memory_space := by
          intro storage
          obtain ⟨held, hheld, hall⟩ := hlost (fun _ => storage) id reservation hholds hafter
          obtain rfl : held = region := Option.some.inj (hheld.symm.trans hregion)
          rw [released_destroy hobject hreservation] at hall
          have hmem : held.deallocation reservation ∈ allocation.destroy has_device_space storage := by
            rw [hall]
            exact List.mem_singleton_self _
          exact (mem_destroy hmem).2.2.2.symm
        rw [← htracks id allocation hobject]
        cases hspace : allocation.memory_space with
        | some memory_space =>
          rw [← hdeallocator .HOST, hspace, Option.getD_some]
        | none =>
          rw [hspace] at hdeallocator
          have hcontradiction := (hdeallocator .HOST).trans (hdeallocator .DEVICE).symm
          cases hcontradiction
    · obtain rfl : next = other := Option.some.inj (happly.symm.trans hother)
      refine ih (howned.apply happly) (htracks.apply happly) hnext fun garbage reservation region hpending hregion => ?_
      obtain ⟨hbefore, hnone⟩ := pending_before howned happly hpending
      have hall := hreleased garbage reservation region hbefore hregion
      rwa [hsplit, hnone, List.nil_append] at hall

end

end krepe.impl
