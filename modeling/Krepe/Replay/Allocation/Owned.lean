import Krepe.Replay.Allocation.Object

namespace krepe.impl

/-- An object holds a reserved region with its own address and size, or nothing. -/
structure Allocation.Valid (regions : List Region) (allocation : Allocation) : Prop where
  own : ∀ reservation, allocation.address.reservation = some reservation →
    ∃ region, regions[reservation]? = some region ∧ allocation.address.address = region.address ∧
      allocation.size = region.size
  null : allocation.address.reservation = none → allocation.address.address = 0

namespace Allocation.Valid

variable {regions : List Region} {allocation other : Allocation}

theorem default : Valid regions Allocation.default := ⟨by simp [Allocation.default, nullptr], fun _ => rfl⟩

theorem moved_from : Valid regions other.moved_from := ⟨by simp [Allocation.moved_from, nullptr], fun _ => rfl⟩

theorem move_construct (hother : Valid regions other) : Valid regions other.move_construct :=
  ⟨hother.own, hother.null⟩

theorem move_assign (hother : Valid regions other) : Valid regions (allocation.move_assign other) :=
  ⟨hother.own, hother.null⟩

theorem reserved {region : Region} :
    Valid (regions ++ [region]) (Allocation.reserved regions.length region) where
  own := by simp [Allocation.reserved]
  null := by simp [Allocation.reserved]

theorem append (hvalid : Valid regions allocation) (region : Region) :
    Valid (regions ++ [region]) allocation where
  own reservation hreservation := by
    obtain ⟨held, hheld, hown⟩ := hvalid.own reservation hreservation
    have hlt := (List.getElem?_eq_some_iff.mp hheld).1
    exact ⟨held, by rw [List.getElem?_append_left hlt, hheld], hown⟩
  null := hvalid.null

end Allocation.Valid

/-- The object of some storage holds a reservation. -/
def Holds (objects : Objects) (id reservation : Nat) : Prop :=
  ∃ allocation, objects.object id = some allocation ∧ allocation.address.reservation = some reservation

/-- Some object holds the region of a reservation. -/
def Held (objects : Objects) (reservation : Nat) : Prop := ∃ id, Holds objects id reservation

/-- Each reservation is held by one object at most. -/
structure Owned (objects : Objects) : Prop where
  valid : ∀ id allocation, objects.object id = some allocation → allocation.Valid objects.regions
  unique : ∀ left right reservation, Holds objects left reservation → Holds objects right reservation →
    left = right

theorem Owned.empty : Owned Objects.empty where
  valid := by simp [Objects.empty]
  unique := by simp [Holds, Objects.empty]

/-- Only reserved regions are held. -/
theorem Owned.lt_of_holds {objects : Objects} (howned : Owned objects) {id reservation : Nat}
    (hholds : Holds objects id reservation) : reservation < objects.regions.length := by
  obtain ⟨allocation, hobject, hreservation⟩ := hholds
  obtain ⟨_, hregion, _⟩ := (howned.valid id allocation hobject).own reservation hreservation
  exact (List.getElem?_eq_some_iff.mp hregion).1

section

variable {objects next : Objects} {id other holder reservation : Nat}

/-- An object which is changed holds what its new value does, and the others what they held. -/
theorem Holds.update {object : Nat → Option Allocation} {regions : List Region} {value : Option Allocation} :
    Holds ⟨Function.update object id value, regions⟩ holder reservation ↔
      if holder = id then ∃ allocation, value = some allocation ∧
        allocation.address.reservation = some reservation
      else Holds ⟨object, regions⟩ holder reservation := by
  unfold Holds
  by_cases hid : holder = id
  · subst hid
    simp
  · simp [hid]

/-- A reservation is held by the object which is constructed for it. -/
theorem holds_construct {region : Region}
    (happly : (Operation.construct id region).apply objects = some next) :
    next.regions = objects.regions ++ [region] ∧ (Holds next holder reservation ↔
      (holder = id ∧ reservation = objects.regions.length) ∨ Holds objects holder reservation) := by
  simp only [Operation.apply] at happly
  split at happly
  · next hfree =>
    cases happly
    refine ⟨rfl, Holds.update.trans ?_⟩
    by_cases hid : holder = id
    · subst hid
      simp [Holds, hfree, Allocation.reserved, eq_comm]
    · simp [hid, Holds]
  · cases happly

theorem holds_default_construct (happly : (Operation.default_construct id).apply objects = some next) :
    next.regions = objects.regions ∧ (Holds next holder reservation ↔ Holds objects holder reservation) := by
  simp only [Operation.apply] at happly
  split at happly
  · next hfree =>
    cases happly
    refine ⟨rfl, Holds.update.trans ?_⟩
    by_cases hid : holder = id
    · subst hid
      simp [Holds, hfree, Allocation.default, nullptr]
    · simp [hid, Holds]
  · cases happly

/-- A move hands over what the other object holds. -/
theorem holds_move_construct (happly : (Operation.move_construct id other).apply objects = some next) :
    objects.object id = none ∧ next.regions = objects.regions ∧ (Holds next holder reservation ↔
      if holder = id then Holds objects other reservation
      else holder ≠ other ∧ Holds objects holder reservation) := by
  simp only [Operation.apply] at happly
  split at happly
  · next source hfree hother =>
    cases happly
    have hne : id ≠ other := by
      rintro rfl
      rw [hfree] at hother
      cases hother
    refine ⟨hfree, rfl, Holds.update.trans ?_⟩
    rw [Holds.update]
    by_cases hsource : holder = other
    · subst hsource
      simp [hne.symm, Allocation.moved_from, nullptr]
    · by_cases hid : holder = id
      · subst hid
        simp [hsource, Holds, hother, Allocation.move_construct]
      · simp [hsource, hid, Holds]
  · cases happly

/-- What the target of an assignment held is held by no object any more. -/
theorem holds_move_assign (happly : (Operation.move_assign id other).apply objects = some next) :
    next.regions = objects.regions ∧ (Holds next holder reservation ↔
      holder ≠ other ∧ if holder = id then Holds objects other reservation
        else Holds objects holder reservation) := by
  simp only [Operation.apply] at happly
  split at happly
  · next target source htarget hother =>
    cases happly
    refine ⟨rfl, Holds.update.trans ?_⟩
    rw [Holds.update]
    by_cases hsource : holder = other
    · subst hsource
      simp [Allocation.moved_from, nullptr]
    · by_cases hid : holder = id
      · subst hid
        simp [hsource, Holds, hother, Allocation.move_assign]
      · simp [hsource, hid, Holds]
  · cases happly

/-- After the object is destroyed no other one holds what it held. -/
theorem holds_destroy (happly : (Operation.destroy id).apply objects = some next) :
    next.regions = objects.regions ∧ (Holds next holder reservation ↔
      holder ≠ id ∧ Holds objects holder reservation) := by
  simp only [Operation.apply] at happly
  split at happly
  · cases happly
    refine ⟨rfl, Holds.update.trans ?_⟩
    by_cases hid : holder = id
    · simp [hid]
    · simp [hid, Holds]
  · cases happly

/-- An update keeps the objects valid if the new one is. -/
private theorem valid_update {object : Nat → Option Allocation} {regions : List Region}
    {value : Option Allocation} (hvalue : ∀ allocation, value = some allocation → allocation.Valid regions)
    (hobject : ∀ id allocation, object id = some allocation → allocation.Valid regions) :
    ∀ holder allocation, Function.update object id value holder = some allocation →
      allocation.Valid regions := by
  intro holder allocation hlookup
  by_cases hid : holder = id
  · subst hid
    rw [Function.update_self] at hlookup
    exact hvalue allocation hlookup
  · rw [Function.update_of_ne hid] at hlookup
    exact hobject holder allocation hlookup

/-- Every operation leaves objects that are valid. -/
theorem valid_apply {operation : Operation} (happly : operation.apply objects = some next)
    (hvalid : ∀ id allocation, objects.object id = some allocation → allocation.Valid objects.regions) :
    ∀ id allocation, next.object id = some allocation → allocation.Valid next.regions := by
  cases operation with
  | construct id region =>
    simp only [Operation.apply] at happly
    split at happly
    · cases happly
      refine valid_update ?_ fun id allocation hobject => (hvalid id allocation hobject).append region
      rintro _ ⟨⟩
      exact .reserved
    · cases happly
  | default_construct id =>
    simp only [Operation.apply] at happly
    split at happly
    · cases happly
      refine valid_update ?_ hvalid
      rintro _ ⟨⟩
      exact .default
    · cases happly
  | move_construct id other =>
    simp only [Operation.apply] at happly
    split at happly
    · next source _ hother =>
      cases happly
      refine valid_update ?_ (valid_update ?_ hvalid)
      · rintro _ ⟨⟩
        exact .moved_from
      · rintro _ ⟨⟩
        exact (hvalid other source hother).move_construct
    · cases happly
  | move_assign id other =>
    simp only [Operation.apply] at happly
    split at happly
    · next target source _ hother =>
      cases happly
      refine valid_update ?_ (valid_update ?_ hvalid)
      · rintro _ ⟨⟩
        exact .moved_from
      · rintro _ ⟨⟩
        exact (hvalid other source hother).move_assign
    · cases happly
  | destroy id =>
    simp only [Operation.apply] at happly
    split at happly
    · cases happly
      exact valid_update (by simp) hvalid
    · cases happly

/-- Every operation keeps ownership. -/
theorem Owned.apply {operation : Operation} (howned : Owned objects)
    (happly : operation.apply objects = some next) : Owned next where
  valid := valid_apply happly howned.valid
  unique left right reservation hleft hright := by
    have hunique := howned.unique left right reservation
    cases operation with
    | construct id region =>
      rw [(holds_construct happly).2] at hleft hright
      -- the number of the new reservation is not held before
      rcases hleft with ⟨rfl, rfl⟩ | hleft
      · rcases hright with ⟨rfl, -⟩ | hright
        · rfl
        · exact absurd (howned.lt_of_holds hright) (Nat.lt_irrefl _)
      · rcases hright with ⟨rfl, rfl⟩ | hright
        · exact absurd (howned.lt_of_holds hleft) (Nat.lt_irrefl _)
        · exact hunique hleft hright
    | default_construct id =>
      rw [(holds_default_construct happly).2] at hleft hright
      exact hunique hleft hright
    | move_construct id other =>
      rw [(holds_move_construct happly).2.2] at hleft hright
      split at hleft <;> split at hright
      · next hfirst hsecond => exact hfirst.trans hsecond.symm
      · exact absurd (howned.unique _ _ _ hright.2 hleft) hright.1
      · exact absurd (howned.unique _ _ _ hleft.2 hright) hleft.1
      · exact hunique hleft.2 hright.2
    | move_assign id other =>
      rw [(holds_move_assign happly).2] at hleft hright
      obtain ⟨hleftOther, hleft⟩ := hleft
      obtain ⟨hrightOther, hright⟩ := hright
      split at hleft <;> split at hright
      · next hfirst hsecond => exact hfirst.trans hsecond.symm
      · exact absurd (howned.unique _ _ _ hright hleft) hrightOther
      · exact absurd (howned.unique _ _ _ hleft hright) hleftOther
      · exact hunique hleft hright
    | destroy id =>
      rw [(holds_destroy happly).2] at hleft hright
      exact hunique hleft.2 hright.2

end

end krepe.impl
