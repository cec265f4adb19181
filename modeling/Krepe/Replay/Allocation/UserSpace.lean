import Krepe.Replay.Allocation.Reserved

open interval ordered_set

namespace krepe.impl

/-- The addresses which a process may have mapped. -/
def InUserSpace (region : Nat × Nat) : Prop := region.1 + region.2 ≤ 2 ^ 63

instance (region : Nat × Nat) : Decidable (InUserSpace region) :=
  inferInstanceAs (Decidable (region.1 + region.2 ≤ 2 ^ 63))

section

variable {current_address current_size : Nat} {ranges : List (Nat × Nat)}

/-- Where all the regions of the loop are in user space, no sum of it wraps but for a
    range which does not fit itself: every range of a reasonable size is in a region. -/
theorem compute_allocations_loop_covers
    (hascending : Ascending ((current_address, current_size) :: ranges))
    (huser : ∀ region ∈ compute_allocations_loop current_address current_size ranges, InUserSpace region) :
    (∃ region ∈ compute_allocations_loop current_address current_size ranges,
        region.1 = current_address ∧ current_size ≤ region.2) ∧
      ∀ range ∈ ranges, range.2 < 2 ^ 62 →
        ∃ region ∈ compute_allocations_loop current_address current_size ranges,
          region.1 ≤ range.1 ∧ range.1 + range.2 ≤ region.1 + region.2 := by
  induction ranges generalizing current_address current_size with
  | nil => exact ⟨⟨_, List.mem_singleton_self _, rfl, Nat.le_refl _⟩, fun _ hrange => absurd hrange List.not_mem_nil⟩
  | cons next rest ih =>
    obtain ⟨address, size⟩ := next
    have hle : current_address ≤ address :=
      (List.pairwise_cons.mp hascending).1 (address, size) List.mem_cons_self
    have htail : Ascending ((address, size) :: rest) := (List.pairwise_cons.mp hascending).2
    have hskip : ∀ other, Ascending ((current_address, other) :: rest) := fun other =>
      List.pairwise_cons.mpr ⟨fun range hrange =>
        (List.pairwise_cons.mp hascending).1 range (List.mem_cons_of_mem _ hrange),
        (List.pairwise_cons.mp htail).2⟩
    rw [compute_allocations_loop] at huser ⊢
    split at huser
    · next htouch =>
      rw [if_pos htouch]
      dsimp only at huser ⊢
      obtain ⟨hcurrent, hrest⟩ := ih (hskip _) huser
      obtain ⟨region, hregion, hstart, hsize⟩ := hcurrent
      have hregionUser : region.1 + region.2 ≤ 2 ^ 63 := huser region hregion
      have hgrown : current_size ≤ region.2 := by
        split at hsize <;> omega
      refine ⟨⟨region, hregion, hstart, hgrown⟩, fun range hrange hfits => ?_⟩
      rcases List.mem_cons.mp hrange with rfl | hlater
      · -- The address is below an end in user space, so that the new size does not wrap.
        have hbelow : address < current_address + current_size := by
          have hmod := Nat.mod_le (current_address + current_size) (2 ^ 64)
          omega
        dsimp only at hfits ⊢
        have hnew : (address + size + (2 ^ 64 - current_address)) % 2 ^ 64 = address + size - current_address := by
          omega
        rw [hnew] at hsize
        refine ⟨region, hregion, hstart ▸ hle, ?_⟩
        split at hsize <;> omega
      · exact hrest range hlater hfits
    · next hapart =>
      rw [if_neg hapart]
      obtain ⟨hnext, hrest⟩ := ih htail fun region hregion => huser region (List.mem_cons_of_mem _ hregion)
      refine ⟨⟨_, List.mem_cons_self, rfl, Nat.le_refl _⟩, fun range hrange hfits => ?_⟩
      rcases List.mem_cons.mp hrange with rfl | hlater
      · obtain ⟨region, hregion, hstart, hsize⟩ := hnext
        exact ⟨region, List.mem_cons_of_mem _ hregion, hstart.le, by simpa [hstart] using hsize⟩
      · obtain ⟨region, hregion, hinside⟩ := hrest range hlater hfits
        exact ⟨region, List.mem_cons_of_mem _ hregion, hinside⟩

end

/-- A range that fits lies in a region, where all regions are in the user space. -/
theorem compute_allocations_covers_ranges {allocations : AllocationSet}
    (huser : ∀ region ∈ compute_allocations allocations, InUserSpace region) {range : Nat × Nat}
    (hrange : range ∈ AllocationSet.ranges allocations) (hfits : range.2 < 2 ^ 62) :
    ∃ region ∈ compute_allocations allocations,
      region.1 ≤ range.1 ∧ range.1 + range.2 ≤ region.1 + region.2 := by
  have hascending := AllocationSet.ranges_ascending allocations
  unfold AllocationSet.ranges at hrange hascending
  unfold compute_allocations at huser ⊢
  cases hranges : allocations.elems.map ofLex with
  | nil =>
    rw [hranges] at hrange
    exact absurd hrange List.not_mem_nil
  | cons current rest =>
    rw [hranges] at hrange hascending
    simp only [hranges] at huser ⊢
    obtain ⟨hcurrent, hrest⟩ := compute_allocations_loop_covers hascending huser
    rcases List.mem_cons.mp hrange with rfl | hlater
    · obtain ⟨region, hregion, hstart, hsize⟩ := hcurrent
      exact ⟨region, hregion, hstart.le, by simpa [hstart] using hsize⟩
    · exact hrest range hlater hfits

/-- The range of a request of a reasonable size encloses it, wherever it is. -/
theorem get_allocation_address_encloses {granularity : Nat} {request : Nat × Nat}
    (hpositive : 0 < granularity) (hgranularity : granularity ≤ 2 ^ 32) (hsize : 0 < request.2)
    (hfits : request.2 < 2 ^ 32) :
    let range := get_allocation_address granularity request.1 request.2
    range.1 ≤ request.1 ∧ request.1 + request.2 ≤ range.1 + range.2 ∧ range.2 < 2 ^ 62 := by
  have haligned : request.1 / granularity * granularity ≤ request.1 := Nat.div_mul_le_self _ _
  have hrest : request.1 - request.1 / granularity * granularity < granularity := by
    have hmod := Nat.mod_lt request.1 hpositive
    have hdiv := Nat.div_add_mod' request.1 granularity
    omega
  generalize hoffset : request.1 - request.1 / granularity * granularity = offset at hrest
  have hsum : (request.2 + offset) % 2 ^ 64 = request.2 + offset := Nat.mod_eq_of_lt (by omega)
  have hpred : (request.2 + offset + (2 ^ 64 - 1)) % 2 ^ 64 = request.2 + offset - 1 := by omega
  have hdown : (request.2 + offset - 1) / granularity * granularity ≤ request.2 + offset - 1 :=
    Nat.div_mul_le_self _ _
  have hup : request.2 + offset ≤ ((request.2 + offset - 1) / granularity + 1) * granularity := by
    have hlt := Nat.lt_div_mul_add hpositive (a := request.2 + offset - 1)
    rw [Nat.add_mul, Nat.one_mul]
    omega
  have htotal : ((request.2 + offset - 1) / granularity + 1) * granularity < 2 ^ 62 := by
    rw [Nat.add_mul, Nat.one_mul]
    omega
  simp only [get_allocation_address, hoffset, hsum, hpred]
  rw [Nat.mod_eq_of_lt (by omega)]
  exact ⟨haligned, by omega, htotal⟩

/-- What is reserved in user space contains every request of a reasonable size. -/
theorem compute_allocations_covers_user {granularity : Nat} {requests : List (Nat × Nat)}
    (hpositive : 0 < granularity) (hgranularity : granularity ≤ 2 ^ 32)
    (huser : ∀ region ∈ compute_allocations (reservation_set granularity requests), InUserSpace region)
    {request : Nat × Nat} (hrequest : request ∈ requests) (hsize : 0 < request.2) (hfits : request.2 < 2 ^ 32) :
    ∃ region ∈ compute_allocations (reservation_set granularity requests), cells request ⊆ cells region := by
  obtain ⟨hstart, hstop, hsmall⟩ := get_allocation_address_encloses hpositive hgranularity hsize hfits
  obtain ⟨region, hregion, hregionStart, hregionStop⟩ := compute_allocations_covers_ranges huser
    (mem_reservation_set.mpr ⟨request, hrequest, rfl⟩) hsmall
  refine ⟨region, hregion, fun cell hcell => ?_⟩
  simp only [mem_cells] at hcell ⊢
  omega

end krepe.impl
