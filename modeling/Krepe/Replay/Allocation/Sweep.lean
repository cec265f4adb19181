import Krepe.Interval.Granule
import Krepe.Replay.Allocation

open interval ordered_set

namespace krepe.impl

/-- The requested and the rounded range of an allocation fit in the address
    space, so that no step of the address arithmetic wraps. -/
def Addressable (granularity : Nat) (request : Nat × Nat) : Prop :=
  request.1 + request.2 + granularity < 2 ^ 64

/-- Without wrap-around the reserved range is the smallest range of whole
    granules around the request. -/
theorem get_allocation_address_eq_enclose {granularity : Nat} {request : Nat × Nat}
    (hgranularity : 0 < granularity) (hsize : 0 < request.2)
    (hfit : Addressable granularity request) :
    get_allocation_address granularity request.1 request.2 = enclose granularity request := by
  unfold Addressable at hfit
  have hstart : request.1 / granularity * granularity ≤ request.1 := Nat.div_mul_le_self _ _
  have hstop : (enclose granularity request).1 + (enclose granularity request).2 <
      request.1 + request.2 + granularity := enclose_stop_lt hgranularity hsize
  have hsum : (request.2 + (request.1 - request.1 / granularity * granularity)) % 2 ^ 64 =
      request.2 + (request.1 - request.1 / granularity * granularity) :=
    Nat.mod_eq_of_lt (by omega)
  have hpred : (request.2 + (request.1 - request.1 / granularity * granularity) + (2 ^ 64 - 1)) % 2 ^ 64 =
      request.2 + (request.1 - request.1 / granularity * granularity) - 1 := by omega
  simp only [enclose] at hstop
  simp only [get_allocation_address, enclose, hsum, hpred]
  rw [Nat.mod_eq_of_lt (by omega)]

/-- Ranges whose stops are representable addresses. -/
def Bounded (ranges : List (Nat × Nat)) : Prop := ∀ range ∈ ranges, range.1 + range.2 < 2 ^ 64

/-- The loop over ascending bounded ranges is the sweep without machine
    arithmetic. -/
theorem compute_allocations_loop_eq_sweep {current : Nat × Nat} {ranges : List (Nat × Nat)}
    (hascending : Ascending (current :: ranges)) (hbounded : Bounded (current :: ranges)) :
    compute_allocations_loop current.1 current.2 ranges = sweep current ranges := by
  induction ranges generalizing current with
  | nil => rfl
  | cons next rest ih =>
    have hcurrent : current.1 + current.2 < 2 ^ 64 := hbounded current (by simp)
    have hnext : next.1 + next.2 < 2 ^ 64 := hbounded next (by simp)
    have hle : current.1 ≤ next.1 := (List.pairwise_cons.mp hascending).1 next (by simp)
    have hrest : ∀ range ∈ rest, range.1 + range.2 < 2 ^ 64 :=
      fun range hrange => hbounded range (by simp [hrange])
    rw [sweep, compute_allocations_loop, Nat.mod_eq_of_lt hcurrent]
    by_cases htouch : next.1 < current.1 + current.2
    · have hnew : (next.1 + next.2 + (2 ^ 64 - current.1)) % 2 ^ 64 = next.1 + next.2 - current.1 := by
        omega
      have hmax : (if next.1 + next.2 - current.1 > current.2 then next.1 + next.2 - current.1
          else current.2) = (join current next).2 := by
        simp only [join]
        split <;> omega
      rw [if_pos htouch, if_pos htouch]
      simp only [hnew, hmax]
      refine ih hascending.join fun range hrange => ?_
      rcases List.mem_cons.mp hrange with rfl | hrange
      · rcases join_stop hle with hstop | hstop <;> omega
      · exact hrest range hrange
    · rw [if_neg htouch, if_neg htouch]
      have htail : Ascending (next :: rest) := (List.pairwise_cons.mp hascending).2
      rw [ih htail fun range hrange => hbounded range (List.mem_cons_of_mem _ hrange)]

/-- The ranges of an allocation set, in the order of its iteration. -/
def AllocationSet.ranges (allocations : AllocationSet) : List (Nat × Nat) :=
  allocations.elems.map ofLex

@[simp]
theorem AllocationSet.mem_ranges {allocations : AllocationSet} {range : Nat × Nat} :
    range ∈ AllocationSet.ranges allocations ↔ toLex range ∈ allocations := by
  simp only [AllocationSet.ranges, List.mem_map]
  constructor
  · rintro ⟨element, helement, rfl⟩
    exact helement
  · intro hrange
    exact ⟨toLex range, hrange, rfl⟩

/-- The set orders its ranges by their starts. -/
theorem AllocationSet.ranges_ascending (allocations : AllocationSet) :
    Ascending (AllocationSet.ranges allocations) := by
  unfold Ascending AllocationSet.ranges
  rw [List.pairwise_map]
  refine allocations.ascending.imp fun {left right} hlt => ?_
  rcases Prod.Lex.lt_iff.mp hlt with hfirst | ⟨hfirst, _⟩
  · exact hfirst.le
  · exact hfirst.le

/-- What a list of regions has to satisfy to be a reservation of some ranges:
    it keeps exactly their elements, each range inside one region. -/
structure Merges (ranges regions : List (Nat × Nat)) : Prop where
  separated : Separated regions
  cells : ∀ cell, (∃ region ∈ regions, cell ∈ cells region) ↔ ∃ range ∈ ranges, cell ∈ cells range
  covers : ∀ range ∈ ranges, ∃ region ∈ regions,
    region.1 ≤ range.1 ∧ range.1 + range.2 ≤ region.1 + region.2
  bounds : ∀ region ∈ regions, (∃ range ∈ ranges, region.1 = range.1) ∧
    ∃ range ∈ ranges, region.1 + region.2 = range.1 + range.2
  positive : (∀ range ∈ ranges, 0 < range.2) → ∀ region ∈ regions, 0 < region.2

/-- Merging bounded ranges of any alignment. -/
theorem compute_allocations_merges {allocations : AllocationSet}
    (hbounded : Bounded (AllocationSet.ranges allocations)) :
    Merges (AllocationSet.ranges allocations) (compute_allocations allocations) := by
  have hascending := AllocationSet.ranges_ascending allocations
  unfold AllocationSet.ranges at hbounded hascending ⊢
  unfold compute_allocations
  cases hranges : allocations.elems.map ofLex with
  | nil =>
    exact { separated := List.Pairwise.nil, cells := by simp, covers := by simp, bounds := by simp,
            positive := by simp }
  | cons current rest =>
    rw [hranges] at hbounded hascending
    simp only [compute_allocations_loop_eq_sweep hascending hbounded]
    exact {
      separated := sweep_separated hascending
      cells := sweep_cells hascending
      covers := sweep_covers hascending
      bounds := sweep_bounds hascending
      positive := sweep_length_pos }

end krepe.impl
