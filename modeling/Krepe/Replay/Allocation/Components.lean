import Krepe.Interval.Component
import Krepe.Replay.Allocation.Sweep

open interval ordered_set

namespace krepe.impl

/-- The ranges of a reservation as a set again. -/
def allocation_set (allocations : List (Nat × Nat)) : AllocationSet :=
  OrderedSet.of_list (allocations.map toLex)

/-- Ranges which ascend are the set made of them. -/
theorem ranges_allocation_set {allocations : List (Nat × Nat)}
    (hascending : allocations.Pairwise fun left right => left.1 < right.1) :
    AllocationSet.ranges (allocation_set allocations) = allocations := by
  have hlex : (allocations.map toLex).Pairwise (· < ·) := by
    rw [List.pairwise_map]
    exact hascending.imp fun {left right} hlt => Prod.Lex.lt_iff.mpr (.inl hlt)
  rw [AllocationSet.ranges, allocation_set, OrderedSet.elems_of_list hlex, List.map_map]
  exact List.map_id _

section

variable {allocations : AllocationSet}

/-- Bounded ranges are handled by the sweep without machine arithmetic. -/
theorem compute_allocations_eq_sweep {current : Nat × Nat} {rest : List (Nat × Nat)}
    (hranges : AllocationSet.ranges allocations = current :: rest)
    (hbounded : Bounded (AllocationSet.ranges allocations)) :
    compute_allocations allocations = sweep current rest := by
  have hascending := AllocationSet.ranges_ascending allocations
  rw [hranges] at hascending hbounded
  unfold AllocationSet.ranges at hranges
  rw [compute_allocations, hranges]
  exact compute_allocations_loop_eq_sweep hascending hbounded

/-- The reserved regions are the hulls of the ranges that overlap. -/
theorem compute_allocations_hulls (hpositive : ∀ range ∈ AllocationSet.ranges allocations, 0 < range.2)
    (hbounded : Bounded (AllocationSet.ranges allocations)) :
    Hulls (AllocationSet.ranges allocations) (compute_allocations allocations) := by
  have hmerges := compute_allocations_merges hbounded
  refine { separated := hmerges.separated, positive := hpositive,
           nonempty := hmerges.positive hpositive, cells := hmerges.cells, covers := ?_, linked := ?_ }
  · intro range hrange
    obtain ⟨region, hregion, hstart, hstop⟩ := hmerges.covers range hrange
    exact ⟨region, hregion, Set.Ico_subset_Ico hstart hstop⟩
  · cases hranges : AllocationSet.ranges allocations with
    | nil =>
      unfold AllocationSet.ranges at hranges
      simp [compute_allocations, hranges]
    | cons current rest =>
      have hascending := AllocationSet.ranges_ascending allocations
      rw [compute_allocations_eq_sweep hranges hbounded]
      rw [hranges] at hascending hpositive
      exact sweep_linked hascending fun range hrange => hpositive range (List.mem_cons_of_mem _ hrange)

/-- Regions with gaps or common bounds between them are kept as they are. -/
theorem compute_allocations_of_separated {regions : List (Nat × Nat)} (hseparated : Separated regions)
    (hpositive : ∀ region ∈ regions, 0 < region.2) (hbounded : Bounded regions) :
    compute_allocations (allocation_set regions) = regions := by
  have hranges := ranges_allocation_set (hseparated.ascending_lt hpositive)
  cases regions with
  | nil =>
    unfold AllocationSet.ranges at hranges
    simp [compute_allocations, hranges]
  | cons current rest =>
    rw [compute_allocations_eq_sweep hranges (by rwa [hranges]), sweep_of_separated hseparated]

/-- For any ranges of positive size within the address space: the reserved regions are the
    components of the ranges that overlap, in order and without a common address, and the pass
    over its own result changes nothing. -/
theorem compute_allocations_components
    (hpositive : ∀ range ∈ AllocationSet.ranges allocations, 0 < range.2)
    (hbounded : Bounded (AllocationSet.ranges allocations)) :
    Components (AllocationSet.ranges allocations) (compute_allocations allocations) ∧
      compute_allocations (allocation_set (compute_allocations allocations)) =
        compute_allocations allocations := by
  have hhulls := compute_allocations_hulls hpositive hbounded
  have hstops : Bounded (compute_allocations allocations) := by
    intro region hregion
    obtain ⟨_, range, hrange, hstop⟩ := (compute_allocations_merges hbounded).bounds region hregion
    exact hstop ▸ hbounded range hrange
  exact ⟨hhulls.components, compute_allocations_of_separated hhulls.separated hhulls.nonempty hstops⟩

/-- A nested range, one with the same start, a partial overlap and two ranges
    which only touch. -/
theorem compute_allocations_components_example :
    let allocations := allocation_set [(0, 8), (2, 3), (0, 4), (6, 6), (12, 4), (20, 1)]
    Components (AllocationSet.ranges allocations) (compute_allocations allocations) ∧
      compute_allocations (allocation_set (compute_allocations allocations)) =
        compute_allocations allocations :=
  compute_allocations_components (by decide) (by unfold Bounded; decide)

end

end krepe.impl
