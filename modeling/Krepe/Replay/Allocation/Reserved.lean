import Krepe.Replay.Allocation.Sweep

open interval ordered_set

namespace krepe.impl

/-- The set filled by inserting the result of `get_allocation_address` for one
    request after the other. -/
def reservation_set (granularity : Nat) (requests : List (Nat × Nat)) : AllocationSet :=
  requests.foldl (fun allocations request =>
    allocations.insert (toLex (get_allocation_address granularity request.1 request.2)))
    OrderedSet.empty

/-- The ranges which are merged are the requests, enclosed in whole granules. -/
theorem mem_reservation_set {granularity : Nat} {requests : List (Nat × Nat)} {range : Nat × Nat} :
    range ∈ AllocationSet.ranges (reservation_set granularity requests) ↔
      ∃ request ∈ requests, range = get_allocation_address granularity request.1 request.2 := by
  have hmem := OrderedSet.mem_foldl_insert (fun request : Nat × Nat =>
    toLex (get_allocation_address granularity request.1 request.2)) requests OrderedSet.empty
    (toLex range)
  simpa [reservation_set] using hmem

/-- The regions reserved for some requests: whole granules, apart from each
    other, which contain each request in one piece and nothing but granules
    that a request needs. -/
structure Reserves (granularity : Nat) (requests regions : List (Nat × Nat)) : Prop where
  aligned : ∀ region ∈ regions, granularity ∣ region.1
  whole : ∀ region ∈ regions, 0 < region.2 ∧ granularity ∣ region.2
  ascending : regions.Pairwise fun left right => left.1 < right.1
  disjoint : regions.Pairwise fun left right => Disjoint (cells left) (cells right)
  covers : ∀ request ∈ requests, ∃! region, region ∈ regions ∧ cells request ⊆ cells region
  tight : ∀ region ∈ regions, ∀ index,
    cells (index * granularity, granularity) ⊆ cells region →
      ∃ request ∈ requests, (cells (index * granularity, granularity) ∩ cells request).Nonempty

section

variable {granularity : Nat} {requests : List (Nat × Nat)}

/-- The set holds the enclosing granules of the requests. -/
theorem mem_reservation_set_enclose (hgranularity : 0 < granularity)
    (hsize : ∀ request ∈ requests, 0 < request.2)
    (hfit : ∀ request ∈ requests, Addressable granularity request) {range : Nat × Nat} :
    range ∈ AllocationSet.ranges (reservation_set granularity requests) ↔
      ∃ request ∈ requests, range = enclose granularity request := by
  rw [mem_reservation_set]
  constructor
  · rintro ⟨request, hrequest, rfl⟩
    exact ⟨request, hrequest, get_allocation_address_eq_enclose hgranularity
      (hsize request hrequest) (hfit request hrequest)⟩
  · rintro ⟨request, hrequest, rfl⟩
    exact ⟨request, hrequest, (get_allocation_address_eq_enclose hgranularity
      (hsize request hrequest) (hfit request hrequest)).symm⟩

/-- Requests which fit in the address space make ranges which do. -/
theorem reservation_set_bounded (hgranularity : 0 < granularity)
    (hsize : ∀ request ∈ requests, 0 < request.2)
    (hfit : ∀ request ∈ requests, Addressable granularity request) :
    Bounded (AllocationSet.ranges (reservation_set granularity requests)) := by
  intro range hrange
  obtain ⟨request, hrequest, rfl⟩ := (mem_reservation_set_enclose hgranularity hsize hfit).mp hrange
  have hstop := enclose_stop_lt hgranularity (hsize request hrequest)
  have hbound := hfit request hrequest
  unfold Addressable at hbound
  omega

/-- Every request lies inside a region, which it shares with its granules. -/
theorem compute_allocations_covers (hgranularity : 0 < granularity)
    (hsize : ∀ request ∈ requests, 0 < request.2)
    (hfit : ∀ request ∈ requests, Addressable granularity request) :
    ∀ request ∈ requests, ∃ region ∈ compute_allocations (reservation_set granularity requests),
      cells request ⊆ cells region := by
  have hmerges := compute_allocations_merges (reservation_set_bounded hgranularity hsize hfit)
  intro request hrequest
  have hmem := (mem_reservation_set_enclose hgranularity hsize hfit).mpr ⟨request, hrequest, rfl⟩
  obtain ⟨region, hregion, hstart, hstop⟩ := hmerges.covers _ hmem
  refine ⟨region, hregion, fun cell hcell => ?_⟩
  have henclosed := enclose_cells hgranularity (hsize request hrequest) hcell
  simp only [mem_cells] at henclosed ⊢
  omega

/-- The granules of a region start in enclosing ranges of requests. -/
private theorem region_granule_tight (hgranularity : 0 < granularity)
    (hsize : ∀ request ∈ requests, 0 < request.2)
    (hfit : ∀ request ∈ requests, Addressable granularity request) {region : Nat × Nat}
    (hregion : region ∈ compute_allocations (reservation_set granularity requests)) {index : Nat}
    (hgranule : index * granularity ∈ cells region) :
    ∃ request ∈ requests, (cells (index * granularity, granularity) ∩ cells request).Nonempty := by
  have hmerges := compute_allocations_merges (reservation_set_bounded hgranularity hsize hfit)
  obtain ⟨range, hrange, hcell⟩ := (hmerges.cells _).mp ⟨region, hregion, hgranule⟩
  obtain ⟨request, hrequest, rfl⟩ := (mem_reservation_set_enclose hgranularity hsize hfit).mp hrange
  obtain ⟨cell, hingranule, hinrequest⟩ := enclose_tight hgranularity (hsize request hrequest) hcell
  exact ⟨request, hrequest, cell, hingranule, hinrequest⟩

/-- For any granularity and any requests of positive size which end, rounded up, before the end
    of the address space: each request lies in one reserved region, the regions are aligned and
    do not overlap, and nothing is reserved beyond the pages of the requests. -/
theorem compute_allocations_reserves (hgranularity : 0 < granularity)
    (hsize : ∀ request ∈ requests, 0 < request.2)
    (hfit : ∀ request ∈ requests, request.1 + request.2 + granularity < 2 ^ 64) :
    Reserves granularity requests (compute_allocations (reservation_set granularity requests)) := by
  have hmerges := compute_allocations_merges (reservation_set_bounded hgranularity hsize hfit)
  have henclose : ∀ range ∈ AllocationSet.ranges (reservation_set granularity requests),
      ∃ request ∈ requests, range = enclose granularity request :=
    fun range hrange => (mem_reservation_set_enclose hgranularity hsize hfit).mp hrange
  have hpositive := hmerges.positive fun range hrange => by
    obtain ⟨request, _, rfl⟩ := henclose range hrange
    exact enclose_length_pos hgranularity
  have haligned : ∀ region ∈ compute_allocations (reservation_set granularity requests),
      granularity ∣ region.1 := by
    intro region hregion
    obtain ⟨⟨range, hrange, hstart⟩, _⟩ := hmerges.bounds region hregion
    obtain ⟨request, _, rfl⟩ := henclose range hrange
    rw [hstart]
    exact enclose_start_dvd
  refine { aligned := haligned, whole := ?_, ascending := hmerges.separated.ascending_lt hpositive,
           disjoint := hmerges.separated.disjoint, covers := ?_, tight := ?_ }
  · intro region hregion
    refine ⟨hpositive region hregion, ?_⟩
    obtain ⟨_, range, hrange, hstop⟩ := hmerges.bounds region hregion
    obtain ⟨request, _, rfl⟩ := henclose range hrange
    have hdvd : granularity ∣ region.1 + region.2 := by
      rw [hstop]
      exact Nat.dvd_add enclose_start_dvd enclose_length_dvd
    exact (Nat.dvd_add_right (haligned region hregion)).mp hdvd
  · intro request hrequest
    obtain ⟨region, hregion, hinside⟩ :=
      compute_allocations_covers hgranularity hsize hfit request hrequest
    refine ⟨region, ⟨hregion, hinside⟩, fun other ⟨hother, hotherInside⟩ => ?_⟩
    have hfirst : request.1 ∈ cells request := by simp [hsize request hrequest]
    exact hmerges.separated.region_unique hother hregion (hotherInside hfirst) (hinside hfirst)
  · intro region hregion index hgranule
    have hfirst : index * granularity ∈ cells (index * granularity, granularity) := by
      simp [hgranularity]
    exact region_granule_tight hgranularity hsize hfit hregion (hgranule hfirst)

/-- A request inside of a page, one which ends in the next page, and one which starts where that
    page ends. -/
theorem compute_allocations_reserves_example :
    Reserves 4096 [(4100, 8), (8190, 4), (12288, 1)]
      (compute_allocations (reservation_set 4096 [(4100, 8), (8190, 4), (12288, 1)])) :=
  compute_allocations_reserves (by decide) (by decide) (by decide)

end

end krepe.impl
