import Krepe.Interval.Sweep
import Mathlib.Combinatorics.SimpleGraph.Connectivity.Connected

namespace interval

/-- Some of the ranges, joined when they share an element. -/
def overlap_graph (ranges : List (Nat × Nat)) : SimpleGraph {range // range ∈ ranges} where
  Adj left right := left ≠ right ∧ (cells left.1 ∩ cells right.1).Nonempty
  symm := ⟨fun _ _ hadj => ⟨hadj.1.symm, by rw [Set.inter_comm]; exact hadj.2⟩⟩
  loopless := ⟨fun _ hadj => hadj.1 rfl⟩

/-- The regions are the unions of the connected components of the ranges, each
    component in one region. -/
structure Components (ranges regions : List (Nat × Nat)) : Prop where
  ascending : regions.Pairwise fun left right => left.1 < right.1
  disjoint : regions.Pairwise fun left right => Disjoint (cells left) (cells right)
  union : (⋃ region ∈ regions, cells region) = ⋃ range ∈ ranges, cells range
  covers : ∀ range ∈ ranges, ∃! region, region ∈ regions ∧ cells range ⊆ cells region
  component : ∃ region_of : (overlap_graph ranges).ConnectedComponent ≃ {region // region ∈ regions},
    ∀ component, cells (region_of component).1 = ⋃ range ∈ component.supp, cells range.1
  -- a bound which no range has inside is inside no region
  apart : ∀ bound, (∀ range ∈ ranges, ¬ (range.1 < bound ∧ bound < range.1 + range.2)) →
    ∀ region ∈ regions, ¬ (region.1 < bound ∧ bound < region.1 + region.2)

/-- Two elements joined by a chain of ranges, each of which shares an element
    with the next. -/
def Linked (ranges : List (Nat × Nat)) : Nat → Nat → Prop :=
  Relation.ReflTransGen fun first last => ∃ range ∈ ranges, first ∈ cells range ∧ last ∈ cells range

theorem Linked.of_mem {ranges : List (Nat × Nat)} {range : Nat × Nat} (hrange : range ∈ ranges)
    {first last : Nat} (hfirst : first ∈ cells range) (hlast : last ∈ cells range) :
    Linked ranges first last :=
  Relation.ReflTransGen.single ⟨range, hrange, hfirst, hlast⟩

theorem Linked.mono {ranges others : List (Nat × Nat)} (hsubset : ranges ⊆ others) {first last : Nat}
    (hlinked : Linked ranges first last) : Linked others first last :=
  Relation.ReflTransGen.mono
    (fun _ _ ⟨range, hrange, hfirst, hlast⟩ => ⟨range, hsubset hrange, hfirst, hlast⟩) _ _ hlinked

/-- A join links nothing which its two parts do not link. -/
theorem Linked.of_join {current next : Nat × Nat} {rest : List (Nat × Nat)}
    (hle : current.1 ≤ next.1) (htouch : next.1 < current.1 + current.2) (hlength : 0 < next.2)
    {first last : Nat} (hlinked : Linked (join current next :: rest) first last) :
    Linked (current :: next :: rest) first last := by
  have hcurrent : ∀ {cell}, cell ∈ cells current →
      Linked (current :: next :: rest) cell next.1 ∧ Linked (current :: next :: rest) next.1 cell := by
    intro cell hcell
    have hstart : next.1 ∈ cells current := ⟨hle, htouch⟩
    exact ⟨.of_mem (by simp) hcell hstart, .of_mem (by simp) hstart hcell⟩
  have hnext : ∀ {cell}, cell ∈ cells next →
      Linked (current :: next :: rest) cell next.1 ∧ Linked (current :: next :: rest) next.1 cell := by
    intro cell hcell
    have hstart : next.1 ∈ cells next := by simp [hlength]
    exact ⟨.of_mem (by simp) hcell hstart, .of_mem (by simp) hstart hcell⟩
  have hpart : ∀ {cell}, cell ∈ cells (join current next) →
      Linked (current :: next :: rest) cell next.1 ∧ Linked (current :: next :: rest) next.1 cell := by
    intro cell hcell
    rcases (mem_join hle htouch cell).mp hcell with hcell | hcell
    · exact hcurrent hcell
    · exact hnext hcell
  induction hlinked with
  | refl => exact Relation.ReflTransGen.refl
  | tail _ hstep ih =>
    obtain ⟨range, hrange, hfrom, hto⟩ := hstep
    refine Relation.ReflTransGen.trans ih ?_
    rcases List.mem_cons.mp hrange with rfl | hrange
    · exact (hpart hfrom).1.trans (hpart hto).2
    · exact Linked.of_mem (by simp [hrange]) hfrom hto

/-- The elements of a region of the sweep are linked. -/
theorem sweep_linked {current : Nat × Nat} {ranges : List (Nat × Nat)}
    (hascending : Ascending (current :: ranges)) (hpositive : ∀ range ∈ ranges, 0 < range.2) :
    ∀ region ∈ sweep current ranges, ∀ first ∈ cells region, ∀ last ∈ cells region,
      Linked (current :: ranges) first last := by
  induction ranges generalizing current with
  | nil =>
    intro region hregion first hfirst last hlast
    obtain rfl := List.mem_singleton.mp hregion
    exact .of_mem (by simp) hfirst hlast
  | cons next rest ih =>
    have hle : current.1 ≤ next.1 := (List.pairwise_cons.mp hascending).1 next (by simp)
    have hrest : ∀ range ∈ rest, 0 < range.2 :=
      fun range hrange => hpositive range (List.mem_cons_of_mem _ hrange)
    intro region hregion first hfirst last hlast
    rw [sweep] at hregion
    split at hregion
    · next htouch =>
      have hlinked := ih hascending.join hrest region hregion first hfirst last hlast
      exact hlinked.of_join hle htouch (hpositive next (by simp))
    · rcases List.mem_cons.mp hregion with rfl | hregion
      · exact .of_mem (by simp) hfirst hlast
      · have hlinked := ih (List.pairwise_cons.mp hascending).2 hrest region hregion first hfirst last hlast
        exact hlinked.mono (List.subset_cons_self _ _)

section

variable {ranges : List (Nat × Nat)}

/-- Ranges which share an element are in one component. -/
theorem reachable_of_mem {left right : {range // range ∈ ranges}} {cell : Nat}
    (hleft : cell ∈ cells left.1) (hright : cell ∈ cells right.1) :
    (overlap_graph ranges).Reachable left right := by
  by_cases heq : left = right
  · exact heq ▸ SimpleGraph.Reachable.refl _
  · exact SimpleGraph.Adj.reachable ⟨heq, cell, hleft, hright⟩

/-- Ranges with linked elements are in one component. -/
theorem Linked.reachable {first last : Nat} (hlinked : Linked ranges first last)
    {left right : {range // range ∈ ranges}} (hleft : first ∈ cells left.1)
    (hright : last ∈ cells right.1) : (overlap_graph ranges).Reachable left right := by
  induction hlinked generalizing right with
  | refl => exact reachable_of_mem hleft hright
  | tail _ hstep ih =>
    obtain ⟨range, hrange, hfrom, hto⟩ := hstep
    have hreached := @ih ⟨range, hrange⟩ hfrom
    exact hreached.trans (reachable_of_mem hto hright)

end

/-- Separated regions with the same elements as some nonempty ranges, such that
    no range leaves its region and the elements of one region are linked. -/
structure Hulls (ranges regions : List (Nat × Nat)) : Prop where
  separated : Separated regions
  positive : ∀ range ∈ ranges, 0 < range.2
  nonempty : ∀ region ∈ regions, 0 < region.2
  cells : ∀ cell, (∃ region ∈ regions, cell ∈ cells region) ↔ ∃ range ∈ ranges, cell ∈ cells range
  covers : ∀ range ∈ ranges, ∃ region ∈ regions, interval.cells range ⊆ interval.cells region
  linked : ∀ region ∈ regions, ∀ first ∈ interval.cells region, ∀ last ∈ interval.cells region,
    Linked ranges first last

namespace Hulls

variable {ranges regions : List (Nat × Nat)} (hhulls : Hulls ranges regions)

include hhulls

theorem start_mem {range : Nat × Nat} (hrange : range ∈ ranges) : range.1 ∈ interval.cells range := by
  simp [hhulls.positive range hrange]

/-- A region which shares an element with a range contains it. -/
theorem inside {range region : Nat × Nat} (hrange : range ∈ ranges) (hregion : region ∈ regions)
    {cell : Nat} (hcell : cell ∈ interval.cells range) (hcellRegion : cell ∈ interval.cells region) :
    interval.cells range ⊆ interval.cells region := by
  obtain ⟨other, hother, hsubset⟩ := hhulls.covers range hrange
  obtain rfl := hhulls.separated.region_unique hother hregion (hsubset hcell) hcellRegion
  exact hsubset

/-- The ranges of a component stay inside one region. -/
theorem inside_of_reachable {left right : {range // range ∈ ranges}}
    (hreachable : (overlap_graph ranges).Reachable left right) {region : Nat × Nat}
    (hregion : region ∈ regions) :
    interval.cells left.1 ⊆ interval.cells region → interval.cells right.1 ⊆ interval.cells region := by
  obtain ⟨walk⟩ := hreachable
  induction walk with
  | nil => exact id
  | cons hadj _ ih =>
    intro hsubset
    obtain ⟨cell, hcellLeft, hcellRight⟩ := hadj.2
    exact ih (hhulls.inside (Subtype.property _) hregion hcellRight (hsubset hcellLeft))

theorem exists_region (component : (overlap_graph ranges).ConnectedComponent) :
    ∃ region : {region // region ∈ regions},
      ∀ range ∈ component.supp, interval.cells range.1 ⊆ interval.cells region.1 := by
  obtain ⟨left, hleft⟩ := component.exists_rep
  obtain ⟨region, hregion, hsubset⟩ := hhulls.covers left.1 left.2
  refine ⟨⟨region, hregion⟩, fun right hright => ?_⟩
  have hreachable := SimpleGraph.ConnectedComponent.exact (hleft.trans hright.symm)
  exact hhulls.inside_of_reachable hreachable hregion hsubset

/-- Two ranges inside one region are in one component. -/
theorem reachable_of_inside {left right : {range // range ∈ ranges}} {region : Nat × Nat}
    (hregion : region ∈ regions) (hleft : left.1.1 ∈ interval.cells region)
    (hright : right.1.1 ∈ interval.cells region) : (overlap_graph ranges).Reachable left right :=
  (hhulls.linked region hregion _ hleft _ hright).reachable (hhulls.start_mem left.2)
    (hhulls.start_mem right.2)

/-- No bound inside a region is passed by no range, since the elements below it
    would not be linked with those above. -/
theorem apart {bound : Nat} (hbound : ∀ range ∈ ranges, ¬ (range.1 < bound ∧ bound < range.1 + range.2))
    {region : Nat × Nat} (hregion : region ∈ regions) :
    ¬ (region.1 < bound ∧ bound < region.1 + region.2) := by
  rintro ⟨hlow, hhigh⟩
  have hchain := hhulls.linked region hregion region.1 (by simp [hhulls.nonempty region hregion])
    bound ⟨hlow.le, hhigh⟩
  have hbelow : ∀ cell, Linked ranges region.1 cell → cell < bound := by
    intro cell hcell
    induction hcell with
    | refl => exact hlow
    | tail _ hstep ih =>
      obtain ⟨range, hrange, hfrom, hto⟩ := hstep
      have := hbound range hrange
      simp only [mem_cells] at hfrom hto
      omega
  exact Nat.lt_irrefl _ (hbelow bound hchain)

/-- Each component has a region of its own, which is its union. -/
theorem component : ∃ region_of : (overlap_graph ranges).ConnectedComponent ≃ {region // region ∈ regions},
    ∀ component, interval.cells (region_of component).1 =
      ⋃ range ∈ component.supp, interval.cells range.1 := by
  choose region_of hsupp using hhulls.exists_region
  have hmem : ∀ component (range : {range // range ∈ ranges}),
      range.1.1 ∈ interval.cells (region_of component).1 → range ∈ component.supp := by
    intro component range hrange
    obtain ⟨left, hleft⟩ := component.exists_rep
    have hstart := hsupp component left hleft (hhulls.start_mem left.2)
    have hreachable := hhulls.reachable_of_inside (region_of component).2 hrange hstart
    exact (SimpleGraph.ConnectedComponent.sound hreachable).trans hleft
  have hinjective : Function.Injective region_of := by
    intro left right heq
    obtain ⟨range, hleft⟩ := left.exists_rep
    have hrange := hsupp left range hleft (hhulls.start_mem range.2)
    rw [heq] at hrange
    exact hleft.symm.trans (hmem right range hrange)
  have hsurjective : Function.Surjective region_of := by
    intro region
    have hstart : region.1.1 ∈ interval.cells region.1 := by simp [hhulls.nonempty region.1 region.2]
    obtain ⟨range, hrange, hcell⟩ := (hhulls.cells _).mp ⟨region.1, region.2, hstart⟩
    let component := (overlap_graph ranges).connectedComponentMk ⟨range, hrange⟩
    have hcomponent : region.1.1 ∈ interval.cells (region_of component).1 :=
      hsupp component ⟨range, hrange⟩ rfl hcell
    exact ⟨component, Subtype.ext
      (hhulls.separated.region_unique (region_of _).2 region.2 hcomponent hstart)⟩
  refine ⟨Equiv.ofBijective region_of ⟨hinjective, hsurjective⟩, fun component => ?_⟩
  ext cell
  simp only [Set.mem_iUnion, exists_prop]
  constructor
  · intro hcell
    obtain ⟨range, hrange, hcellRange⟩ := (hhulls.cells cell).mp ⟨_, (region_of component).2, hcell⟩
    have hsubset := hhulls.inside hrange (region_of component).2 hcellRange hcell
    exact ⟨⟨range, hrange⟩, hmem component ⟨range, hrange⟩ (hsubset (hhulls.start_mem hrange)), hcellRange⟩
  · rintro ⟨range, hrange, hcell⟩
    exact hsupp component range hrange hcell

theorem components : Components ranges regions where
  ascending := hhulls.separated.ascending_lt hhulls.nonempty
  disjoint := hhulls.separated.disjoint
  union := by
    ext cell
    simpa only [Set.mem_iUnion, exists_prop] using hhulls.cells cell
  covers := by
    intro range hrange
    obtain ⟨region, hregion, hsubset⟩ := hhulls.covers range hrange
    refine ⟨region, ⟨hregion, hsubset⟩, fun other ⟨hother, hotherSubset⟩ => ?_⟩
    have hstart := hhulls.start_mem hrange
    exact hhulls.separated.region_unique hother hregion (hotherSubset hstart) (hsubset hstart)
  component := hhulls.component
  apart := fun _ hbound _ hregion => hhulls.apart hbound hregion

end Hulls

/-- A sweep over separated ranges joins nothing. -/
theorem sweep_of_separated {current : Nat × Nat} {ranges : List (Nat × Nat)}
    (hseparated : Separated (current :: ranges)) : sweep current ranges = current :: ranges := by
  induction ranges generalizing current with
  | nil => rfl
  | cons next rest ih =>
    obtain ⟨hcurrent, hrest⟩ := List.pairwise_cons.mp hseparated
    have hnext := hcurrent next (by simp)
    rw [sweep, if_neg (by omega), ih hrest]

end interval
