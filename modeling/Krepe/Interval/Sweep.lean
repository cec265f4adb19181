import Mathlib.Data.List.Pairwise
import Mathlib.Data.Set.Lattice
import Mathlib.Order.CompletePartialOrder
import Mathlib.Order.Interval.Set.Basic

namespace interval

/-- The numbers of the half-open range with first element `range.1` and length
    `range.2`. -/
def cells (range : Nat × Nat) : Set Nat := Set.Ico range.1 (range.1 + range.2)

@[simp]
theorem mem_cells {range : Nat × Nat} {cell : Nat} :
    cell ∈ cells range ↔ range.1 ≤ cell ∧ cell < range.1 + range.2 := Iff.rfl

theorem cells_disjoint_of_le {left right : Nat × Nat} (hle : left.1 + left.2 ≤ right.1) :
    Disjoint (cells left) (cells right) := by
  rw [Set.disjoint_left]
  intro cell hleft hright
  simp only [mem_cells] at hleft hright
  omega

/-- Ranges in ascending order of their first elements. -/
def Ascending (ranges : List (Nat × Nat)) : Prop :=
  ranges.Pairwise fun left right => left.1 ≤ right.1

/-- Ranges in ascending order which share no element. -/
def Separated (ranges : List (Nat × Nat)) : Prop :=
  ranges.Pairwise fun left right => left.1 + left.2 ≤ right.1

theorem Separated.disjoint {ranges : List (Nat × Nat)} (hseparated : Separated ranges) :
    ranges.Pairwise fun left right => Disjoint (cells left) (cells right) :=
  List.Pairwise.imp cells_disjoint_of_le hseparated

/-- The smallest range from the start of the left one which contains both,
    for a right range which does not start before the left one. -/
def join (left right : Nat × Nat) : Nat × Nat :=
  (left.1, max left.2 (right.1 + right.2 - left.1))

theorem mem_join {left right : Nat × Nat} (hle : left.1 ≤ right.1)
    (htouch : right.1 < left.1 + left.2) (cell : Nat) :
    cell ∈ cells (join left right) ↔ cell ∈ cells left ∨ cell ∈ cells right := by
  simp only [join, mem_cells]
  omega

/-- The stop of a join is the stop of one of its two parts. -/
theorem join_stop {left right : Nat × Nat} (hle : left.1 ≤ right.1) :
    (join left right).1 + (join left right).2 = left.1 + left.2 ∨
      (join left right).1 + (join left right).2 = right.1 + right.2 := by
  simp only [join]
  omega

/-- One left-to-right pass which joins each range into the current one as long
    as they share an element. -/
def sweep (current : Nat × Nat) : List (Nat × Nat) → List (Nat × Nat)
  | [] => [current]
  | next :: rest =>
    if next.1 < current.1 + current.2 then sweep (join current next) rest
    else current :: sweep next rest

/-- The current range of a sweep over ascending ranges stays below the rest
    after a join. -/
theorem Ascending.join {current next : Nat × Nat} {rest : List (Nat × Nat)}
    (hascending : Ascending (current :: next :: rest)) :
    Ascending (interval.join current next :: rest) := by
  obtain ⟨hcurrent, hrest⟩ := List.pairwise_cons.mp hascending
  exact List.pairwise_cons.mpr ⟨fun other hother => hcurrent other (by simp [hother]),
    (List.pairwise_cons.mp hrest).2⟩

theorem sweep_start_ge {current : Nat × Nat} {ranges : List (Nat × Nat)}
    (hascending : Ascending (current :: ranges)) :
    ∀ region ∈ sweep current ranges, current.1 ≤ region.1 := by
  induction ranges generalizing current with
  | nil => simp [sweep]
  | cons next rest ih =>
    obtain ⟨hcurrent, hrest⟩ := List.pairwise_cons.mp hascending
    have hnext := hcurrent next (by simp)
    intro region hregion
    rw [sweep] at hregion
    split at hregion
    · exact ih hascending.join region hregion
    · rcases List.mem_cons.mp hregion with rfl | hregion
      · exact Nat.le_refl _
      · exact hnext.trans (ih hrest region hregion)

theorem sweep_separated {current : Nat × Nat} {ranges : List (Nat × Nat)}
    (hascending : Ascending (current :: ranges)) : Separated (sweep current ranges) := by
  induction ranges generalizing current with
  | nil => simp [sweep, Separated]
  | cons next rest ih =>
    rw [sweep]
    split
    · exact ih hascending.join
    · next hapart =>
      have hrest : Ascending (next :: rest) := (List.pairwise_cons.mp hascending).2
      refine List.pairwise_cons.mpr ⟨fun region hregion => ?_, ih hrest⟩
      have hstart := sweep_start_ge hrest region hregion
      omega

/-- A sweep keeps exactly the elements of its ranges. -/
theorem sweep_cells {current : Nat × Nat} {ranges : List (Nat × Nat)}
    (hascending : Ascending (current :: ranges)) (cell : Nat) :
    (∃ region ∈ sweep current ranges, cell ∈ cells region) ↔
      ∃ range ∈ current :: ranges, cell ∈ cells range := by
  induction ranges generalizing current with
  | nil => simp [sweep]
  | cons next rest ih =>
    have hnext : current.1 ≤ next.1 := (List.pairwise_cons.mp hascending).1 next (by simp)
    rw [sweep]
    split
    · next htouch =>
      rw [ih hascending.join]
      simp only [List.mem_cons, exists_eq_or_imp, mem_join hnext htouch, or_assoc]
    · have hrest : Ascending (next :: rest) := (List.pairwise_cons.mp hascending).2
      have := ih hrest
      simp only [List.mem_cons, exists_eq_or_imp] at this ⊢
      rw [this]

/-- Every range is contained in one region of the sweep. -/
theorem sweep_covers {current : Nat × Nat} {ranges : List (Nat × Nat)}
    (hascending : Ascending (current :: ranges)) :
    ∀ range ∈ current :: ranges, ∃ region ∈ sweep current ranges,
      region.1 ≤ range.1 ∧ range.1 + range.2 ≤ region.1 + region.2 := by
  induction ranges generalizing current with
  | nil => simp [sweep]
  | cons next rest ih =>
    have hnext : current.1 ≤ next.1 := (List.pairwise_cons.mp hascending).1 next (by simp)
    intro range hrange
    rw [sweep]
    split
    · obtain hrange | hrange := List.mem_cons.mp hrange
      · obtain ⟨region, hregion, hstart, hstop⟩ := ih hascending.join (join current next) (by simp)
        refine ⟨region, hregion, ?_, ?_⟩ <;> simp only [join] at hstart hstop <;> subst hrange <;> omega
      · obtain hrange | hrange := List.mem_cons.mp hrange
        · obtain ⟨region, hregion, hstart, hstop⟩ := ih hascending.join (join current next) (by simp)
          refine ⟨region, hregion, ?_, ?_⟩ <;> simp only [join] at hstart hstop <;> subst hrange <;> omega
        · exact ih hascending.join range (by simp [hrange])
    · have hrest : Ascending (next :: rest) := (List.pairwise_cons.mp hascending).2
      obtain rfl | hrange := List.mem_cons.mp hrange
      · exact ⟨range, by simp, Nat.le_refl _, Nat.le_refl _⟩
      · obtain ⟨region, hregion, hbounds⟩ := ih hrest range hrange
        exact ⟨region, by simp [hregion], hbounds⟩

/-- The bounds of a region are bounds of ranges of the sweep. -/
theorem sweep_bounds {current : Nat × Nat} {ranges : List (Nat × Nat)}
    (hascending : Ascending (current :: ranges)) :
    ∀ region ∈ sweep current ranges,
      (∃ range ∈ current :: ranges, region.1 = range.1) ∧
      ∃ range ∈ current :: ranges, region.1 + region.2 = range.1 + range.2 := by
  induction ranges generalizing current with
  | nil => simp [sweep]
  | cons next rest ih =>
    have hnext : current.1 ≤ next.1 := (List.pairwise_cons.mp hascending).1 next (by simp)
    intro region hregion
    rw [sweep] at hregion
    split at hregion
    · obtain ⟨⟨first, hfirst, hstart⟩, last, hlast, hstop⟩ := ih hascending.join region hregion
      refine ⟨?_, ?_⟩
      · obtain rfl | hfirst := List.mem_cons.mp hfirst
        · exact ⟨current, by simp, hstart⟩
        · exact ⟨first, by simp [hfirst], hstart⟩
      · obtain rfl | hlast := List.mem_cons.mp hlast
        · rcases join_stop hnext with hjoin | hjoin
          · exact ⟨current, by simp, hstop.trans hjoin⟩
          · exact ⟨next, by simp, hstop.trans hjoin⟩
        · exact ⟨last, by simp [hlast], hstop⟩
    · have hrest : Ascending (next :: rest) := (List.pairwise_cons.mp hascending).2
      obtain rfl | hregion := List.mem_cons.mp hregion
      · exact ⟨⟨region, by simp, rfl⟩, region, by simp, rfl⟩
      · obtain ⟨⟨first, hfirst, hstart⟩, last, hlast, hstop⟩ := ih hrest region hregion
        exact ⟨⟨first, by simp [hfirst], hstart⟩, last, by simp [hlast], hstop⟩

theorem sweep_length_pos {current : Nat × Nat} {ranges : List (Nat × Nat)}
    (hpositive : ∀ range ∈ current :: ranges, 0 < range.2) :
    ∀ region ∈ sweep current ranges, 0 < region.2 := by
  induction ranges generalizing current with
  | nil =>
    intro region hregion
    obtain rfl := List.mem_singleton.mp hregion
    exact hpositive region (by simp)
  | cons next rest ih =>
    have hcurrent : 0 < current.2 := hpositive current (by simp)
    have hrest : ∀ range ∈ next :: rest, 0 < range.2 :=
      fun range hrange => hpositive range (List.mem_cons_of_mem _ hrange)
    rw [sweep]
    split
    · refine ih fun range hrange => ?_
      rcases List.mem_cons.mp hrange with rfl | hrange
      · exact lt_of_lt_of_le hcurrent (Nat.le_max_left _ _)
      · exact hrest range (by simp [hrange])
    · intro region hregion
      rcases List.mem_cons.mp hregion with rfl | hregion
      · exact hcurrent
      · exact ih hrest region hregion

/-- Separated nonempty ranges start in strictly ascending order. -/
theorem Separated.ascending_lt {ranges : List (Nat × Nat)} (hseparated : Separated ranges)
    (hpositive : ∀ range ∈ ranges, 0 < range.2) :
    ranges.Pairwise fun left right => left.1 < right.1 := by
  refine List.Pairwise.imp_of_mem (fun {left right} hleft _ hle => ?_) hseparated
  have := hpositive left hleft
  omega

/-- At most one of several separated regions contains a nonempty range. -/
theorem Separated.region_unique {regions : List (Nat × Nat)} (hseparated : Separated regions)
    {left right : Nat × Nat} (hleft : left ∈ regions) (hright : right ∈ regions)
    {cell : Nat} (hcellLeft : cell ∈ cells left) (hcellRight : cell ∈ cells right) :
    left = right := by
  by_contra hne
  have : Std.Symm fun a b : Nat × Nat => Disjoint (cells a) (cells b) :=
    ⟨fun _ _ hdisjoint => hdisjoint.symm⟩
  have hdisjoint := List.Pairwise.forall hseparated.disjoint hleft hright hne
  exact Set.disjoint_left.mp hdisjoint hcellLeft hcellRight

end interval
