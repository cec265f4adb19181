import Krepe.Interval.Sweep

namespace interval

/-- The smallest range of whole granules which contains a nonempty range. -/
def enclose (granularity : Nat) (range : Nat × Nat) : Nat × Nat :=
  let start := range.1 / granularity * granularity
  (start, ((range.2 + (range.1 - start) - 1) / granularity + 1) * granularity)

section

variable {granularity : Nat} {range : Nat × Nat}

theorem enclose_start_dvd : granularity ∣ (enclose granularity range).1 :=
  Nat.dvd_mul_left _ _

theorem enclose_length_dvd : granularity ∣ (enclose granularity range).2 :=
  Nat.dvd_mul_left _ _

theorem enclose_length_pos (hgranularity : 0 < granularity) : 0 < (enclose granularity range).2 := by
  exact Nat.mul_pos (Nat.succ_pos _) hgranularity

theorem enclose_start_le : (enclose granularity range).1 ≤ range.1 :=
  Nat.div_mul_le_self _ _

/-- Rounding a length up to whole granules leaves less than one granule of
    slack. -/
private theorem roundup_bounds (hgranularity : 0 < granularity) {length : Nat} (hlength : 0 < length) :
    length ≤ ((length - 1) / granularity + 1) * granularity ∧
      ((length - 1) / granularity + 1) * granularity < length + granularity := by
  have hsplit := Nat.div_add_mod (length - 1) granularity
  have hmod := Nat.mod_lt (length - 1) hgranularity
  rw [Nat.mul_comm] at hsplit
  rw [Nat.add_mul, Nat.one_mul]
  omega

theorem enclose_stop_ge (hgranularity : 0 < granularity) (hlength : 0 < range.2) :
    range.1 + range.2 ≤ (enclose granularity range).1 + (enclose granularity range).2 := by
  have hstart : (enclose granularity range).1 ≤ range.1 := enclose_start_le
  obtain ⟨hbound, _⟩ := roundup_bounds hgranularity
    (show 0 < range.2 + (range.1 - (enclose granularity range).1) by omega)
  simp only [enclose] at hbound hstart ⊢
  omega

theorem enclose_stop_lt (hgranularity : 0 < granularity) (hlength : 0 < range.2) :
    (enclose granularity range).1 + (enclose granularity range).2 <
      range.1 + range.2 + granularity := by
  have hstart : (enclose granularity range).1 ≤ range.1 := enclose_start_le
  obtain ⟨_, hbound⟩ := roundup_bounds hgranularity
    (show 0 < range.2 + (range.1 - (enclose granularity range).1) by omega)
  simp only [enclose] at hbound hstart ⊢
  omega

theorem enclose_cells (hgranularity : 0 < granularity) (hlength : 0 < range.2) :
    cells range ⊆ cells (enclose granularity range) := by
  intro cell hcell
  have hstart : (enclose granularity range).1 ≤ range.1 := enclose_start_le
  have hstop := enclose_stop_ge hgranularity hlength
  simp only [mem_cells] at hcell ⊢
  omega

/-- Every granule of the enclosing range meets the range itself. -/
theorem enclose_tight (hgranularity : 0 < granularity) (hlength : 0 < range.2) {index : Nat}
    (hgranule : index * granularity ∈ cells (enclose granularity range)) :
    ∃ cell ∈ cells (index * granularity, granularity), cell ∈ cells range := by
  obtain ⟨hlow, hhigh⟩ := mem_cells.mp hgranule
  have hstop := enclose_stop_lt hgranularity hlength
  have hfirst : range.1 < (range.1 / granularity + 1) * granularity := by
    rw [Nat.mul_comm]
    exact Nat.lt_mul_div_succ range.1 hgranularity
  have hindex : range.1 / granularity ≤ index := Nat.le_of_mul_le_mul_right hlow hgranularity
  by_cases hinside : range.1 ≤ index * granularity
  · refine ⟨index * granularity, by simp [hgranularity], hinside, ?_⟩
    -- the enclosing range stops at a multiple of the granularity
    obtain ⟨count, hcount⟩ : granularity ∣
        (enclose granularity range).1 + (enclose granularity range).2 :=
      Nat.dvd_add enclose_start_dvd enclose_length_dvd
    rw [hcount, Nat.mul_comm granularity] at hhigh hstop
    have hlast : index + 1 ≤ count := Nat.lt_of_mul_lt_mul_right hhigh
    have hnext := Nat.mul_le_mul_right granularity hlast
    rw [Nat.add_mul, Nat.one_mul] at hnext
    omega
  · have heq : index = range.1 / granularity := by
      by_contra hne
      have hlater : range.1 / granularity + 1 ≤ index := by omega
      have := Nat.mul_le_mul_right granularity hlater
      omega
    refine ⟨range.1, ?_, by simp [hlength]⟩
    rw [Nat.add_mul, Nat.one_mul] at hfirst
    simp only [mem_cells, heq]
    exact ⟨Nat.div_mul_le_self _ _, hfirst⟩

end

end interval
