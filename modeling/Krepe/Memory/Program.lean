import Mathlib.Data.Set.Operations

namespace memory

/-- A program which touches some cells of a memory: it leaves in them what depends
    on what they held, and changes no others. -/
structure Program (A B : Type) where
  footprint : Set A
  run : (A → B) → A → B
  run_congr : ∀ first second, (∀ cell ∈ footprint, first cell = second cell) →
    ∀ cell ∈ footprint, run first cell = run second cell
  run_frame : ∀ held, ∀ cell ∉ footprint, run held cell = held cell

namespace Program

variable {A B : Type} [Inhabited B] (program : Program A B)

/-- The cells which the program needs are mapped. -/
def Mapped (held : A → Option B) : Prop := ∀ cell ∈ program.footprint, (held cell).isSome

open Classical in
/-- A run where not all cells are mapped: the program faults when it touches one
    which is not. -/
noncomputable def exec (held : A → Option B) : Option (A → Option B) :=
  if program.Mapped held then
    some fun cell =>
      if cell ∈ program.footprint then some (program.run (fun cell => (held cell).getD default) cell)
      else held cell
  else none

variable {program} {held : A → Option B} {region : Set A} {whole : A → B}

/-- The rule for a program which stays in a region: where that holds a part of a memory,
    the run is the one on the whole memory. -/
theorem exec_of_region (hfootprint : program.footprint ⊆ region)
    (hheld : ∀ cell ∈ region, held cell = some (whole cell)) :
    ∃ final, program.exec held = some final ∧
      (∀ cell ∈ region, final cell = some (program.run whole cell)) ∧
      ∀ cell ∉ program.footprint, final cell = held cell := by
  have hmapped : program.Mapped held := fun cell hcell => by
    rw [hheld cell (hfootprint hcell)]
    rfl
  have hsame : ∀ cell ∈ program.footprint, (held cell).getD default = whole cell := fun cell hcell => by
    rw [hheld cell (hfootprint hcell), Option.getD_some]
  refine ⟨_, if_pos hmapped, fun cell hcell => ?_, fun cell hcell => if_neg hcell⟩
  by_cases htouched : cell ∈ program.footprint
  · rw [if_pos htouched, program.run_congr _ _ hsame cell htouched]
  · rw [if_neg htouched, hheld cell hcell, program.run_frame whole cell htouched]

/-- Runs of programs which stay in a region stay runs on the whole memory. -/
theorem foldlM_exec_of_region {programs : List (Program A B)}
    (hfootprint : ∀ program ∈ programs, program.footprint ⊆ region)
    (hheld : ∀ cell ∈ region, held cell = some (whole cell)) :
    ∃ final, programs.foldlM (fun held program => program.exec held) held = some final ∧
      ∀ cell ∈ region, final cell = some (programs.foldl (fun whole program => program.run whole) whole cell) := by
  induction programs generalizing held whole with
  | nil => exact ⟨held, rfl, hheld⟩
  | cons program rest ih =>
    obtain ⟨next, hnext, hregion, _⟩ := exec_of_region (hfootprint program List.mem_cons_self) hheld
    obtain ⟨final, hfinal, hlast⟩ :=
      ih (fun other hother => hfootprint other (List.mem_cons_of_mem _ hother)) hregion
    refine ⟨final, ?_, hlast⟩
    rw [List.foldlM_cons, hnext]
    exact hfinal

end Program

end memory
