import Mathlib.Data.Fintype.EquivFin
import Mathlib.Logic.Relation
import Mathlib.Order.WellFounded

namespace transition

open Relation

variable {State : Type} (Step : State → State → Prop)

/-- Some state which can be reached comes again after one or more steps from it. -/
def ReachesCycle (state : State) : Prop :=
  ∃ repeated, ReflTransGen Step state repeated ∧ TransGen Step repeated repeated

variable {Step}

/-- The way to a cycle and around it never ends. -/
theorem ReachesCycle.next {state : State} (hcycle : ReachesCycle Step state) :
    ∃ next, Step state next ∧ ReachesCycle Step next := by
  obtain ⟨repeated, hreaches, hcycle⟩ := hcycle
  rcases ReflTransGen.cases_head hreaches with rfl | ⟨next, hstep, hreaches⟩
  · obtain ⟨next, hstep, hreturns⟩ := TransGen.head'_iff.mp hcycle
    exact ⟨next, hstep, state, hreturns, hcycle⟩
  · exact ⟨next, hstep, repeated, hreaches, hcycle⟩

/-- Among finitely many states the steps from a state come to an end unless they
    reach a cycle. -/
theorem acc_of_not_reachesCycle [Finite State] {state : State} (hcycle : ¬ ReachesCycle Step state) :
    Acc (flip Step) state := by
  let Reached := {other // ReflTransGen Step state other}
  let Before : Reached → Reached → Prop := fun left right => TransGen Step right.1 left.1
  have htrans : IsTrans Reached Before := ⟨fun _ _ _ hleft hright => hright.trans hleft⟩
  have hirrefl : Std.Irrefl Before := ⟨fun other hother => hcycle ⟨other.1, other.2, hother⟩⟩
  have hwf : WellFounded Before := Finite.wellFounded_of_trans_of_irrefl Before
  have hacc : ∀ reached : Reached, Acc (flip Step) reached.1 := by
    intro reached
    induction reached using hwf.induction with
    | h reached ih =>
      exact ⟨_, fun next hstep => ih ⟨next, reached.2.tail hstep⟩ (TransGen.single hstep)⟩
  exact hacc ⟨state, ReflTransGen.refl⟩

end transition
