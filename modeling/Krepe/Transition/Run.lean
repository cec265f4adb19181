import Mathlib.Logic.Function.Basic

namespace transition

variable {State Action : Type}

/-- The runs of a relation from an initial state, with the actions they take. -/
inductive Run (Step : State → Action → State → Prop) (initial : State) : List Action → State → Prop where
  | start : Run Step initial [] initial
  | step {actions : List Action} {state next : State} {action : Action}
      (hrun : Run Step initial actions state) (hstep : Step state action next) :
      Run Step initial (actions ++ [action]) next

/-- What holds at the start and is kept by every step holds after every run. -/
theorem Run.invariant {Step : State → Action → State → Prop} {initial final : State}
    {actions : List Action} {Holds : State → Prop} (hrun : Run Step initial actions final)
    (hinitial : Holds initial)
    (hkeep : ∀ state action next, Holds state → Step state action next → Holds next) :
    Holds final := by
  induction hrun with
  | start => exact hinitial
  | step _ hstep ih => exact hkeep _ _ _ ih hstep

variable {Event : Type} {Allowed : List Event → Event → Prop}

/-- Every event of a history is allowed by the events before it. -/
def Throughout (Allowed : List Event → Event → Prop) (history : List Event) : Prop :=
  ∀ before event after, history = before ++ event :: after → Allowed before event

theorem throughout_nil : Throughout Allowed [] := by
  intro before event after hsplit
  simp at hsplit

/-- An event at the end of a history is its last one, or one of those before. -/
theorem concat_eq_split {history before after : List Event} {last event : Event} :
    history ++ [last] = before ++ event :: after ↔
      (before = history ∧ event = last ∧ after = []) ∨
        ∃ rest, after = rest ++ [last] ∧ history = before ++ event :: rest := by
  refine ⟨fun hsplit => ?_, fun hcases => ?_⟩
  · cases List.eq_nil_or_concat after with
    | inl hnil =>
      subst hnil
      obtain ⟨hbefore, hevent⟩ := List.append_inj' hsplit rfl
      cases hevent
      exact .inl ⟨hbefore.symm, rfl, rfl⟩
    | inr hconcat =>
      obtain ⟨rest, final, rfl⟩ := hconcat
      rw [List.concat_eq_append, ← List.cons_append, ← List.append_assoc] at hsplit
      obtain ⟨hhistory, hlast⟩ := List.append_inj' hsplit rfl
      cases hlast
      exact .inr ⟨rest, List.concat_eq_append, hhistory⟩
  · cases hcases with
    | inl hlast =>
      obtain ⟨rfl, rfl, rfl⟩ := hlast
      rfl
    | inr hrest =>
      obtain ⟨rest, rfl, rfl⟩ := hrest
      simp

/-- A property of all points of a history holds of the points before the last one, and of that. -/
theorem throughout_concat {history : List Event} {last : Event} :
    Throughout Allowed (history ++ [last]) ↔ Throughout Allowed history ∧ Allowed history last := by
  refine ⟨fun hall => ⟨fun before event after hsplit => ?_, ?_⟩, fun hall => ?_⟩
  · apply hall before event (after ++ [last])
    rw [hsplit, List.append_assoc, List.cons_append]
  · exact hall history last [] rfl
  · intro before event after hsplit
    cases concat_eq_split.mp hsplit with
    | inl hlast =>
      obtain ⟨rfl, rfl, rfl⟩ := hlast
      exact hall.2
    | inr hrest =>
      obtain ⟨rest, _, hhistory⟩ := hrest
      exact hall.1 before event rest hhistory

theorem Throughout.of_append {before after : List Event} (hall : Throughout Allowed (before ++ after)) :
    Throughout Allowed before := by
  intro earlier event later hsplit
  apply hall earlier event (later ++ after)
  rw [hsplit, List.append_assoc, List.cons_append]

/-- What an event needs of the events before it is there when the event is. -/
theorem Throughout.of_mem {history : List Event} (hall : Throughout Allowed history) {event : Event}
    (hmem : event ∈ history) : ∃ before after, history = before ++ event :: after ∧ Allowed before event := by
  obtain ⟨before, after, hsplit⟩ := List.append_of_mem hmem
  exact ⟨before, after, hsplit, hall before event after hsplit⟩

/-- Two events of a kind with equally many of the kind before them are one. -/
theorem eq_of_countP_eq {kind : Event → Bool} {before before' after after' : List Event}
    {event event' : Event} (hsplit : before ++ event :: after = before' ++ event' :: after')
    (hkind : kind event = true) (hkind' : kind event' = true)
    (hcount : before.countP kind = before'.countP kind) : event = event' := by
  cases List.append_eq_append_iff.mp hsplit with
  | inl hlonger =>
    obtain ⟨middle, hbefore', hrest⟩ := hlonger
    cases middle with
    | nil =>
      rw [List.nil_append, List.cons.injEq] at hrest
      exact hrest.1
    | cons first middle =>
      rw [List.cons_append, List.cons.injEq] at hrest
      rw [hbefore', List.countP_append, ← hrest.1, List.countP_cons_of_pos hkind] at hcount
      omega
  | inr hshorter =>
    obtain ⟨middle, hbefore, hrest⟩ := hshorter
    cases middle with
    | nil =>
      rw [List.nil_append, List.cons.injEq] at hrest
      exact hrest.1.symm
    | cons first middle =>
      rw [List.cons_append, List.cons.injEq] at hrest
      rw [hbefore, List.countP_append, ← hrest.1, List.countP_cons_of_pos hkind'] at hcount
      omega

end transition
