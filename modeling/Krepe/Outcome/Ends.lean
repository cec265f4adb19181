import Mathlib.Data.List.Forall2

namespace outcome

/-- A computation returns a result for which `P` holds, or fails in a way for
    which `E` holds. -/
def Ends {F A : Type} (E : F → Prop) (P : A → Prop) : Except F A → Prop
  | .ok result => P result
  | .error failure => E failure

variable {F A B : Type} {E : F → Prop}

@[simp]
theorem ends_pure {P : A → Prop} {result : A} : Ends E P (pure result) ↔ P result := Iff.rfl

@[simp]
theorem ends_ok {P : A → Prop} {result : A} : Ends E P (.ok result) ↔ P result := Iff.rfl

@[simp]
theorem ends_throw {P : A → Prop} {failure : F} : Ends E P (throw failure) ↔ E failure := Iff.rfl

@[simp]
theorem ends_error {P : A → Prop} {failure : F} : Ends E P (.error failure) ↔ E failure := Iff.rfl

theorem ends_any (x : Except F A) : Ends (fun _ => True) (fun _ => True) x := by
  cases x <;> trivial

theorem ok_bind (value : A) (f : A → Except F B) : (.ok value >>= f) = f value := rfl

/-- An outcome may be weakened in its result and in its failures. -/
theorem Ends.mono {E' : F → Prop} {P Q : A → Prop} {x : Except F A} (hends : Ends E P x)
    (hresult : ∀ result, P result → Q result) (hfailure : ∀ failure, E failure → E' failure) :
    Ends E' Q x := by
  cases x with
  | ok result => exact hresult result hends
  | error failure => exact hfailure failure hends

/-- A computation ends as its second part does for every result of the first. -/
theorem Ends.bind {P : A → Prop} {Q : B → Prop} {x : Except F A} {f : A → Except F B}
    (hends : Ends E P x) (hnext : ∀ result, P result → Ends E Q (f result)) : Ends E Q (x >>= f) := by
  cases x with
  | ok result => exact hnext result hends
  | error failure => exact hends

/-- What follows may know the result by the computation which returned it. -/
theorem Ends.bind_of_ok {P : A → Prop} {Q : B → Prop} {x : Except F A} {f : A → Except F B}
    (hends : Ends E P x) (hnext : ∀ result, x = .ok result → Ends E Q (f result)) : Ends E Q (x >>= f) := by
  cases x with
  | ok result => exact hnext result rfl
  | error failure => exact hends

/-- The loop rule, for a loop over items of which related ones are known. The
    invariant speaks of those which were visited. -/
theorem ends_foldlM_of_related {C : Type} {R : B → C → Prop} {Inv : List C → A → Prop}
    {f : A → B → Except F A} {items : List B} {known : List C} {start : A}
    (hrelated : List.Forall₂ R items known) (hstart : Inv [] start)
    (hstep : ∀ visited item other rest state, known = visited ++ other :: rest → R item other →
      Inv visited state → Ends E (Inv (visited ++ [other])) (f state item)) :
    Ends E (Inv known) (items.foldlM f start) := by
  suffices hrest : ∀ {items rest : List _}, List.Forall₂ R items rest → ∀ visited state,
      known = visited ++ rest → Inv visited state → Ends E (Inv known) (items.foldlM f state) from
    hrest hrelated [] start rfl hstart
  intro items rest hitems
  induction hitems with
  | nil =>
    intro visited state hknown hinv
    rw [List.append_nil] at hknown
    exact hknown ▸ hinv
  | @cons item other items rest hitem _ ih =>
    intro visited state hknown hinv
    rw [List.foldlM_cons]
    refine (hstep visited item other rest state hknown hitem hinv).bind fun next hnext => ?_
    exact ih (visited ++ [other]) next (by simpa using hknown) hnext

/-- A fold ends with an invariant which each step keeps or fails at. -/
theorem ends_foldlM {Inv : List B → A → Prop} {f : A → B → Except F A} {items : List B} {start : A}
    (hstart : Inv [] start)
    (hstep : ∀ visited item rest state, items = visited ++ item :: rest → Inv visited state →
      Ends E (Inv (visited ++ [item])) (f state item)) :
    Ends E (Inv items) (items.foldlM f start) := by
  have hrelated : List.Forall₂ Eq items items := List.forall₂_refl items
  refine ends_foldlM_of_related hrelated hstart ?_
  rintro visited item _ rest state hitems rfl hinv
  exact hstep visited item rest state hitems hinv

/-- Without failures a computation returns. -/
theorem Ends.eq_ok {P : A → Prop} {x : Except F A} (hends : Ends (fun _ => False) P x) :
    ∃ result, x = .ok result ∧ P result := by
  cases x with
  | ok result => exact ⟨result, rfl, hends⟩
  | error failure => exact hends.elim

/-- The result of a computation which returns. -/
theorem Ends.of_ok {P : A → Prop} {x : Except F A} (hends : Ends E P x) {result : A}
    (hok : x = .ok result) : P result := by
  subst hok
  exact hends

/-- A failure is one of those which were allowed. -/
theorem Ends.of_error {P : A → Prop} {x : Except F A} (hends : Ends E P x) {failure : F}
    (herror : x = .error failure) : E failure := by
  subst herror
  exact hends

/-- A computation succeeds if both of its parts do. -/
theorem bind_eq_ok {x : Except F A} {f : A → Except F B} {result : B} :
    (x >>= f) = .ok result ↔ ∃ middle, x = .ok middle ∧ f middle = .ok result := by
  cases x with
  | ok middle =>
    constructor
    · intro hok
      exact ⟨middle, rfl, hok⟩
    · rintro ⟨other, hx, hok⟩
      cases hx
      exact hok
  | error failure =>
    constructor
    · intro hok
      cases hok
    · rintro ⟨other, hx, _⟩
      cases hx

/-- Two loops over related items whose steps agree. -/
theorem foldlM_forall₂ {C : Type} {R : B → C → Prop} {f : A → B → Except F A} {g : A → C → Except F A}
    {left : List B} {right : List C} (hitems : List.Forall₂ R left right)
    (hstep : ∀ item other, R item other → ∀ state, f state item = g state other) (start : A) :
    left.foldlM f start = right.foldlM g start := by
  induction hitems generalizing start with
  | nil => rfl
  | cons hitem _ ih =>
    rw [List.foldlM_cons, List.foldlM_cons, hstep _ _ hitem]
    exact congrArg (g start _ >>= ·) (funext ih)

/-- What each step of a loop makes, all made. -/
theorem mapM_forall₂ {R : A → B → Prop} {f : A → Except F B}
    (hstep : ∀ item result, f item = .ok result → R item result) {items : List A} {results : List B}
    (hok : items.mapM f = .ok results) : List.Forall₂ R items results := by
  induction items generalizing results with
  | nil =>
    cases hok
    exact .nil
  | cons item rest ih =>
    rw [List.mapM_cons] at hok
    obtain ⟨first, hfirst, hrest⟩ := bind_eq_ok.mp hok
    obtain ⟨others, hothers, hresults⟩ := bind_eq_ok.mp hrest
    cases hresults
    exact .cons (hstep item first hfirst) (ih hothers)

end outcome
