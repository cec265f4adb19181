import Krepe.Resource.Program

namespace resource

variable {Call S : Type}

namespace Event

/-- The handles which are open after an event, the innermost first, each with the call which
    releases it. A destructor is the end of a handle, even if it cannot release it. -/
def handles [DecidableEq Call] (closer : Call → Option Call) :
    Event Call → List (Nat × Call) → Option (List (Nat × Call))
  | .called call ok, opened => if ok ∧ (closer call).isSome then none else some opened
  | .acquired handle call, opened => (closer call).map fun release => (handle, release) :: opened
  | .closed handle release ok, opened =>
    if opened.head? = some (handle, release) then some (if ok then opened.tail else opened) else none
  | .destroyed handle release _, opened =>
    if opened.head? = some (handle, release) then some opened.tail else none

/-- The call of an event. -/
def made : Event Call → Call
  | .called call _ | .acquired _ call | .closed _ call _ | .destroyed _ call _ => call

/-- The call of an event succeeded. -/
def succeeded : Event Call → Bool
  | .called _ ok | .closed _ _ ok | .destroyed _ _ ok => ok
  | .acquired _ _ => true

/-- The event is the release of a handle by its destructor. -/
def is_destroyed : Event Call → Bool
  | .destroyed _ _ _ => true
  | _ => false

end Event

/-- The handles which are open after some events, if they were used as they have to be. -/
def open_handles [DecidableEq Call] (closer : Call → Option Call) :
    List (Event Call) → List (Nat × Call) → Option (List (Nat × Call))
  | [], opened => some opened
  | event :: rest, opened => (event.handles closer opened).bind (open_handles closer rest)

/-- Either all calls succeed and no destructor has to release anything, or one fails and only
    destructors make calls after it. -/
inductive Unwinds : Option Call → List (Event Call) → Prop
  | done {events : List (Event Call)}
      (hevents : ∀ event ∈ events, event.succeeded = true ∧ event.is_destroyed = false) : Unwinds none events
  | thrown {events unwinding : List (Event Call)} {failure : Event Call}
      (hevents : ∀ event ∈ events, event.succeeded = true ∧ event.is_destroyed = false)
      (hfailure : failure.succeeded = false) (hunwinding : ∀ event ∈ unwinding, event.is_destroyed = true) :
      Unwinds (some failure.made) (events ++ failure :: unwinding)

/-- Handles are numbered by the positions of the calls which made them. -/
def Numbered (position : Nat) (events : List (Event Call)) : Prop :=
  ∀ index handle call, events[index]? = some (.acquired handle call) → handle = position + index

theorem open_handles_append [DecidableEq Call] (closer : Call → Option Call) (first second : List (Event Call))
    (opened : List (Nat × Call)) :
    open_handles closer (first ++ second) opened =
      (open_handles closer first opened).bind (open_handles closer second) := by
  induction first generalizing opened with
  | nil => rfl
  | cons event rest ih =>
    rw [List.cons_append, open_handles, open_handles, Option.bind_assoc]
    congr 1
    funext next
    exact ih next

theorem numbered_nil (position : Nat) : Numbered position ([] : List (Event Call)) := by
  intro index handle call hevent
  simp at hevent

/-- Events whose handles are numbered by their positions stay so one after the other. -/
theorem Numbered.append {position : Nat} {first second : List (Event Call)} (hfirst : Numbered position first)
    (hsecond : Numbered (position + first.length) second) : Numbered position (first ++ second) := by
  intro index handle call hevent
  rw [List.getElem?_append] at hevent
  split at hevent
  · exact hfirst index handle call hevent
  · have hhandle := hsecond _ handle call hevent
    omega

theorem numbered_of_released {position : Nat} {events : List (Event Call)}
    (hevents : ∀ handle call, .acquired handle call ∉ events) : Numbered position events := fun _ handle call hevent =>
  absurd (List.mem_of_getElem? hevent) (hevents handle call)

theorem numbered_acquired {position : Nat} {call : Call} {events : List (Event Call)}
    (hevents : Numbered (position + 1) events) : Numbered position (.acquired position call :: events) := by
  intro index handle other hevent
  cases index with
  | zero =>
    obtain ⟨rfl, -⟩ := Event.acquired.inj (Option.some.inj hevent)
    rfl
  | succ index =>
    have hhandle := hevents index handle other hevent
    omega

namespace Unwinds

/-- Events without a failure may stand in front of an unwinding. -/
theorem prepend {failed : Option Call} {before events : List (Event Call)}
    (hbefore : ∀ event ∈ before, event.succeeded = true ∧ event.is_destroyed = false)
    (hevents : Unwinds failed events) : Unwinds failed (before ++ events) := by
  cases hevents with
  | done hevents => exact .done (List.forall_mem_append.mpr ⟨hbefore, hevents⟩)
  | thrown hevents hfailure hunwinding =>
    rw [← List.append_assoc]
    exact .thrown (List.forall_mem_append.mpr ⟨hbefore, hevents⟩) hfailure hunwinding

/-- Destructors may stand behind a failure. -/
theorem destroy {failed : Call} {events after : List (Event Call)} (hevents : Unwinds (some failed) events)
    (hafter : ∀ event ∈ after, event.is_destroyed = true) : Unwinds (some failed) (events ++ after) := by
  cases hevents with
  | thrown hevents hfailure hunwinding =>
    rw [List.append_assoc, List.cons_append]
    exact .thrown hevents hfailure (List.forall_mem_append.mpr ⟨hunwinding, hafter⟩)

theorem events_of_none {events : List (Event Call)} (hevents : Unwinds none events) :
    ∀ event ∈ events, event.succeeded = true ∧ event.is_destroyed = false := by
  cases hevents with
  | done hevents => exact hevents

/-- A call which fails, and then what destructors do. -/
theorem failure (failure : Event Call) {unwinding : List (Event Call)} (hfailure : failure.succeeded = false)
    (hunwinding : ∀ event ∈ unwinding, event.is_destroyed = true) :
    Unwinds (some failure.made) (failure :: unwinding) :=
  @Unwinds.thrown _ [] unwinding failure (fun _ hevent => absurd hevent List.not_mem_nil) hfailure hunwinding

end Unwinds

namespace Environment.Runs

variable {environment : Environment Call S} {program : Program Call} {position : Nat} {state final : S}
  {failed : Option Call} {events : List (Event Call)}

/-- Every handle is released in its scope or given up by its destructor, the innermost first. -/
theorem open_handles [DecidableEq Call] {closer : Call → Option Call}
    (hruns : environment.Runs program position state failed events final) (hscoped : program.Scoped closer)
    (opened : List (Nat × Call)) : open_handles closer events opened = some opened := by
  induction hruns generalizing opened with
  | skip => rfl
  | performed hcall =>
    have hnone : closer _ = none := hscoped
    simp [resource.open_handles, Event.handles, hnone]
  | thrown hcall => simp [resource.open_handles, Event.handles]
  | not_acquired hacquire => simp [resource.open_handles, Event.handles]
  | closed hacquire hbody hclose ih =>
    obtain ⟨hcloser, hinner⟩ := hscoped
    rw [resource.open_handles, Event.handles, hcloser, Option.map_some, Option.bind_some, open_handles_append,
      ih hinner, Option.bind_some]
    simp [resource.open_handles, Event.handles]
  | not_closed hacquire hbody hclose hdestroy ih =>
    obtain ⟨hcloser, hinner⟩ := hscoped
    rw [resource.open_handles, Event.handles, hcloser, Option.map_some, Option.bind_some, open_handles_append,
      ih hinner, Option.bind_some]
    simp [resource.open_handles, Event.handles]
  | unwound hacquire hbody hdestroy ih =>
    obtain ⟨hcloser, hinner⟩ := hscoped
    rw [resource.open_handles, Event.handles, hcloser, Option.map_some, Option.bind_some, open_handles_append,
      ih hinner, Option.bind_some]
    simp [resource.open_handles, Event.handles]
  | seq hfirst hsecond ihFirst ihSecond =>
    rw [open_handles_append, ihFirst hscoped.1, Option.bind_some, ihSecond hscoped.2]
  | seq_thrown hfirst ih => exact ih hscoped.1 opened

theorem numbered (hruns : environment.Runs program position state failed events final) : Numbered position events := by
  induction hruns with
  | skip => exact numbered_nil _
  | performed hcall => exact numbered_of_released (by simp)
  | thrown hcall => exact numbered_of_released (by simp)
  | not_acquired hacquire => exact numbered_of_released (by simp)
  | closed hacquire hbody hclose ih => exact numbered_acquired (ih.append (numbered_of_released (by simp)))
  | not_closed hacquire hbody hclose hdestroy ih =>
    exact numbered_acquired (ih.append (numbered_of_released (by simp)))
  | unwound hacquire hbody hdestroy ih => exact numbered_acquired (ih.append (numbered_of_released (by simp)))
  | seq hfirst hsecond ihFirst ihSecond => exact ihFirst.append ihSecond
  | seq_thrown hfirst ih => exact ih

/-- Once a call failed, nothing but destructors makes calls. -/
theorem unwinds (hruns : environment.Runs program position state failed events final) : Unwinds failed events := by
  induction hruns with
  | skip => exact .done fun _ hevent => absurd hevent List.not_mem_nil
  | performed hcall => exact .done (by simp [Event.succeeded, Event.is_destroyed])
  | thrown hcall => exact Unwinds.failure (.called _ false) rfl fun _ hevent => absurd hevent List.not_mem_nil
  | not_acquired hacquire => exact Unwinds.failure (.called _ false) rfl fun _ hevent => absurd hevent List.not_mem_nil
  | closed hacquire hbody hclose ih =>
    refine .done fun event hevent => ?_
    rcases List.mem_cons.mp hevent with rfl | hevent
    · exact ⟨rfl, rfl⟩
    · rcases List.mem_append.mp hevent with hinner | hclosed
      · exact ih.events_of_none event hinner
      · obtain rfl := List.mem_singleton.mp hclosed
        exact ⟨rfl, rfl⟩
  | not_closed hacquire hbody hclose hdestroy ih =>
    rw [← List.cons_append]
    refine Unwinds.prepend (fun event hevent => ?_)
      (Unwinds.failure (.closed _ _ false) rfl (by simp [Event.is_destroyed]))
    rcases List.mem_cons.mp hevent with rfl | hinner
    · exact ⟨rfl, rfl⟩
    · exact ih.events_of_none event hinner
  | unwound hacquire hbody hdestroy ih =>
    rw [← List.singleton_append]
    refine Unwinds.prepend (by simp [Event.succeeded, Event.is_destroyed]) (ih.destroy ?_)
    simp [Event.is_destroyed]
  | seq hfirst hsecond ihFirst ihSecond => exact Unwinds.prepend ihFirst.events_of_none ihSecond
  | seq_thrown hfirst ih => exact ih

/-- A program ends like its calls made one after the other. -/
theorem run_calls (hruns : environment.Runs program position state failed events final)
    (hneutral : program.Neutral environment.apply) (rest : List Call) :
    environment.run_calls (program.flatten ++ rest) position state =
      failed.elim (environment.run_calls rest (position + events.length) final) fun call => (some call, final) := by
  have hclose : ∀ {release : Call}, (∀ state, environment.apply release state = some state) →
      ∀ {position state ok left}, environment.close release position state = (ok, left) → left = state := by
    intro release hrelease position state ok left hclose
    cases ok with
    | true =>
      have hattempt := environment.close_eq_true hclose
      unfold attempt at hattempt
      split at hattempt
      · cases hattempt
      · exact (Option.some.inj ((hrelease state).symm.trans hattempt)).symm
    | false => exact (environment.close_eq_false hclose).2
  induction hruns generalizing rest with
  | skip => rfl
  | performed hcall =>
    rw [Program.flatten, List.singleton_append, Environment.run_calls, hcall]
    rfl
  | thrown hcall =>
    rw [Program.flatten, List.singleton_append, Environment.run_calls, hcall]
    rfl
  | not_acquired hacquire =>
    rw [Program.flatten, List.cons_append, Environment.run_calls, hacquire]
    rfl
  | closed hacquire hbody hrelease ih =>
    rw [Program.flatten, List.cons_append, Environment.run_calls, hacquire, List.append_assoc]
    dsimp only
    rw [ih hneutral.2, List.singleton_append, Option.elim_none, Environment.run_calls, hrelease, Option.elim_none]
    simp [Nat.add_assoc, Nat.add_comm, Nat.add_left_comm]
  | not_closed hacquire hbody hrelease hdestroy ih =>
    rw [Program.flatten, List.cons_append, Environment.run_calls, hacquire, List.append_assoc]
    dsimp only
    rw [ih hneutral.2, List.singleton_append, Option.elim_none, Environment.run_calls, hrelease, Option.elim_some,
      hclose hneutral.1 hdestroy]
  | unwound hacquire hbody hdestroy ih =>
    rw [Program.flatten, List.cons_append, Environment.run_calls, hacquire, List.append_assoc]
    dsimp only
    rw [ih hneutral.2, Option.elim_some, Option.elim_some, hclose hneutral.1 hdestroy]
  | seq hfirst hsecond ihFirst ihSecond =>
    rw [Program.flatten, List.append_assoc, ihFirst hneutral.1, Option.elim_none, ihSecond hneutral.2,
      List.length_append, Nat.add_assoc]
  | seq_thrown hfirst ih => rw [Program.flatten, List.append_assoc, ih hneutral.1, Option.elim_some, Option.elim_some]

end Environment.Runs

end resource
