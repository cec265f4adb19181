import Mathlib.Data.List.Basic

namespace resource

/-- Statements which may throw. What the first call of a scope acquires is released at the
    end of the scope, and by a destructor where it still is not. -/
inductive Program (Call : Type) where
  | skip
  | perform (call : Call)
  | hold (acquire release : Call) (body : Program Call)
  | seq (first second : Program Call)

/-- What was done. A handle is known by the position of the call which made it. -/
inductive Event (Call : Type) where
  | called (call : Call) (ok : Bool)
  | acquired (handle : Nat) (call : Call)
  | closed (handle : Nat) (call : Call) (ok : Bool)
  | destroyed (handle : Nat) (call : Call) (ok : Bool)
  deriving DecidableEq, Repr

/-- How calls answer. One at a position may fail which would not fail by itself. -/
structure Environment (Call S : Type) where
  apply : Call → S → Option S
  fails : Nat → Bool

/-- The call which threw, if one did, what was done, and the state which is left. -/
structure Result (Call S : Type) where
  failed : Option Call
  events : List (Event Call)
  state : S

variable {Call S : Type}

namespace Program

/-- The statements of a block, one after the other. -/
def block : List (Program Call) → Program Call
  | [] => .skip
  | statement :: rest => .seq statement (block rest)

/-- The calls which are made when none of them fails. -/
def flatten : Program Call → List Call
  | .skip => []
  | .perform call => [call]
  | .hold acquire release body => acquire :: (flatten body ++ [release])
  | .seq first second => flatten first ++ flatten second

@[simp]
theorem flatten_block_nil : (block ([] : List (Program Call))).flatten = [] := rfl

@[simp]
theorem flatten_block_cons (statement : Program Call) (rest : List (Program Call)) :
    (block (statement :: rest)).flatten = statement.flatten ++ (block rest).flatten := rfl

/-- What makes a handle stands at the head of a scope, which releases it as it has to be. -/
def Scoped (closer : Call → Option Call) : Program Call → Prop
  | .skip => True
  | .perform call => closer call = none
  | .hold acquire release body => closer acquire = some release ∧ Scoped closer body
  | .seq first second => Scoped closer first ∧ Scoped closer second

@[simp]
theorem scoped_block_nil (closer : Call → Option Call) : (block []).Scoped closer := trivial

@[simp]
theorem scoped_block_cons {closer : Call → Option Call} {statement : Program Call} {rest : List (Program Call)} :
    (block (statement :: rest)).Scoped closer ↔ statement.Scoped closer ∧ (block rest).Scoped closer := Iff.rfl

/-- The releases have no effect but on handles. -/
def Neutral (apply : Call → S → Option S) : Program Call → Prop
  | .skip | .perform _ => True
  | .hold _ release body => (∀ state, apply release state = some state) ∧ Neutral apply body
  | .seq first second => Neutral apply first ∧ Neutral apply second

/-- Where closing changes nothing, a run without handles has the effects of the program. -/
theorem neutral_of_scoped {closer : Call → Option Call} {apply : Call → S → Option S}
    (hcloser : ∀ call release, closer call = some release → ∀ state, apply release state = some state)
    {program : Program Call} (hscoped : program.Scoped closer) : program.Neutral apply := by
  induction program with
  | skip => trivial
  | perform call => trivial
  | hold acquire release body ih => exact ⟨hcloser acquire release hscoped.1, ih hscoped.2⟩
  | seq first second ihFirst ihSecond => exact ⟨ihFirst hscoped.1, ihSecond hscoped.2⟩

end Program

namespace Environment

variable (environment : Environment Call S)

/-- A call, which has no effect if it fails. -/
def attempt (call : Call) (position : Nat) (state : S) : Option S :=
  if environment.fails position then none else environment.apply call state

/-- A call which releases a handle, and whether it did. -/
def close (release : Call) (position : Nat) (state : S) : Bool × S :=
  match environment.attempt release position state with
  | some next => (true, next)
  | none => (false, state)

/-- A program from a position on. -/
def run : Program Call → Nat → S → Result Call S
  | .skip, _, state => ⟨none, [], state⟩
  | .perform call, position, state =>
    match environment.attempt call position state with
    | some next => ⟨none, [.called call true], next⟩
    | none => ⟨some call, [.called call false], state⟩
  | .hold acquire release body, position, state =>
    match environment.attempt acquire position state with
    | none => ⟨some acquire, [.called acquire false], state⟩
    | some entered =>
      let inner := run body (position + 1) entered
      let leaving := position + 1 + inner.events.length
      match inner.failed, environment.close release leaving inner.state with
      | some failed, (ok, left) =>
        ⟨some failed, .acquired position acquire :: (inner.events ++ [.destroyed position release ok]), left⟩
      | none, (true, left) =>
        ⟨none, .acquired position acquire :: (inner.events ++ [.closed position release true]), left⟩
      | none, (false, left) =>
        -- the handle is still valid, so its destructor tries again
        let (ok, final) := environment.close release (leaving + 1) left
        ⟨some release, .acquired position acquire ::
          (inner.events ++ [.closed position release false, .destroyed position release ok]), final⟩
  | .seq first second, position, state =>
    let done := run first position state
    match done.failed with
    | some failed => ⟨some failed, done.events, done.state⟩
    | none =>
      let rest := run second (position + done.events.length) done.state
      ⟨rest.failed, done.events ++ rest.events, rest.state⟩

/-- The calls one after the other, up to the first which fails. -/
def run_calls : List Call → Nat → S → Option Call × S
  | [], _, state => (none, state)
  | call :: rest, position, state =>
    match environment.attempt call position state with
    | none => (some call, state)
    | some next => run_calls rest (position + 1) next

/-- The ways in which a program may end. -/
inductive Runs : Program Call → Nat → S → Option Call → List (Event Call) → S → Prop
  | skip {position : Nat} {state : S} : Runs .skip position state none [] state
  | performed {call : Call} {position : Nat} {state next : S}
      (hcall : environment.attempt call position state = some next) :
      Runs (.perform call) position state none [.called call true] next
  | thrown {call : Call} {position : Nat} {state : S} (hcall : environment.attempt call position state = none) :
      Runs (.perform call) position state (some call) [.called call false] state
  | not_acquired {acquire release : Call} {body : Program Call} {position : Nat} {state : S}
      (hacquire : environment.attempt acquire position state = none) :
      Runs (.hold acquire release body) position state (some acquire) [.called acquire false] state
  | closed {acquire release : Call} {body : Program Call} {position : Nat} {state entered left final : S}
      {events : List (Event Call)} (hacquire : environment.attempt acquire position state = some entered)
      (hbody : Runs body (position + 1) entered none events left)
      (hclose : environment.attempt release (position + 1 + events.length) left = some final) :
      Runs (.hold acquire release body) position state none
        (.acquired position acquire :: (events ++ [.closed position release true])) final
  | not_closed {acquire release : Call} {body : Program Call} {position : Nat} {state entered left final : S}
      {events : List (Event Call)} {ok : Bool}
      (hacquire : environment.attempt acquire position state = some entered)
      (hbody : Runs body (position + 1) entered none events left)
      (hclose : environment.attempt release (position + 1 + events.length) left = none)
      (hdestroy : environment.close release (position + 1 + events.length + 1) left = (ok, final)) :
      Runs (.hold acquire release body) position state (some release)
        (.acquired position acquire ::
          (events ++ [.closed position release false, .destroyed position release ok])) final
  | unwound {acquire release failed : Call} {body : Program Call} {position : Nat} {state entered left final : S}
      {events : List (Event Call)} {ok : Bool}
      (hacquire : environment.attempt acquire position state = some entered)
      (hbody : Runs body (position + 1) entered (some failed) events left)
      (hdestroy : environment.close release (position + 1 + events.length) left = (ok, final)) :
      Runs (.hold acquire release body) position state (some failed)
        (.acquired position acquire :: (events ++ [.destroyed position release ok])) final
  | seq {first second : Program Call} {position : Nat} {state middle final : S} {failed : Option Call}
      {events others : List (Event Call)} (hfirst : Runs first position state none events middle)
      (hsecond : Runs second (position + events.length) middle failed others final) :
      Runs (.seq first second) position state failed (events ++ others) final
  | seq_thrown {first second : Program Call} {position : Nat} {state left : S} {failed : Call}
      {events : List (Event Call)} (hfirst : Runs first position state (some failed) events left) :
      Runs (.seq first second) position state (some failed) events left

theorem close_eq_true {release : Call} {position : Nat} {state final : S}
    (hclose : environment.close release position state = (true, final)) :
    environment.attempt release position state = some final := by
  unfold close at hclose
  split at hclose
  · next hattempt =>
    cases hclose
    exact hattempt
  · cases hclose

theorem close_eq_false {release : Call} {position : Nat} {state final : S}
    (hclose : environment.close release position state = (false, final)) :
    environment.attempt release position state = none ∧ final = state := by
  unfold close at hclose
  split at hclose
  · cases hclose
  · next hattempt =>
    cases hclose
    exact ⟨hattempt, rfl⟩

/-- The run of the interpreter is one which the relation allows. -/
theorem runs_run (program : Program Call) (position : Nat) (state : S) :
    environment.Runs program position state (environment.run program position state).failed
      (environment.run program position state).events (environment.run program position state).state := by
  induction program generalizing position state with
  | skip => exact .skip
  | perform call =>
    unfold run
    split
    · next hcall => exact .performed hcall
    · next hcall => exact .thrown hcall
  | hold acquire release body ih =>
    unfold run
    split
    · next hacquire => exact .not_acquired hacquire
    · next entered hacquire =>
      have hbody := ih (position + 1) entered
      dsimp only
      split
      · next hfailed hclose =>
        rw [hfailed] at hbody
        exact .unwound hacquire hbody hclose
      · next hfailed hclose =>
        rw [hfailed] at hbody
        exact .closed hacquire hbody (environment.close_eq_true hclose)
      · next hfailed hclose =>
        rw [hfailed] at hbody
        obtain ⟨hattempt, rfl⟩ := environment.close_eq_false hclose
        exact .not_closed hacquire hbody hattempt rfl
  | seq first second ihFirst ihSecond =>
    have hfirst := ihFirst position state
    unfold run
    dsimp only
    split
    · next hfailed =>
      rw [hfailed] at hfirst
      exact .seq_thrown hfirst
    · next hfailed =>
      rw [hfailed] at hfirst
      exact .seq hfirst (ihSecond _ _)

end Environment

end resource
