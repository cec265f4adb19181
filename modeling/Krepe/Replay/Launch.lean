import Krepe.Replay.ExtendedLambda
import Krepe.Replay.Machine

open std kokkos

namespace krepe.replayer

open impl

/-- The policy which is given to `parallel_for`: a `ForcePolicy` overrides the stored
    policy, any other one is ignored. -/
inductive GivenPolicy where
  | force_policy (policy : Policy)
  | ignored

variable (storage : Nat → Nat → UInt8) (guard : ScopeGuard)

/-- A failure which leaves the thread as it is. -/
def lift_except {A : Type} : Except Failure A → ThreadM A
  | .ok result => pure result
  | .error failure => throw failure

/-- `krepe::parallel_for` while the guard is there, for a functor which is not an extended
    lambda: the calls of `Kokkos::parallel_for` which it makes. -/
def parallel_for (label : String) (p : GivenPolicy) (functor_storage : Nat) (functor : Functor) :
    ThreadM (List Launch) := do
  let bytes ← replay_functor storage guard.functor_data functor_storage functor.bytes.length
  let replayed := { functor with bytes := bytes }
  match p with
  | .force_policy policy => return [⟨label, policy, replayed⟩]
  | .ignored => lift_except (ParallelForVisitor.visit ⟨label, replayed⟩ guard.replay_policy)

/-- `krepe::parallel_for` for an extended lambda. -/
def parallel_for_lambda (wrapper : HdlWrapper) (label : String) (p : GivenPolicy) (functor_storage : Nat)
    (functor : Functor) : ThreadM (List Launch) := do
  let f ← replay_lambda wrapper storage guard.functor_data guard.nvcc_inner_lambda_data functor_storage
  let bytes ← read f wrapper.size
  let replayed := { functor with bytes := bytes }
  match p with
  | .force_policy policy => return [⟨label, policy, replayed⟩]
  | .ignored => lift_except (ParallelForVisitor.visit ⟨label, replayed⟩ guard.replay_policy)

end krepe.replayer
