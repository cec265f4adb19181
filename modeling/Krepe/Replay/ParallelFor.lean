import Krepe.Replay.Policy

open std kokkos

namespace krepe.impl

/-- A functor: its bytes, the numbers of integers it can be called with, and the
    team policies whose members it can be called with. -/
structure Functor where
  bytes : List UInt8
  supports_n_args : Nat → Bool
  is_team_functor : ExecutionSpace → Schedule → IndexType → Bool

/-- A call of `Kokkos::parallel_for`. -/
structure Launch where
  label : String
  policy : Policy
  functor : Functor

/-- What the visitor of the policy launches: a functor under a label. -/
structure ParallelForVisitor where
  label : String
  functor : Functor

/-- The range policy of a descriptor, whose chunk size becomes a value of the index type. -/
def get_range_policy (exec_space : ExecutionSpace) (schedule : Schedule) (index_type : IndexType)
    (start «end» : index_type.Value) (chunk_size : Int32) : RangePolicy :=
  ⟨exec_space, schedule, index_type, start, «end», index_type.ofInt chunk_size.toInt⟩

/-- The loop reads the first `rank` elements, and none may be missing. -/
def copy_array (rank : Nat) (values : List Int64) : Except Failure (Vector Int64 rank) :=
  if hrank : rank ≤ values.length then
    pure (Vector.ofFn fun i => values[i.val])
  else throw .undefined_behavior

/-- The policy over several dimensions of a descriptor, whose arrays are copied into arrays of
    the rank. -/
def get_mdrange_policy (rank : Nat) (outer_dir inner_dir : Iterate) (exec_space : ExecutionSpace)
    (schedule : Schedule) (index_type : IndexType) (start «end» tile : List Int64)
    (houter : outer_dir ≠ .Default) (hinner : inner_dir ≠ .Default) :
    Except Failure MDRangePolicy := do
  let start_arr ← copy_array rank start
  let end_arr ← copy_array rank «end»
  let tile_arr ← copy_array rank tile
  pure ⟨exec_space, schedule, index_type, rank, outer_dir, inner_dir, start_arr, end_arr, tile_arr,
    houter, hinner⟩

/-- An `int` which is given for a `std::size_t`. -/
def as_size_t (value : Int32) : UInt64 := value.toInt64.toUInt64

/-- The policy which is constructed before its scratch sizes and its chunk size
    are set: a negative number stands for `Kokkos::AUTO`. -/
def new_team_policy (exec_space : ExecutionSpace) (schedule : Schedule) (index_type : IndexType)
    (team_size league_size vector_length : Int32) : TeamPolicy :=
  if hteam : team_size < 0 then
    if hvector : vector_length < 0 then
      ⟨exec_space, schedule, index_type, league_size, .AUTO, .AUTO, .unset, .unset, 0⟩
    else
      ⟨exec_space, schedule, index_type, league_size, .AUTO,
        .fixed vector_length (Int32.not_lt.mp hvector), .unset, .unset, 0⟩
  else
    if hvector : vector_length < 0 then
      ⟨exec_space, schedule, index_type, league_size, .fixed team_size (Int32.not_lt.mp hteam),
        .AUTO, .unset, .unset, 0⟩
    else
      ⟨exec_space, schedule, index_type, league_size, .fixed team_size (Int32.not_lt.mp hteam),
        .fixed vector_length (Int32.not_lt.mp hvector), .unset, .unset, 0⟩

/-- The team policy of a descriptor; scratch sizes are set unless the first one is -1, and the
    chunk size always. -/
def get_team_policy (exec_space : ExecutionSpace) (schedule : Schedule) (index_type : IndexType)
    (team_size league_size vector_length team_scratch_0 team_scratch_1 thread_scratch_0
      thread_scratch_1 chunk_size : Int32) : TeamPolicy :=
  let policy := new_team_policy exec_space schedule index_type team_size league_size vector_length
  let policy : TeamPolicy :=
    if team_scratch_0 ≠ -1 then
      { policy with
        team_scratch_size := ⟨as_size_t team_scratch_0, as_size_t team_scratch_1⟩
        thread_scratch_size := ⟨as_size_t thread_scratch_0, as_size_t thread_scratch_1⟩ }
    else policy
  { policy with chunk_size := chunk_size }

namespace ParallelForVisitor

variable (visitor : ParallelForVisitor)

/-- A dump without a policy cannot be replayed by `parallel_for`. -/
def visit_monostate : Except Failure (List Launch) :=
  throw (.runtime_error ("Trying to use a replay parallel_for but the replay dump does not " ++
    "contain an execution policy"))

/-- A launch over a number of indices, for a functor that takes one index. -/
def visit_scalar (policy : ScalarPolicyDesc) : Except Failure (List Launch) :=
  if visitor.functor.supports_n_args 1 then
    pure [⟨visitor.label, .scalar policy.N, visitor.functor⟩]
  else pure []

/-- The bound of a range is narrowed to the index type, a signed one through
    `std::int64_t`. -/
def narrow_bound (index_type : IndexType) (bound : UInt64) : index_type.Value :=
  if index_type.is_signed then index_type.ofInt bound.toInt64.toInt
  else index_type.ofInt bound.toNat

/-- A launch over a range, for a functor that takes one index. The `std::monostate` of an
    execution space launches nothing. -/
def visit_range (policy : RangePolicyDesc) : Except Failure (List Launch) :=
  if visitor.functor.supports_n_args 1 then
    match policy.exec_space with
    | none => pure []
    | some exec_space =>
      let begin := narrow_bound policy.index_type policy.begin
      let «end» := narrow_bound policy.index_type policy.end
      pure [⟨visitor.label, .range (get_range_policy exec_space policy.schedule policy.index_type
        begin «end» policy.chunk_size), visitor.functor⟩]
  else pure []

/-- A launch over several dimensions, for a functor that takes as many indices. -/
def visit_mdrange (policy : MDRangePolicyDesc) : Except Failure (List Launch) :=
  match policy.exec_space with
  | none => pure []
  | some exec_space =>
    if visitor.functor.supports_n_args policy.rank then do
      let p ←
        if policy.outer_iter_dir = .Right then
          if policy.inner_iter_dir = .Right then
            get_mdrange_policy policy.rank .Right .Right exec_space policy.schedule
              policy.index_type policy.begin policy.end policy.tile (by decide) (by decide)
          else
            get_mdrange_policy policy.rank .Right .Left exec_space policy.schedule
              policy.index_type policy.begin policy.end policy.tile (by decide) (by decide)
        else
          if policy.inner_iter_dir = .Right then
            get_mdrange_policy policy.rank .Left .Right exec_space policy.schedule
              policy.index_type policy.begin policy.end policy.tile (by decide) (by decide)
          else
            get_mdrange_policy policy.rank .Left .Left exec_space policy.schedule
              policy.index_type policy.begin policy.end policy.tile (by decide) (by decide)
      pure [⟨visitor.label, .mdrange p, visitor.functor⟩]
    else pure []

/-- A launch over teams, for a functor that takes a team member. -/
def visit_team (policy : TeamPolicyDesc) : Except Failure (List Launch) :=
  match policy.exec_space with
  | none => pure []
  | some exec_space =>
    if visitor.functor.is_team_functor exec_space policy.schedule policy.index_type then
      let p := get_team_policy exec_space policy.schedule policy.index_type policy.team_size
        policy.league_size policy.vector_length policy.team_scratch_0 policy.team_scratch_1
        policy.thread_scratch_0 policy.thread_scratch_1 policy.chunk_size
      pure [⟨visitor.label, .team p, visitor.functor⟩]
    else pure []

/-- The calls of `Kokkos::parallel_for` which a visit makes. -/
def visit : PolicyVar → Except Failure (List Launch)
  | .monostate => visit_monostate
  | .scalar policy => visitor.visit_scalar policy
  | .range policy => visitor.visit_range policy
  | .mdrange policy => visitor.visit_mdrange policy
  | .team policy => visitor.visit_team policy

end ParallelForVisitor
end krepe.impl
