import Krepe.Common.Text
import Mathlib.Logic.Function.Basic

open std

namespace krepe.replayer

/-- The storage which a thread has, and the functors constructed in some of it,
    each with the bytes it was constructed with. `destroyed` keeps what a functor
    held when it was destroyed and what it was constructed with. -/
structure Thread where
  block : Nat → Option (List UInt8)
  functor : Nat → Option (List UInt8)
  next : Nat
  fresh : ∀ id, next ≤ id → block id = none ∧ functor id = none
  destroyed : List (List UInt8 × List UInt8)
  tracking_enabled : Bool

/-- A computation of a thread, which may throw and then leaves the thread as it was at that
    point. -/
abbrev ThreadM := EStateM Failure Thread

namespace Thread

/-- The bytes of a block that was allocated before, or none when it is freed. -/
def set_block (thread : Thread) (id : Nat) (bytes : Option (List UInt8)) (hid : id < thread.next) : Thread :=
  { thread with
    block := Function.update thread.block id bytes
    fresh := fun other hother => by
      rw [Function.update_of_ne (by omega)]
      exact thread.fresh other hother }

/-- The functor which lives in a block that was allocated before, or none when its lifetime ends. -/
def set_functor (thread : Thread) (id : Nat) (bytes : Option (List UInt8)) (hid : id < thread.next) : Thread :=
  { thread with
    functor := Function.update thread.functor id bytes
    fresh := fun other hother => by
      rw [Function.update_of_ne (by omega)]
      exact thread.fresh other hother }

/-- A block which has bytes was allocated. -/
theorem lt_next {thread : Thread} {id : Nat} {bytes : List UInt8} (hblock : thread.block id = some bytes) :
    id < thread.next := by
  by_contra hnot
  rw [(thread.fresh id (by omega)).1] at hblock
  cases hblock

theorem lt_next_of_functor {thread : Thread} {id : Nat} {bytes : List UInt8}
    (hfunctor : thread.functor id = some bytes) : id < thread.next := by
  by_contra hnot
  rw [(thread.fresh id (by omega)).2] at hfunctor
  cases hfunctor

end Thread

/-- `malloc` and `aligned_alloc`, with whatever bytes the storage has. -/
def malloc (storage : Nat → Nat → UInt8) (size : Nat) : ThreadM Nat := fun thread =>
  .ok thread.next { thread with
    block := Function.update thread.block thread.next (some ((List.range size).map (storage thread.next)))
    next := thread.next + 1
    fresh := fun other hother => by
      rw [Function.update_of_ne (by omega)]
      exact thread.fresh other (by omega) }

/-- Only a block which is allocated can be freed. -/
def free (id : Nat) : ThreadM Unit := fun thread =>
  match hblock : thread.block id with
  | some _ => .ok () (thread.set_block id none (Thread.lt_next hblock))
  | none => .error .undefined_behavior thread

/-- The first bytes of a block, which has to be long enough. -/
def read (id size : Nat) : ThreadM (List UInt8) := fun thread =>
  match thread.block id with
  | some bytes => if size ≤ bytes.length then .ok (bytes.take size) thread else .error .undefined_behavior thread
  | none => .error .undefined_behavior thread

/-- Puts bytes at the start of a block, which has to be long enough. -/
def write (id : Nat) (data : List UInt8) : ThreadM Unit := fun thread =>
  match hblock : thread.block id with
  | some bytes =>
    if data.length ≤ bytes.length then
      .ok () (thread.set_block id (some (data ++ bytes.drop data.length)) (Thread.lt_next hblock))
    else .error .undefined_behavior thread
  | none => .error .undefined_behavior thread

/-- Copies the first bytes of one block to the start of another. -/
def memcpy (target source size : Nat) : ThreadM Unit := do write target (← read source size)

/-- A functor starts to live in a block, over the bytes which are there. -/
def begin_lifetime (id : Nat) (bytes : List UInt8) : ThreadM Unit := fun thread =>
  match hblock : thread.block id with
  | some _ => .ok () (thread.set_functor id (some bytes) (Thread.lt_next hblock))
  | none => .error .undefined_behavior thread

/-- The functor in a block stops living, and it is recorded with which bytes its destructor ran. -/
def end_lifetime (id : Nat) (bytes : List UInt8) : ThreadM Unit := fun thread =>
  match hfunctor : thread.functor id with
  | some original =>
    .ok () { thread.set_functor id none (Thread.lt_next_of_functor hfunctor) with
      destroyed := thread.destroyed ++ [(bytes, original)] }
  | none => .error .undefined_behavior thread

/-- The copy constructor of a functor, which copies its bytes while the tracking
    of views is disabled. -/
def construct_functor (id source size : Nat) : ThreadM Unit := do
  let bytes ← read source size
  write id bytes
  begin_lifetime id bytes

/-- The destructor sees the bytes which the block has then. -/
def destroy_functor (id size : Nat) : ThreadM Unit := do end_lifetime id (← read id size)

/-- Turns the shared allocation tracking of Kokkos off in the thread. -/
def tracking_disable : ThreadM Unit := modify fun thread => { thread with tracking_enabled := false }

/-- Turns the shared allocation tracking of Kokkos on in the thread. -/
def tracking_enable : ThreadM Unit := modify fun thread => { thread with tracking_enabled := true }

/-- The error for a dump of a smaller functor than the replayed one. -/
def functor_smaller (stored requested : Nat) : Failure :=
  .runtime_error ("The stored functor is smaller than the requested functor, expected at most " ++
    to_string stored ++ "B, got " ++ to_string requested ++ "B")

/-- Puts the captured bytes over the functor, unless there are too few of them. -/
def init_functor (functor_data : List UInt8) (buffer size : Nat) : ThreadM Unit :=
  if functor_data.length < size then throw (functor_smaller functor_data.length size)
  else write buffer (functor_data.take size)

/-- The second part of `replay_functor`, for a temporary functor and a copy of
    its bytes. -/
def replay_dummy_functor (functor_data : List UInt8)
    (dummy_functor_storage dummy_functor_buffer_save size : Nat) : ThreadM (List UInt8) := do
  init_functor functor_data dummy_functor_storage size
  let f ← read dummy_functor_storage size
  memcpy dummy_functor_storage dummy_functor_buffer_save size
  free dummy_functor_buffer_save
  destroy_functor dummy_functor_storage size
  free dummy_functor_storage
  tracking_enable
  return f

/-- `replay_functor` for a functor of `size` bytes which is not an extended
    lambda. The result is the bytes of the functor which it returns. -/
def replay_functor (storage : Nat → Nat → UInt8) (functor_data : List UInt8) (functor size : Nat) :
    ThreadM (List UInt8) := do
  tracking_disable
  let dummy_functor_storage ← malloc storage size
  construct_functor dummy_functor_storage functor size
  let dummy_functor_buffer_save ← malloc storage size
  memcpy dummy_functor_buffer_save dummy_functor_storage size
  replay_dummy_functor functor_data dummy_functor_storage dummy_functor_buffer_save size

/-- A thread without its supply of storage. -/
structure View where
  block : Nat → Option (List UInt8)
  functor : Nat → Option (List UInt8)
  destroyed : List (List UInt8 × List UInt8)
  tracking_enabled : Bool

/-- A thread without the number of its next block. -/
def Thread.view (thread : Thread) : View :=
  ⟨thread.block, thread.functor, thread.destroyed, thread.tracking_enabled⟩

section

variable {storage : Nat → Nat → UInt8} {thread next : Thread} {view : View} {id other size : Nat}
  {bytes original data : List UInt8}

theorem bind_ok {A B : Type} {first : ThreadM A} {value : A} (hfirst : first thread = .ok value next)
    (second : A → ThreadM B) : (first >>= second) thread = second value next := by
  simp [bind, EStateM.bind, hfirst]

theorem bind_error {A B : Type} {first : ThreadM A} {failure : Failure}
    (hfirst : first thread = .error failure next) (second : A → ThreadM B) :
    (first >>= second) thread = .error failure next := by
  simp [bind, EStateM.bind, hfirst]

/-- A new block has the size that was asked for, and was free before. -/
theorem malloc_ok (storage : Nat → Nat → UInt8) (size : Nat) (hview : thread.view = view) :
    ∃ id next bytes, malloc storage size thread = .ok id next ∧ bytes.length = size ∧
      view.block id = none ∧ view.functor id = none ∧
      next.view = { view with block := Function.update view.block id (some bytes) } := by
  subst hview
  exact ⟨thread.next, _, _, rfl, by simp, (thread.fresh _ (Nat.le_refl _)).1,
    (thread.fresh _ (Nat.le_refl _)).2, rfl⟩

theorem free_ok (hview : thread.view = view) (hblock : view.block id = some bytes) :
    ∃ next, free id thread = .ok () next ∧
      next.view = { view with block := Function.update view.block id none } := by
  subst hview
  have hthread : thread.block id = some bytes := hblock
  unfold free
  split
  · exact ⟨_, rfl, rfl⟩
  · next hnone => rw [hthread] at hnone; cases hnone

theorem read_ok (hview : thread.view = view) (hblock : view.block id = some bytes) :
    read id bytes.length thread = .ok bytes thread := by
  subst hview
  have hthread : thread.block id = some bytes := hblock
  simp [read, hthread]

/-- All of a block is written. -/
theorem write_ok (hview : thread.view = view) (hblock : view.block id = some bytes)
    (hlength : data.length = bytes.length) :
    ∃ next, write id data thread = .ok () next ∧
      next.view = { view with block := Function.update view.block id (some data) } := by
  subst hview
  have hthread : thread.block id = some bytes := hblock
  unfold write
  split
  · next hsome =>
    obtain rfl := Option.some.inj (hthread.symm.trans hsome)
    rw [if_pos (by omega)]
    refine ⟨_, rfl, ?_⟩
    simp [Thread.view, Thread.set_block, hlength]
  · next hnone => rw [hthread] at hnone; cases hnone

/-- A copy gives a block of its size the bytes of another. -/
theorem memcpy_ok (hview : thread.view = view) (htarget : view.block id = some bytes)
    (hsource : view.block other = some data) (hlength : data.length = bytes.length) :
    ∃ next, memcpy id other data.length thread = .ok () next ∧
      next.view = { view with block := Function.update view.block id (some data) } := by
  unfold memcpy
  rw [bind_ok (read_ok hview hsource)]
  exact write_ok hview htarget hlength

/-- A functor which is copied lives in its storage with the bytes of the other one. -/
theorem construct_functor_ok (hview : thread.view = view) (htarget : view.block id = some bytes)
    (hsource : view.block other = some data) (hlength : data.length = bytes.length) :
    ∃ next, construct_functor id other data.length thread = .ok () next ∧
      next.view = { view with
        block := Function.update view.block id (some data)
        functor := Function.update view.functor id (some data) } := by
  obtain ⟨written, hwrite, hwritten⟩ := write_ok hview htarget hlength
  have hblock : written.block id = some data := by
    have hvalue := congrArg (fun view : View => view.block id) hwritten
    simpa [Thread.view] using hvalue
  unfold construct_functor
  rw [bind_ok (read_ok hview hsource), bind_ok hwrite]
  unfold begin_lifetime
  split
  · refine ⟨_, rfl, ?_⟩
    simp only [Thread.view, View.mk.injEq] at hwritten ⊢
    simp [Thread.set_functor, hwritten]
  · next hnone => rw [hblock] at hnone; cases hnone

/-- A functor which lives in a block is destroyed with the bytes which are there. -/
theorem destroy_functor_ok (hview : thread.view = view) (hblock : view.block id = some bytes)
    (hfunctor : view.functor id = some original) :
    ∃ next, destroy_functor id bytes.length thread = .ok () next ∧
      next.view = { view with
        functor := Function.update view.functor id none
        destroyed := view.destroyed ++ [(bytes, original)] } := by
  subst hview
  have hthread : thread.functor id = some original := hfunctor
  unfold destroy_functor
  rw [bind_ok (read_ok rfl hblock)]
  unfold end_lifetime
  split
  · next hsome =>
    obtain rfl := Option.some.inj (hthread.symm.trans hsome)
    exact ⟨_, rfl, rfl⟩
  · next hnone => rw [hthread] at hnone; cases hnone

end

/-- What a call leaves behind: the storage and functors there were before, the
    tracking as it was, and only functors destroyed as they were constructed. -/
structure Restores (before after : Thread) : Prop where
  block : after.block = before.block
  functor : after.functor = before.functor
  tracking : after.tracking_enabled = before.tracking_enabled
  destroyed : ∃ functors, after.destroyed = before.destroyed ++ functors ∧
    ∀ functor ∈ functors, functor.1 = functor.2

/-- A call which returns the stored functor if it is large enough and throws
    otherwise, and leaves nothing behind. -/
def ReplaysFunctor (storage : Nat → Nat → UInt8) (functor_data : List UInt8) (functor size : Nat)
    (thread : Thread) : Prop :=
  match replay_functor storage functor_data functor size thread with
  | .ok f final => size ≤ functor_data.length ∧ f = functor_data.take size ∧ Restores thread final
  | .error failure final =>
    functor_data.length < size ∧ failure = functor_smaller functor_data.length size ∧ Restores thread final

section

variable {storage : Nat → Nat → UInt8} {functor_data bytes : List UInt8} {thread : Thread} {functor : Nat}

/-- The first part makes a temporary functor and a copy of its bytes. -/
theorem replay_functor_prepared (storage : Nat → Nat → UInt8) (functor_data : List UInt8)
    (hfunctor : thread.block functor = some bytes) :
    ∃ dummy save prepared, replay_functor storage functor_data functor bytes.length thread =
        replay_dummy_functor functor_data dummy save bytes.length prepared ∧
      thread.block dummy = none ∧ thread.functor dummy = none ∧ thread.block save = none ∧ dummy ≠ save ∧
      prepared.view = { thread.view with
        block := Function.update (Function.update thread.block dummy (some bytes)) save (some bytes)
        functor := Function.update thread.functor dummy (some bytes)
        tracking_enabled := false } := by
  let disabled : Thread := { thread with tracking_enabled := false }
  have hdisable : tracking_disable thread = .ok () disabled := rfl
  have hdisabled : disabled.view = { thread.view with tracking_enabled := false } := rfl
  obtain ⟨dummy, allocated, garbage, hmalloc, hlength, hfree, hnone, hallocated⟩ :=
    malloc_ok storage bytes.length hdisabled
  have hfunctorDummy : functor ≠ dummy := by
    rintro rfl
    exact absurd (hfunctor.symm.trans hfree) (by simp)
  obtain ⟨constructed, hconstruct, hconstructed⟩ := @construct_functor_ok _ _ dummy functor garbage bytes
    hallocated (by simp) (by simpa [Function.update_of_ne hfunctorDummy, Thread.view] using hfunctor) hlength.symm
  simp only [Function.update_idem] at hconstructed
  obtain ⟨save, saved, unused, hsave, hsaveLength, hsaveFree, _, hsaved⟩ :=
    malloc_ok storage bytes.length hconstructed
  have hne : dummy ≠ save := by
    rintro rfl
    simp at hsaveFree
  obtain ⟨prepared, hcopy, hprepared⟩ := @memcpy_ok _ _ save dummy unused bytes hsaved (by simp)
    (by simp [Function.update_of_ne hne]) hsaveLength.symm
  simp only [Function.update_idem] at hprepared
  refine ⟨dummy, save, prepared, ?_, hfree, hnone, ?_, hne, hprepared⟩
  · unfold replay_functor
    rw [bind_ok hdisable, bind_ok hmalloc, bind_ok hconstruct, bind_ok hsave, bind_ok hcopy]
  · simpa [Function.update_of_ne hne.symm, Thread.view] using hsaveFree

/-- Storage which is released again, and was none before, leaves no trace. -/
private theorem update_update_none {block : Nat → Option (List UInt8)} {id : Nat}
    {bytes : Option (List UInt8)} (hblock : block id = none) :
    Function.update (Function.update block id bytes) id none = block := by
  rw [Function.update_idem, ← hblock, Function.update_eq_self]

/-- With enough bytes everything is put back, but the tracking is left enabled. -/
theorem replay_functor_enough (hfunctor : thread.block functor = some bytes)
    (henough : bytes.length ≤ functor_data.length) :
    ∃ final, replay_functor storage functor_data functor bytes.length thread =
        .ok (functor_data.take bytes.length) final ∧
      final.view = { thread.view with
        destroyed := thread.destroyed ++ [(bytes, bytes)]
        tracking_enabled := true } := by
  obtain ⟨dummy, save, prepared, hreplay, hdummy, hnone, hsave, hne, hprepared⟩ :=
    replay_functor_prepared storage functor_data hfunctor
  have hstored : (functor_data.take bytes.length).length = bytes.length := by simp [henough]
  obtain ⟨patched, hinit, hpatched⟩ := @write_ok _ _ dummy bytes (functor_data.take bytes.length) hprepared
    (by simp [Function.update_of_ne hne]) hstored
  have hread := @read_ok _ _ dummy (functor_data.take bytes.length) hpatched (by simp)
  obtain ⟨restored, hcopy, hrestored⟩ := @memcpy_ok _ _ dummy save (functor_data.take bytes.length) bytes
    hpatched (by simp) (by simp [Function.update_of_ne hne.symm]) hstored.symm
  obtain ⟨released, hfree, hreleased⟩ := @free_ok _ _ save bytes hrestored
    (by simp [Function.update_of_ne hne.symm])
  obtain ⟨destroyed, hdestroy, hdestroyed⟩ := @destroy_functor_ok _ _ dummy bytes bytes hreleased
    (by simp [Function.update_of_ne hne]) (by simp)
  obtain ⟨emptied, hempty, hemptied⟩ := @free_ok _ _ dummy bytes hdestroyed
    (by simp [Function.update_of_ne hne])
  have henable : tracking_enable emptied = .ok () { emptied with tracking_enabled := true } := rfl
  refine ⟨{ emptied with tracking_enabled := true }, ?_, ?_⟩
  · rw [hreplay]
    unfold replay_dummy_functor
    have hinitialized : init_functor functor_data dummy bytes.length prepared = .ok () patched := by
      rw [init_functor, if_neg (by omega), hinit]
    rw [bind_ok hinitialized]
    rw [hstored] at hread
    rw [bind_ok hread, bind_ok hcopy, bind_ok hfree, bind_ok hdestroy, bind_ok hempty, bind_ok henable]
    rfl
  · have hview : ({ emptied with tracking_enabled := true } : Thread).view =
        { emptied.view with tracking_enabled := true } := rfl
    rw [hview, hemptied]
    simp only [Thread.view, View.mk.injEq, and_true]
    refine ⟨?_, update_update_none hnone⟩
    funext id
    by_cases hid : id = dummy
    · subst hid
      simp [hdummy]
    · by_cases hother : id = save
      · subst hother
        simp [hsave, Function.update_of_ne hid]
      · simp [Function.update_of_ne hid, Function.update_of_ne hother]

/-- With too few bytes the call throws while the temporary functor is there and
    the tracking is disabled. -/
theorem replay_functor_too_few (hfunctor : thread.block functor = some bytes)
    (hfew : functor_data.length < bytes.length) :
    ∃ final dummy, replay_functor storage functor_data functor bytes.length thread =
        .error (functor_smaller functor_data.length bytes.length) final ∧
      thread.functor dummy = none ∧ final.functor dummy = some bytes := by
  obtain ⟨dummy, save, prepared, hreplay, _, hnone, _, _, hprepared⟩ :=
    replay_functor_prepared storage functor_data hfunctor
  refine ⟨prepared, dummy, ?_, hnone, ?_⟩
  · rw [hreplay]
    unfold replay_dummy_functor
    have hthrow : init_functor functor_data dummy bytes.length prepared =
        .error (functor_smaller functor_data.length bytes.length) prepared := by
      rw [init_functor, if_pos hfew]
      rfl
    exact bind_error hthrow _
  · have hvalue := congrArg (fun view : View => view.functor dummy) hprepared
    simpa [Thread.view] using hvalue

/-- For a functor whose bytes are in its storage: a replay gives the captured bytes if the dump
    has as many as the functor, throws otherwise, and in both cases leaves the functor, the
    buffers and the tracking as they were, if and only if the dump has enough bytes and the
    tracking was enabled before. -/
theorem replays_functor_iff (hfunctor : thread.block functor = some bytes) :
    ReplaysFunctor storage functor_data functor bytes.length thread ↔
      bytes.length ≤ functor_data.length ∧ thread.tracking_enabled = true := by
  unfold ReplaysFunctor
  rcases Nat.lt_or_ge functor_data.length bytes.length with hfew | henough
  · obtain ⟨final, dummy, hreplay, hnone, hkept⟩ := @replay_functor_too_few storage _ _ _ _ hfunctor hfew
    rw [hreplay]
    constructor
    · rintro ⟨_, _, hrestores⟩
      rw [hrestores.functor, hnone] at hkept
      cases hkept
    · rintro ⟨henough, _⟩
      omega
  · obtain ⟨final, hreplay, hview⟩ := @replay_functor_enough storage _ _ _ _ hfunctor henough
    simp only [Thread.view, View.mk.injEq] at hview
    obtain ⟨hblock, hfunctors, hdestroyed, htracking⟩ := hview
    rw [hreplay]
    constructor
    · rintro ⟨_, _, hrestores⟩
      exact ⟨henough, hrestores.tracking.symm.trans htracking⟩
    · rintro ⟨_, henabled⟩
      refine ⟨henough, rfl, hblock, hfunctors, htracking.trans henabled.symm, _, hdestroyed, ?_⟩
      simp

/-- A functor of two bytes, of which the dump has three. -/
theorem replays_functor_iff_example :
    ReplaysFunctor (fun _ _ => 0) [7, 8, 9] 0 2
        ⟨fun id => if id = 0 then some [1, 2] else none, fun _ => none, 1,
          fun id hid => ⟨if_neg (by omega), rfl⟩, [], true⟩ ↔
      2 ≤ 3 ∧ true = true :=
  @replays_functor_iff (fun _ _ => 0) [7, 8, 9] [1, 2] _ 0 rfl

/-- The dump has fewer bytes than the functor: the temporary functor stays behind. -/
theorem not_replays_functor :
    ¬ ReplaysFunctor (fun _ _ => 0) [7] 0 2
        ⟨fun id => if id = 0 then some [1, 2] else none, fun _ => none, 1,
          fun id hid => ⟨if_neg (by omega), rfl⟩, [], true⟩ := by
  rintro ⟨_, _, hrestores⟩
  have htracking := hrestores.tracking
  cases htracking

end

end krepe.replayer
