import Krepe.ApplicationReplay
import Krepe.Replay.ExtendedLambda

open std hdf5 kokkos outcome memory

namespace krepe

namespace replayer

section

variable {thread next : Thread} {id size : Nat} {data : List UInt8} {view : View}

/-- A write allocates nothing. -/
theorem write_next (hwrite : write id data thread = .ok () next) : next.next = thread.next := by
  unfold write at hwrite
  split at hwrite
  · split at hwrite
    · obtain rfl := (EStateM.Result.ok.inj hwrite).2
      rfl
    · cases hwrite
  · cases hwrite

/-- A release allocates nothing. -/
theorem free_next (hfree : free id thread = .ok () next) : next.next = thread.next := by
  unfold free at hfree
  split at hfree
  · obtain rfl := (EStateM.Result.ok.inj hfree).2
    rfl
  · cases hfree

theorem begin_lifetime_ok {bytes : List UInt8} (hview : thread.view = view) (hblock : view.block id = some bytes) :
    ∃ next, begin_lifetime id data thread = .ok () next ∧ next.next = thread.next ∧
      next.view = { view with functor := Function.update view.functor id (some data) } := by
  subst hview
  have hthread : thread.block id = some bytes := hblock
  unfold begin_lifetime
  split
  · exact ⟨_, rfl, rfl, rfl⟩
  · next hnone =>
    rw [hthread] at hnone
    cases hnone

theorem end_lifetime_ok {original : List UInt8} (hview : thread.view = view)
    (hfunctor : view.functor id = some original) :
    ∃ next, end_lifetime id data thread = .ok () next ∧ next.next = thread.next ∧
      next.view = { view with
        functor := Function.update view.functor id none
        destroyed := view.destroyed ++ [(data, original)] } := by
  subst hview
  have hthread : thread.functor id = some original := hfunctor
  unfold end_lifetime
  split
  · next found hfound =>
    obtain rfl := Option.some.inj (hthread.symm.trans hfound)
    exact ⟨_, rfl, rfl, rfl⟩
  · next hnone =>
    rw [hthread] at hnone
    cases hnone

end

end replayer

open impl replayer

section

variable {before after : CaptureMachine} {replay : ReplayMachine} {system : DumpSystem} {dump : KernelDump}
  {output : Option KernelOutput} {file : File} {guard : ScopeGuard} {wrapper : HdlWrapper}
  {storage : Nat → Nat → UInt8} {thread : Thread} {functor_storage inner : Nat} {captures host_lambda : List UInt8}
  {launched : Option Policy} {extract : ExtractBuild}

/-- With a dump which was written, an extended lambda is launched with the stored captures and
    the stored lambda for the host, if they are of its type. -/
theorem parallel_for_lambda_replays (hwritten : Written before after system dump output file)
    (hload : ScopeGuard.load replay file = .ok guard)
    (hregistered : RegisteredPolicy extract launched dump.policy)
    (hfits : ∀ policy ∈ launched, FitsFormat policy)
    (hmax : ∀ mdrange, launched = some (.mdrange mdrange) → mdrange.rank ≤ 6)
    (hworkaround : replay.use_nvcc_hdl_workaround = true)
    (haligned : wrapper.alignment ∣ 8)
    (hholds : wrapper.Holds thread.block functor_storage inner captures host_lambda)
    (hroom : thread.next + 6 ≤ wrapper.limit) (label : String) (p : GivenPolicy) (functor : impl.Functor) :
    if dump.functor_data.length < wrapper.captures_size then
      ∃ final, parallel_for_lambda storage guard wrapper label p functor_storage functor thread =
        .error (functor_smaller dump.functor_data.length wrapper.captures_size) final
    else if dump.nvcc_inner_lambda_data.length ≠ wrapper.hdl_host_lambda_size then
      ∃ final, parallel_for_lambda storage guard wrapper label p functor_storage functor thread =
        .error .undefined_behavior final
    else
      ∃ f inner final, LambdaReplayed wrapper (dump.functor_data.take wrapper.captures_size)
          dump.nvcc_inner_lambda_data thread f inner final ∧
        parallel_for_lambda storage guard wrapper label p functor_storage functor thread =
          lift_except (launches_to_replay extract launched label
            { functor with
              bytes := dump.functor_data.take wrapper.captures_size ++ wrapper.pointer_bytes inner } p) final := by
  obtain ⟨hfunctor_data, hinner_lambda, _⟩ := hwritten.rest_of_load hload
  rw [if_pos hworkaround] at hinner_lambda
  unfold parallel_for_lambda
  rw [hfunctor_data, hinner_lambda]
  split
  · next hfew =>
    obtain ⟨final, hreplay⟩ := @replay_lambda_too_few wrapper storage dump.functor_data
      dump.nvcc_inner_lambda_data _ _ _ _ _ haligned hholds hroom hfew
    exact ⟨final, bind_error hreplay _⟩
  · next henough =>
    rw [Nat.not_lt] at henough
    split
    · next hsize =>
      obtain ⟨final, hreplay⟩ := @replay_lambda_other_size wrapper storage dump.functor_data
        dump.nvcc_inner_lambda_data _ _ _ _ _ haligned hholds hroom henough hsize
      exact ⟨final, bind_error hreplay _⟩
    · next hsize =>
      obtain ⟨f, copied, final, hreplay, hreplayed⟩ := @replay_lambda_enough wrapper storage dump.functor_data
        dump.nvcc_inner_lambda_data _ _ _ _ _ haligned hholds hroom henough (not_not.mp hsize)
      refine ⟨f, copied, final, hreplayed, ?_⟩
      have hread := @read_ok final final.view f _ rfl (hreplayed.holds.block_of_aligned haligned)
      rw [HdlType.wrapper_length haligned hreplayed.holds.captures_size] at hread
      rw [bind_ok hreplay, bind_ok hread]
      cases p with
      | force_policy policy => rfl
      | ignored => rw [hwritten.visit_of_load hload hregistered hfits hmax]

end

/-- From the command line to the replay of an extended lambda. Assume that the arguments ask for
    the launch, that its policy fits the format and has at most six dimensions, that the copied
    bytes are the captures followed by a pointer with the host lambda beside them, that both
    hooks report success, that the replayer loads their file with the workaround in use, that
    the wrapper's alignment divides eight, so that no padding follows the pointer, and that its
    pointers have room for six more blocks. For any other object of the same wrapper, with
    captures and a host lambda of its own, `parallel_for` makes one launch with the captured
    captures and a pointer to a host lambda of the captured bytes, and everything the object
    owned before is there again afterwards. -/
theorem asked_lambda_replayed (session : Session) {before : List AppAction} {label : String} {policy : Policy}
    {functor : FunctorObject} {device_id : UInt32} {after : CaptureMachine} {created appended : ViewDumpResult}
    {files : String → File} {replay : ReplayMachine} {guard : ScopeGuard} {wrapper : HdlWrapper}
    {captures pointer host_lambda own_captures own_host_lambda : List UInt8} {storage : Nat → Nat → UInt8}
    {thread : Thread} {functor_storage own_inner : Nat} {replayed : impl.Functor}
    (hasked : Asked session.argv (c_str label) (launches (c_str label) before + 1))
    (hfits : FitsFormat policy) (hmax : ∀ mdrange, policy = .mdrange mdrange → mdrange.rank ≤ 6)
    (hbytes : functor.bytes = captures ++ pointer) (hcaptures : captures.length = wrapper.captures_size)
    (hinner_lambda : functor.inner_lambda = some host_lambda)
    (hhost_lambda : host_lambda.length = wrapper.hdl_host_lambda_size)
    (hlaunch : session.parallel_for before label policy functor device_id after = ([created, appended], files))
    (hcreated : created.ok = true) (happended : appended.ok = true)
    (hworkaround : replay.use_nvcc_hdl_workaround = true)
    (hload : ScopeGuard.load replay (files created.filename) = .ok guard) (haligned : wrapper.alignment ∣ 8)
    (hholds : wrapper.Holds thread.block functor_storage own_inner own_captures own_host_lambda)
    (hroom : thread.next + 6 ≤ wrapper.limit) (hcallable : Callable replayed policy) :
    ∃ f inner final, LambdaReplayed wrapper captures host_lambda thread f inner final ∧
      parallel_for_lambda storage guard wrapper label .ignored functor_storage replayed thread =
        .ok [⟨label, queried_policy session.extract policy,
          { replayed with bytes := captures ++ wrapper.pointer_bytes inner }⟩] final := by
  obtain ⟨dump, output, _, _, hwritten, hfunctor_data, hnvcc, hpolicy, _⟩ :=
    asked_written session hasked hlaunch hcreated happended
  rw [hinner_lambda, Option.getD_some] at hnvcc
  have htake : dump.functor_data.take wrapper.captures_size = captures := by
    rw [hfunctor_data, hbytes, ← hcaptures, List.take_left]
  have henough : ¬ dump.functor_data.length < wrapper.captures_size := by
    rw [hfunctor_data, hbytes, List.length_append]
    omega
  have hreplays := @parallel_for_lambda_replays _ _ _ _ _ _ _ _ wrapper storage thread functor_storage own_inner
    own_captures own_host_lambda (some policy) session.extract hwritten hload hpolicy (by simpa using hfits)
    (fun mdrange hmdrange => hmax mdrange (Option.some.inj hmdrange)) hworkaround haligned hholds hroom label
    .ignored replayed
  rw [if_neg henough, if_neg (by rw [hnvcc]; exact not_not.mpr hhost_lambda), htake, hnvcc] at hreplays
  obtain ⟨f, inner, final, hreplayed, hparallel⟩ := hreplays
  refine ⟨f, inner, final, hreplayed, ?_⟩
  have hcallableReplayed : Callable { replayed with bytes := captures ++ wrapper.pointer_bytes inner } policy := by
    cases policy <;> exact hcallable
  rw [hparallel]
  simp only [launches_to_replay, hcallableReplayed, if_true]
  rfl

namespace replayer

variable (type : HdlType)

/-- The lambda for the host of a wrapper with some bytes. -/
def wrapper_pointer (data : List UInt8) : Nat := type.block_of ((data.drop type.captures_size).take 8)

/-- A wrapper which does with its lambda for the host what it does with itself. -/
def copy_wrapper (id source : Nat) : ThreadM Unit := do
  let data ← read source type.size
  let bytes ← read (wrapper_pointer type data) type.hdl_host_lambda_size
  let host_lambda ← malloc (fun _ _ => 0) type.hdl_host_lambda_size
  write host_lambda bytes
  begin_lifetime host_lambda bytes
  let copied := data.take type.captures_size ++ type.pointer_bytes host_lambda ++ data.drop (type.captures_size + 8)
  write id copied
  begin_lifetime id copied

/-- The destructor of the wrapper: the host lambda ends its lifetime and is freed, then the
    wrapper ends its own. -/
def destroy_wrapper (id : Nat) : ThreadM Unit := do
  let data ← read id type.size
  let host_lambda := wrapper_pointer type data
  let bytes ← read host_lambda type.hdl_host_lambda_size
  end_lifetime host_lambda bytes
  free host_lambda
  end_lifetime id data

section

variable {type : HdlType} {thread : Thread} {id source inner : Nat} {data captures host_lambda : List UInt8}

/-- The pointer that was stored is the one which is read. -/
theorem HdlType.Stores.pointer (hstores : type.Stores data captures inner)
    (hcaptures : captures.length = type.captures_size) (haddressed : inner < type.limit) :
    wrapper_pointer type data = inner := by
  obtain ⟨padding, _, rfl⟩ := hstores
  rw [wrapper_pointer, List.append_assoc, ← hcaptures, List.drop_left, ← type.pointer_bytes_length inner,
    List.take_left, type.block_of_pointer _ haddressed]

/-- The captures and the padding of a wrapper, with another pointer. -/
theorem HdlType.Stores.with_pointer (hstores : type.Stores data captures inner)
    (hcaptures : captures.length = type.captures_size) (other : Nat) :
    type.Stores (data.take type.captures_size ++ type.pointer_bytes other ++ data.drop (type.captures_size + 8))
      captures other := by
  obtain ⟨padding, hpadding, rfl⟩ := hstores
  refine ⟨padding, hpadding, ?_⟩
  have hwrapper : (captures ++ type.pointer_bytes inner).length = type.captures_size + 8 := by
    rw [List.length_append, hcaptures, type.pointer_bytes_length]
  rw [← hwrapper, List.drop_left, List.append_assoc captures, ← hcaptures, List.take_left]

/-- A wrapper that is held is read as its captures and its pointer. -/
theorem read_wrapper (hholds : type.Holds thread.block id inner captures host_lambda)
    (hblock : thread.block id = some data) :
    read id type.size thread = .ok data thread ∧ type.Stores data captures inner ∧
      wrapper_pointer type data = inner ∧ read inner type.hdl_host_lambda_size thread = .ok host_lambda thread := by
  obtain ⟨found, hfound, hstores⟩ := hholds.wrapper
  obtain rfl := Option.some.inj (hblock.symm.trans hfound)
  have hread := @read_ok thread thread.view id _ rfl hblock
  rw [hstores.length hholds.captures_size] at hread
  have hinner := @read_ok thread thread.view inner _ rfl hholds.inner_block
  rw [hholds.host_lambda_size] at hinner
  exact ⟨hread, hstores, hstores.pointer hholds.captures_size hholds.addressed, hinner⟩

/-- The copy of a wrapper has its captures, and a host lambda of its own. -/
theorem copy_wrapper_ok {storage : List UInt8} (hholds : type.Holds thread.block source inner captures host_lambda)
    (hblock : thread.block id = some storage) (hlength : storage.length = type.size) :
    ∃ next copied, copy_wrapper type id source thread = .ok () next ∧ next.next = thread.next + 1 ∧
      type.Stores copied captures thread.next ∧
      next.view = { thread.view with
        block := Function.update (Function.update thread.block thread.next (some host_lambda)) id (some copied)
        functor := Function.update (Function.update thread.functor thread.next (some host_lambda)) id
          (some copied) } := by
  obtain ⟨data, hdata, _⟩ := hholds.wrapper
  obtain ⟨hread, hstores, hpointer, hinner⟩ := read_wrapper hholds hdata
  have hid : id ≠ thread.next := (Thread.lt_next hblock).ne
  obtain ⟨allocated, garbage, hmalloc, hnext, hgarbage, hallocated⟩ : ∃ allocated garbage,
      malloc (fun _ _ => 0) type.hdl_host_lambda_size thread = .ok thread.next allocated ∧
        allocated.next = thread.next + 1 ∧ garbage.length = type.hdl_host_lambda_size ∧
        allocated.view =
          { thread.view with block := Function.update thread.block thread.next (some garbage) } :=
    ⟨_, (List.range type.hdl_host_lambda_size).map fun _ => 0, rfl, rfl, by simp, rfl⟩
  obtain ⟨made, hmade⟩ : ∃ made, data.take type.captures_size ++ type.pointer_bytes thread.next ++
      data.drop (type.captures_size + 8) = made := ⟨_, rfl⟩
  have hmade_stores : type.Stores made captures thread.next :=
    hmade ▸ hstores.with_pointer hholds.captures_size thread.next
  obtain ⟨written, hwrite, hwritten⟩ := @write_ok _ _ thread.next garbage host_lambda hallocated (by simp)
    (hholds.host_lambda_size.trans hgarbage.symm)
  obtain ⟨begun, hbegin, hbegunNext, hbegun⟩ := @begin_lifetime_ok _ thread.next host_lambda _ host_lambda hwritten
    (by simp)
  obtain ⟨copied, hcopy, hcopied⟩ := @write_ok _ _ id storage made hbegun
    (by simpa [Function.update_of_ne hid] using hblock)
    ((hmade_stores.length hholds.captures_size).trans hlength.symm)
  obtain ⟨next, hend, hendNext, hview⟩ := @begin_lifetime_ok _ id made _ made hcopied (by simp)
  refine ⟨next, made, ?_, ?_, hmade_stores, ?_⟩
  · unfold copy_wrapper
    rw [bind_ok hread, hpointer, bind_ok hinner, bind_ok hmalloc, bind_ok hwrite, bind_ok hbegin, hmade, bind_ok hcopy,
      hend]
  · rw [hendNext, write_next hcopy, hbegunNext, write_next hwrite, hnext]
  · rw [hview]
    simp [Thread.view]

/-- The destructor of a wrapper frees its host lambda. -/
theorem destroy_wrapper_ok {original host_original : List UInt8}
    (hholds : type.Holds thread.block id inner captures host_lambda) (hblock : thread.block id = some data)
    (horiginal : thread.functor id = some original) (hhost : thread.functor inner = some host_original) :
    ∃ next, destroy_wrapper type id thread = .ok () next ∧ next.next = thread.next ∧
      next.view = { thread.view with
        block := Function.update thread.block inner none
        functor := Function.update (Function.update thread.functor inner none) id none
        destroyed := thread.destroyed ++ [(host_lambda, host_original), (data, original)] } := by
  obtain ⟨hread, _, hpointer, hinner⟩ := read_wrapper hholds hblock
  obtain ⟨ended, hend, hendNext, hended⟩ := @end_lifetime_ok thread inner host_lambda _ host_original rfl hhost
  obtain ⟨freed, hfree, hfreed⟩ := @free_ok _ _ inner host_lambda hended hholds.inner_block
  have hkept : Function.update thread.functor inner none id = some original := by
    rw [Function.update_of_ne hholds.distinct.symm, horiginal]
  obtain ⟨next, hlast, hlastNext, hview⟩ := @end_lifetime_ok freed id data _ original hfreed hkept
  refine ⟨next, ?_, ?_, ?_⟩
  · unfold destroy_wrapper
    rw [bind_ok hread, hpointer, bind_ok hinner, bind_ok hend, bind_ok hfree, hlast]
  · rw [hlastNext, free_next hfree, hendNext]
  · rw [hview]
    simp [Thread.view]

end

/-- Eight bytes of captures, and three bytes of the lambda for the host. -/
def byte_type : HdlType where
  captures_size := 8
  pointer_aligned := Nat.dvd_refl 8
  alignment := 8
  hdl_host_lambda_size := 3
  pointer_bytes id := [UInt8.ofNat id, 0, 0, 0, 0, 0, 0, 0]
  pointer_bytes_length _ := rfl
  block_of bytes := (bytes.headD 0).toNat
  limit := 256
  block_of_pointer _ hid := Nat.mod_eq_of_lt hid

/-- The wrapper of a lambda of bytes. -/
def byte_wrapper : HdlWrapper where
  toHdlType := byte_type
  copy_construct := copy_wrapper byte_type
  destroy := destroy_wrapper byte_type
  copy_construct_ok hholds hblock hlength _ _ _ := copy_wrapper_ok hholds hblock hlength
  destroy_ok hholds hblock horiginal hhost := destroy_wrapper_ok hholds hblock horiginal hhost

end replayer

/-- A wrapper of sixteen bytes as the application launches it, whose pointer to the host lambda
    means nothing to the replayer, with a host lambda of three bytes. -/
def lambda_functor : FunctorObject := ⟨[1, 2, 0, 0, 0, 0, 0, 0, 9, 9, 9, 9, 9, 9, 9, 9], some [3, 4, 5], []⟩

/-- The functor of the replayer, which has other captures. -/
def lambda_thread : Thread where
  block id := if id = 0 then some [7, 7, 0, 0, 0, 0, 0, 0, 1, 0, 0, 0, 0, 0, 0, 0] else
    if id = 1 then some [8, 8, 8] else none
  functor _ := none
  next := 2
  fresh _ hid := ⟨(if_neg (Nat.ne_of_gt (Nat.lt_of_lt_of_le Nat.zero_lt_two hid))).trans
    (if_neg (Nat.ne_of_gt hid)), rfl⟩
  destroyed := []
  tracking_enabled := true

/-- A wrapper with eight bytes of captures and a host lambda of three, replayed over another one
    of the same type. -/
theorem asked_lambda_replayed_example :
    ∃ created appended files guard,
      host_session.parallel_for host_actions "kernel" (.scalar 7) lambda_functor 0 (host_capture fun _ => 0) =
          ([created, appended], files) ∧
        ScopeGuard.load { host_replay with use_nvcc_hdl_workaround := true } (files created.filename) = .ok guard ∧
        ∃ f inner final, LambdaReplayed byte_wrapper [1, 2, 0, 0, 0, 0, 0, 0] [3, 4, 5] lambda_thread f inner final ∧
          parallel_for_lambda (fun _ _ => 0) guard byte_wrapper "kernel" .ignored 0 scalar_functor lambda_thread =
            .ok [⟨"kernel", .scalar 7,
              { scalar_functor with bytes := [1, 2, 0, 0, 0, 0, 0, 0] ++ byte_wrapper.pointer_bytes inner }⟩] final := by
  obtain ⟨created, appended, files, guard, hlaunch, hcreated, happended, hload⟩ :=
    host_session_loads lambda_functor (fun _ => 0) true
  have hholds : byte_wrapper.Holds lambda_thread.block 0 1 [7, 7, 0, 0, 0, 0, 0, 0] [8, 8, 8] :=
    ⟨⟨_, rfl, [], rfl, rfl⟩, rfl, rfl, rfl, by decide, by decide⟩
  have hreplayed := @asked_lambda_replayed host_session host_actions "kernel" (.scalar 7) lambda_functor 0
    (host_capture fun _ => 0) created appended files { host_replay with use_nvcc_hdl_workaround := true } guard
    byte_wrapper [1, 2, 0, 0, 0, 0, 0, 0] [9, 9, 9, 9, 9, 9, 9, 9] [3, 4, 5] [7, 7, 0, 0, 0, 0, 0, 0] [8, 8, 8]
    (fun _ _ => 0) lambda_thread 0 1 scalar_functor host_asked trivial (fun _ hnone => by cases hnone)
    rfl rfl rfl rfl hlaunch hcreated happended rfl
    hload (Nat.dvd_refl 8) hholds (by decide) rfl
  exact ⟨created, appended, files, guard, hlaunch, hload, hreplayed⟩

end krepe
