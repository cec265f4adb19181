import Krepe.Memory.Extend
import Krepe.Replay.Functor

open std

namespace krepe.replayer

/-- The type of an extended lambda: its captures, which end where the next member may start,
    and as the last member of the wrapper the pointer to a lambda for the host with the same
    captures. -/
structure HdlType where
  captures_size : Nat
  pointer_aligned : 8 ∣ captures_size
  alignment : Nat
  hdl_host_lambda_size : Nat
  pointer_bytes : Nat → List UInt8
  pointer_bytes_length : ∀ id, (pointer_bytes id).length = 8
  block_of : List UInt8 → Nat
  /-- The blocks which have an address. -/
  limit : Nat
  block_of_pointer : ∀ id < limit, block_of (pointer_bytes id) = id

/-- The bytes behind the pointer, as a size is a multiple of the alignment. -/
def HdlType.padding (type : HdlType) : Nat :=
  (type.alignment - (type.captures_size + 8) % type.alignment) % type.alignment

/-- `sizeof(Functor)`. -/
def HdlType.size (type : HdlType) : Nat := type.captures_size + 8 + type.padding

/-- The bytes of a wrapper with some padding. -/
def HdlType.Stores (type : HdlType) (data captures : List UInt8) (inner : Nat) : Prop :=
  ∃ padding, padding.length = type.padding ∧ data = captures ++ type.pointer_bytes inner ++ padding

/-- A wrapper in a block, and the lambda for the host in a block of its own. -/
structure HdlType.Holds (type : HdlType) (block : Nat → Option (List UInt8)) (id inner : Nat)
    (captures host_lambda : List UInt8) : Prop where
  wrapper : ∃ data, block id = some data ∧ type.Stores data captures inner
  inner_block : block inner = some host_lambda
  captures_size : captures.length = type.captures_size
  host_lambda_size : host_lambda.length = type.hdl_host_lambda_size
  addressed : inner < type.limit
  distinct : inner ≠ id

section

variable {type : HdlType} {block : Nat → Option (List UInt8)} {id inner : Nat}
  {data captures host_lambda : List UInt8}

/-- A stored wrapper has the size of its type. -/
theorem HdlType.Stores.length (hstores : type.Stores data captures inner)
    (hcaptures : captures.length = type.captures_size) : data.length = type.size := by
  obtain ⟨padding, hpadding, rfl⟩ := hstores
  rw [List.length_append, List.length_append, hcaptures, type.pointer_bytes_length, hpadding, HdlType.size]

/-- A pointer ends a type which is aligned as pointers are. -/
theorem HdlType.padding_of_aligned (haligned : type.alignment ∣ 8) : type.padding = 0 := by
  have hend : type.alignment ∣ type.captures_size + 8 :=
    Nat.dvd_trans haligned (Nat.dvd_add type.pointer_aligned (Nat.dvd_refl 8))
  rw [HdlType.padding, Nat.mod_eq_zero_of_dvd hend, Nat.sub_zero, Nat.mod_self]

/-- Without over-aligned captures nothing follows the pointer. -/
theorem HdlType.size_of_aligned (haligned : type.alignment ∣ 8) : type.size = type.captures_size + 8 := by
  rw [HdlType.size, HdlType.padding_of_aligned haligned, Nat.add_zero]

/-- Without over-aligned captures a wrapper is its captures and its pointer. -/
theorem HdlType.stores_of_aligned (haligned : type.alignment ∣ 8) :
    type.Stores data captures inner ↔ data = captures ++ type.pointer_bytes inner := by
  unfold HdlType.Stores
  simp [HdlType.padding_of_aligned haligned]

theorem HdlType.Holds.block_of_aligned (hholds : type.Holds block id inner captures host_lambda)
    (haligned : type.alignment ∣ 8) : block id = some (captures ++ type.pointer_bytes inner) := by
  obtain ⟨data, hblock, hstores⟩ := hholds.wrapper
  rw [hblock, (HdlType.stores_of_aligned haligned).mp hstores]

theorem HdlType.wrapper_length (haligned : type.alignment ∣ 8) (hcaptures : captures.length = type.captures_size)
    (id : Nat) : (captures ++ type.pointer_bytes id).length = type.size := by
  rw [List.length_append, hcaptures, type.pointer_bytes_length, HdlType.size_of_aligned haligned]

end

/-- The wrapper which nvcc generates. A copy has a copy of the lambda for the host, which is
    destroyed with it. Both are bytewise while the tracking of views is disabled. -/
structure HdlWrapper extends HdlType where
  copy_construct : Nat → Nat → ThreadM Unit
  destroy : Nat → ThreadM Unit
  copy_construct_ok : ∀ {thread : Thread} {id source inner : Nat} {captures host_lambda storage : List UInt8},
    toHdlType.Holds thread.block source inner captures host_lambda → thread.block id = some storage →
    storage.length = toHdlType.size → source ≠ id → inner ≠ id → thread.next < limit →
    ∃ next copied, copy_construct id source thread = .ok () next ∧ next.next = thread.next + 1 ∧
      toHdlType.Stores copied captures thread.next ∧
      next.view = { thread.view with
        block := Function.update (Function.update thread.block thread.next (some host_lambda)) id (some copied)
        functor := Function.update (Function.update thread.functor thread.next (some host_lambda)) id
          (some copied) }
  destroy_ok : ∀ {thread : Thread} {id inner : Nat}
      {data captures host_lambda original host_original : List UInt8},
    toHdlType.Holds thread.block id inner captures host_lambda → thread.block id = some data →
    thread.functor id = some original → thread.functor inner = some host_original →
    ∃ next, destroy id thread = .ok () next ∧ next.next = thread.next ∧
      next.view = { thread.view with
        block := Function.update thread.block inner none
        functor := Function.update (Function.update thread.functor inner none) id none
        destroyed := thread.destroyed ++
          [(host_lambda, host_original), (data, original)] }

variable (wrapper : HdlWrapper) (storage : Nat → Nat → UInt8) (functor_data nvcc_inner_lambda_data : List UInt8)

/-- The last eight bytes of the wrapper, read as a pointer. -/
def hdl_host_lambda_pointer (functor : Nat) : ThreadM Nat := do
  let data ← read functor wrapper.size
  return wrapper.block_of (data.drop (wrapper.size - 8))

/-- What is read is the end of the padding where there is some, and not the pointer. -/
theorem hdl_host_lambda_pointer_of_padded {thread : Thread} {functor inner : Nat} {captures padding : List UInt8}
    (hcaptures : captures.length = wrapper.captures_size) (hpadding : padding.length = wrapper.padding)
    (hpadded : 8 ≤ wrapper.padding)
    (hblock : thread.block functor = some (captures ++ wrapper.pointer_bytes inner ++ padding)) :
    hdl_host_lambda_pointer wrapper functor thread =
      .ok (wrapper.block_of (padding.drop (wrapper.padding - 8))) thread := by
  have hpointer := wrapper.pointer_bytes_length inner
  have hread := @read_ok thread thread.view functor _ rfl hblock
  rw [List.length_append, List.length_append, hcaptures, hpointer, hpadding] at hread
  have hdrop : (captures ++ wrapper.pointer_bytes inner ++ padding).drop (wrapper.size - 8) =
      padding.drop (wrapper.padding - 8) := by
    rw [List.drop_append, List.drop_eq_nil_of_le, List.nil_append, List.length_append, hcaptures, hpointer]
    · congr 1
      rw [HdlType.size]
      omega
    · rw [List.length_append, hcaptures, hpointer, HdlType.size]
      omega
  unfold hdl_host_lambda_pointer
  rw [HdlType.size] at hdrop ⊢
  rw [bind_ok hread, hdrop]
  rfl

/-- The assertion is on the size of the lambda which was read. -/
def copy_extended_lambda_inner_lambda (inner_lambda_ptr inner_lambda_size : Nat) : ThreadM Nat := do
  if inner_lambda_size ≠ nvcc_inner_lambda_data.length then throw .undefined_behavior
  let inner_lambda_save ← malloc storage inner_lambda_size
  memcpy inner_lambda_save inner_lambda_ptr inner_lambda_size
  write inner_lambda_ptr nvcc_inner_lambda_data
  return inner_lambda_save

/-- The saved bytes go back over the host lambda, and the buffer they were kept in is freed. -/
def restore_extended_lambda_inner_lambda (inner_lambda_ptr inner_lambda_save : Nat) : ThreadM Unit := do
  memcpy inner_lambda_ptr inner_lambda_save nvcc_inner_lambda_data.length
  free inner_lambda_save

/-- `replay_functor` from where the temporary functor has the stored bytes, for an extended
    lambda. The result is where the functor is which it returns. -/
def replay_dummy_lambda (dummy_functor_storage dummy_functor_buffer_save : Nat) : ThreadM Nat := do
  let inner_lambda_ptr ← hdl_host_lambda_pointer wrapper dummy_functor_storage
  let inner_lambda_save ← copy_extended_lambda_inner_lambda storage nvcc_inner_lambda_data inner_lambda_ptr
    wrapper.hdl_host_lambda_size
  let f ← malloc storage wrapper.size
  wrapper.copy_construct f dummy_functor_storage
  memcpy dummy_functor_storage dummy_functor_buffer_save wrapper.size
  free dummy_functor_buffer_save
  restore_extended_lambda_inner_lambda nvcc_inner_lambda_data inner_lambda_ptr inner_lambda_save
  wrapper.destroy dummy_functor_storage
  free dummy_functor_storage
  tracking_enable
  return f

/-- `replay_functor` for an extended lambda. The pointer of the temporary functor stays. -/
def replay_lambda (functor : Nat) : ThreadM Nat := do
  tracking_disable
  let dummy_functor_storage ← malloc storage wrapper.size
  wrapper.copy_construct dummy_functor_storage functor
  let dummy_functor_buffer_save ← malloc storage wrapper.size
  memcpy dummy_functor_buffer_save dummy_functor_storage wrapper.size
  init_functor functor_data dummy_functor_storage (wrapper.size - 8)
  replay_dummy_lambda wrapper storage nvcc_inner_lambda_data dummy_functor_storage dummy_functor_buffer_save

/-- A thread which has come from another one: the blocks and the functors since then. -/
structure Since (start : Thread) (blocks functors : List (Option (List UInt8)))
    (destroyed : List (List UInt8 × List UInt8)) (tracking_enabled : Bool) (thread : Thread) : Prop where
  next : thread.next = start.next + blocks.length
  length : functors.length = blocks.length
  block : thread.block = memory.extend start.block start.next blocks
  functor : thread.functor = memory.extend start.functor start.next functors
  destroyed : thread.destroyed = destroyed
  tracking : thread.tracking_enabled = tracking_enabled

section

variable {start thread : Thread} {blocks functors : List (Option (List UInt8))}
  {destroyed : List (List UInt8 × List UInt8)} {tracking_enabled : Bool} {bytes data : List UInt8}

theorem since_disabled (start : Thread) :
    ∃ disabled, tracking_disable start = .ok () disabled ∧ Since start [] [] start.destroyed false disabled := by
  refine ⟨_, rfl, rfl, rfl, ?_, ?_, rfl, rfl⟩
  · exact (memory.extend_nil fun id hid => (start.fresh id hid).1).symm
  · exact (memory.extend_nil fun id hid => (start.fresh id hid).2).symm

/-- The blocks since the start are at their numbers. -/
theorem Since.block_at (hsince : Since start blocks functors destroyed tracking_enabled thread) (index : Nat) :
    thread.block (start.next + index) = blocks[index]?.join := by
  rw [hsince.block, memory.extend_add]

theorem Since.functor_at (hsince : Since start blocks functors destroyed tracking_enabled thread) (index : Nat) :
    thread.functor (start.next + index) = functors[index]?.join := by
  rw [hsince.functor, memory.extend_add]

theorem lt_length_of_join {index : Nat} (hbytes : blocks[index]?.join = some bytes) : index < blocks.length := by
  by_contra hnot
  rw [List.getElem?_eq_none (Nat.not_lt.mp hnot)] at hbytes
  cases hbytes

/-- A new block is the next one since the start. -/
theorem Since.malloc (hsince : Since start blocks functors destroyed tracking_enabled thread)
    (count : Nat) (hcount : blocks.length = count) (storage : Nat → Nat → UInt8) (size : Nat) :
    ∃ id next bytes, replayer.malloc storage size thread = .ok id next ∧ id = start.next + count ∧
      bytes.length = size ∧
      Since start (blocks ++ [some bytes]) (functors ++ [none]) destroyed tracking_enabled next := by
  refine ⟨_, _, (List.range size).map (storage thread.next), rfl, hcount ▸ hsince.next, by simp, ?_⟩
  refine ⟨?_, by simp [hsince.length], ?_, ?_, hsince.destroyed, hsince.tracking⟩
  · dsimp only
    rw [hsince.next, List.length_append, List.length_singleton, Nat.add_assoc]
  · dsimp only
    rw [hsince.next, hsince.block, memory.update_extend_next]
  · dsimp only
    rw [hsince.functor, memory.extend_concat_none]

/-- A block since the start is read as it is. -/
theorem Since.read (hsince : Since start blocks functors destroyed tracking_enabled thread) (index : Nat)
    (hbytes : blocks[index]?.join = some bytes) :
    replayer.read (start.next + index) bytes.length thread = .ok bytes thread :=
  read_ok rfl ((hsince.block_at index).trans hbytes)

/-- A block is written from its start. -/
theorem Since.write (hsince : Since start blocks functors destroyed tracking_enabled thread) (index : Nat)
    (hbytes : blocks[index]?.join = some bytes) (hlength : data.length ≤ bytes.length) :
    ∃ next, replayer.write (start.next + index) data thread = .ok () next ∧
      Since start (blocks.set index (some (data ++ bytes.drop data.length))) functors destroyed tracking_enabled
        next := by
  have hblock := (hsince.block_at index).trans hbytes
  have hindex := lt_length_of_join hbytes
  unfold replayer.write
  split
  · next found hfound =>
    obtain rfl := Option.some.inj (hblock.symm.trans hfound)
    rw [if_pos hlength]
    refine ⟨_, rfl, by simpa [Thread.set_block] using hsince.next, by simp [hsince.length], ?_, hsince.functor,
      hsince.destroyed, hsince.tracking⟩
    dsimp only [Thread.set_block]
    rw [hsince.block, memory.update_extend hindex]
  · next hnone =>
    rw [hblock] at hnone
    cases hnone

/-- A copy over a block since the start gives it the bytes of the other one. -/
theorem Since.memcpy (hsince : Since start blocks functors destroyed tracking_enabled thread)
    (index other : Nat) (hbytes : blocks[index]?.join = some bytes) (hdata : blocks[other]?.join = some data)
    (hlength : data.length = bytes.length) :
    ∃ next, replayer.memcpy (start.next + index) (start.next + other) data.length thread = .ok () next ∧
      Since start (blocks.set index (some data)) functors destroyed tracking_enabled next := by
  obtain ⟨next, hwrite, hnext⟩ := hsince.write index hbytes hlength.le
  rw [hlength, List.drop_length, List.append_nil] at hnext
  refine ⟨next, ?_, hnext⟩
  unfold replayer.memcpy
  rw [bind_ok (hsince.read other hdata), hwrite]

/-- A block since the start which is freed is none. -/
theorem Since.free (hsince : Since start blocks functors destroyed tracking_enabled thread) (index : Nat)
    (hbytes : blocks[index]?.join = some bytes) :
    ∃ next, replayer.free (start.next + index) thread = .ok () next ∧
      Since start (blocks.set index none) functors destroyed tracking_enabled next := by
  have hblock := (hsince.block_at index).trans hbytes
  have hindex := lt_length_of_join hbytes
  unfold replayer.free
  split
  · refine ⟨_, rfl, by simpa [Thread.set_block] using hsince.next, by simp [hsince.length], ?_, hsince.functor,
      hsince.destroyed, hsince.tracking⟩
    dsimp only [Thread.set_block]
    rw [hsince.block, memory.update_extend hindex]
  · next hnone =>
    rw [hblock] at hnone
    cases hnone

end

section

variable {wrapper : HdlWrapper} {start thread : Thread} {blocks functors : List (Option (List UInt8))}
  {destroyed : List (List UInt8 × List UInt8)} {tracking_enabled : Bool} {source inner : Nat}
  {captures host_lambda bytes original host_original : List UInt8} (haligned : wrapper.alignment ∣ 8)

include haligned

/-- The copy of a wrapper lives in a block since the start, with a host lambda in a new block. -/
theorem Since.copy_construct (hsince : Since start blocks functors destroyed tracking_enabled thread) (index : Nat)
    (hholds : wrapper.Holds thread.block source inner captures host_lambda)
    (hbytes : blocks[index]?.join = some bytes) (hlength : bytes.length = wrapper.size)
    (hsource : source ≠ start.next + index) (hinner : inner ≠ start.next + index) (count : Nat)
    (hcount : blocks.length = count) (hroom : start.next + count < wrapper.limit) :
    ∃ next, wrapper.copy_construct (start.next + index) source thread = .ok () next ∧
      Since start
        ((blocks ++ [some host_lambda]).set index
          (some (captures ++ wrapper.pointer_bytes (start.next + count))))
        ((functors ++ [some host_lambda]).set index
          (some (captures ++ wrapper.pointer_bytes (start.next + count))))
        destroyed tracking_enabled next := by
  subst hcount
  obtain ⟨next, copied, hcopy, hnext, hcopied, hview⟩ := wrapper.copy_construct_ok hholds
    ((hsince.block_at index).trans hbytes) hlength hsource hinner (hsince.next ▸ hroom)
  obtain rfl := (HdlType.stores_of_aligned haligned).mp hcopied
  simp only [Thread.view, View.mk.injEq, hsince.next, hsince.block, hsince.functor, hsince.destroyed,
    hsince.tracking] at hview
  obtain ⟨hblock, hfunctor, hdestroyed, htracking⟩ := hview
  have hindex := lt_length_of_join hbytes
  refine ⟨next, hcopy, ?_, by simp [hsince.length], ?_, ?_, hdestroyed, htracking⟩
  · rw [hnext, hsince.next, List.length_set, List.length_append, List.length_singleton, Nat.add_assoc]
  · rw [hblock, memory.update_extend_next, memory.update_extend (by simp; omega)]
  · rw [hfunctor, ← hsince.length, memory.update_extend_next, memory.update_extend (by simp [hsince.length]; omega)]

theorem Since.hdl_host_lambda_pointer (hsince : Since start blocks functors destroyed tracking_enabled thread)
    (index other : Nat) (hbytes : blocks[index]?.join = some (captures ++ wrapper.pointer_bytes (start.next + other)))
    (hcaptures : captures.length = wrapper.captures_size) (hroom : start.next + other < wrapper.limit) :
    replayer.hdl_host_lambda_pointer wrapper (start.next + index) thread = .ok (start.next + other) thread := by
  have hread := hsince.read index hbytes
  rw [List.length_append, hcaptures, wrapper.pointer_bytes_length] at hread
  have hdrop : (captures ++ wrapper.pointer_bytes (start.next + other)).drop (wrapper.size - 8) =
      wrapper.pointer_bytes (start.next + other) := by
    rw [HdlType.size_of_aligned haligned, Nat.add_sub_cancel, ← hcaptures, List.drop_left]
  unfold replayer.hdl_host_lambda_pointer
  rw [HdlType.size_of_aligned haligned] at hdrop ⊢
  rw [bind_ok hread, hdrop, wrapper.block_of_pointer _ hroom]
  rfl

/-- A wrapper since the start is destroyed together with its host lambda. -/
theorem Since.destroy (hsince : Since start blocks functors destroyed tracking_enabled thread)
    (index other : Nat)
    (hholds : wrapper.Holds thread.block (start.next + index) (start.next + other) captures host_lambda)
    (horiginal : functors[index]?.join = some original) (hhost : functors[other]?.join = some host_original) :
    ∃ next, wrapper.destroy (start.next + index) thread = .ok () next ∧
      Since start (blocks.set other none) ((functors.set other none).set index none)
        (destroyed ++
          [(host_lambda, host_original), (captures ++ wrapper.pointer_bytes (start.next + other), original)])
        tracking_enabled next := by
  obtain ⟨next, hdestroy, hnext, hview⟩ := wrapper.destroy_ok hholds (hholds.block_of_aligned haligned)
    ((hsince.functor_at index).trans horiginal) ((hsince.functor_at other).trans hhost)
  simp only [Thread.view, View.mk.injEq, hsince.block, hsince.functor, hsince.destroyed, hsince.tracking] at hview
  obtain ⟨hblock, hfunctor, hdestroyed, htracking⟩ := hview
  have hindex := lt_length_of_join horiginal
  have hother := lt_length_of_join hhost
  refine ⟨next, hdestroy, ?_, by simp [hsince.length], ?_, ?_, hdestroyed, htracking⟩
  · rw [hnext, hsince.next, List.length_set]
  · rw [hblock, memory.update_extend (hsince.length ▸ hother)]
  · rw [hfunctor, memory.update_extend hother, memory.update_extend (by simpa using hindex)]

end

section

variable {wrapper : HdlWrapper} {storage : Nat → Nat → UInt8} {functor_data nvcc_inner_lambda_data : List UInt8}
  {start thread : Thread} {functor inner : Nat} {captures host_lambda : List UInt8}
  (haligned : wrapper.alignment ∣ 8)

include haligned

/-- The temporary functor and the copy of its bytes, before it has the stored bytes. -/
theorem replay_lambda_prepared (hholds : wrapper.Holds start.block functor inner captures host_lambda)
    (hroom : start.next + 6 ≤ wrapper.limit) :
    ∃ prepared, replay_lambda wrapper storage functor_data nvcc_inner_lambda_data functor start =
        (init_functor functor_data (start.next + 0) (wrapper.size - 8) >>= fun _ =>
          replay_dummy_lambda wrapper storage nvcc_inner_lambda_data (start.next + 0) (start.next + 2)) prepared ∧
      Since start
        [some (captures ++ wrapper.pointer_bytes (start.next + 1)), some host_lambda,
          some (captures ++ wrapper.pointer_bytes (start.next + 1))]
        [some (captures ++ wrapper.pointer_bytes (start.next + 1)), some host_lambda, none]
        start.destroyed false prepared := by
  have hfunctor := Thread.lt_next (hholds.block_of_aligned haligned)
  have hinner := Thread.lt_next hholds.inner_block
  obtain ⟨disabled, hdisable, hdisabled⟩ := since_disabled start
  obtain ⟨_, allocated, garbage, hmalloc, rfl, hlength, hallocated⟩ := hdisabled.malloc 0 rfl storage wrapper.size
  have hkept : wrapper.Holds allocated.block functor inner captures host_lambda := by
    refine { hholds with wrapper := ?_, inner_block := ?_ }
    · rw [hallocated.block, memory.extend_of_lt hfunctor]
      exact hholds.wrapper
    · rw [hallocated.block, memory.extend_of_lt hinner, hholds.inner_block]
  obtain ⟨constructed, hconstruct, hconstructed⟩ := hallocated.copy_construct haligned 0 hkept rfl hlength
    (by omega) (by omega) 1 rfl (by omega)
  obtain ⟨_, saving, unused, hsave, rfl, hunused, hsaving⟩ := hconstructed.malloc 2 rfl storage wrapper.size
  obtain ⟨prepared, hcopy, hprepared⟩ := hsaving.memcpy 2 0 rfl rfl
    ((HdlType.wrapper_length haligned hholds.captures_size _).trans hunused.symm)
  rw [HdlType.wrapper_length haligned hholds.captures_size] at hcopy
  refine ⟨prepared, ?_, hprepared⟩
  unfold replay_lambda
  rw [bind_ok hdisable, bind_ok hmalloc, bind_ok hconstruct, bind_ok hsave, bind_ok hcopy]

/-- With the stored bytes in the temporary functor, it is copied and put back. -/
theorem replay_dummy_lambda_ok {stored : List UInt8} (hcaptures : captures.length = wrapper.captures_size)
    (hstored : stored.length = wrapper.captures_size)
    (hhost : host_lambda.length = wrapper.hdl_host_lambda_size)
    (hsize : nvcc_inner_lambda_data.length = wrapper.hdl_host_lambda_size)
    (hroom : start.next + 6 ≤ wrapper.limit)
    (hsince : Since start
      [some (stored ++ wrapper.pointer_bytes (start.next + 1)), some host_lambda,
        some (captures ++ wrapper.pointer_bytes (start.next + 1))]
      [some (captures ++ wrapper.pointer_bytes (start.next + 1)), some host_lambda, none]
      start.destroyed false thread) :
    ∃ final, replay_dummy_lambda wrapper storage nvcc_inner_lambda_data (start.next + 0) (start.next + 2) thread =
        .ok (start.next + 4) final ∧
      Since start
        [none, none, none, none, some (stored ++ wrapper.pointer_bytes (start.next + 5)), some nvcc_inner_lambda_data]
        [none, none, none, none, some (stored ++ wrapper.pointer_bytes (start.next + 5)), some nvcc_inner_lambda_data]
        (start.destroyed ++ [(host_lambda, host_lambda),
          (captures ++ wrapper.pointer_bytes (start.next + 1), captures ++ wrapper.pointer_bytes (start.next + 1))])
        true final := by
  have hpointer := hsince.hdl_host_lambda_pointer haligned 0 1 rfl hstored (by omega)
  obtain ⟨_, allocated, garbage, hmalloc, rfl, hgarbage, hallocated⟩ :=
    hsince.malloc 3 rfl storage wrapper.hdl_host_lambda_size
  obtain ⟨saved, hsave, hsaved⟩ := hallocated.memcpy 3 1 rfl rfl (hhost.trans hgarbage.symm)
  obtain ⟨patched, hpatch, hpatched⟩ := hsaved.write 1 rfl
    (hsize.trans hhost.symm).le
  have hcopied : copy_extended_lambda_inner_lambda storage nvcc_inner_lambda_data (start.next + 1)
      wrapper.hdl_host_lambda_size thread = .ok (start.next + 3) patched := by
    rw [hhost] at hsave
    unfold copy_extended_lambda_inner_lambda
    rw [if_neg (not_not.mpr hsize.symm)]
    dsimp only
    rw [bind_ok hmalloc, bind_ok hsave, bind_ok hpatch]
    rfl
  rw [List.drop_eq_nil_of_le (hsize.trans hhost.symm).ge, List.append_nil] at hpatched
  obtain ⟨_, allotted, unused, hallot, rfl, hunused, hallotted⟩ := hpatched.malloc 4 rfl storage wrapper.size
  have hholds : wrapper.Holds allotted.block (start.next + 0) (start.next + 1) stored nvcc_inner_lambda_data :=
    ⟨⟨_, hallotted.block_at 0, (HdlType.stores_of_aligned haligned).mpr rfl⟩, hallotted.block_at 1, hstored, hsize,
      by omega, by omega⟩
  obtain ⟨copied, hcopy, hcopies⟩ := hallotted.copy_construct haligned 4 hholds rfl hunused (by omega) (by omega) 5 rfl
    (by omega)
  obtain ⟨restored, hrestore, hrestored⟩ := hcopies.memcpy 0 2 rfl rfl
    ((HdlType.wrapper_length haligned hcaptures _).trans (HdlType.wrapper_length haligned hstored _).symm)
  obtain ⟨released, hrelease, hreleased⟩ := hrestored.free 2 rfl
  obtain ⟨inner_restored, hinner, hinner_restored⟩ := hreleased.memcpy 1 3 rfl rfl (hhost.trans hsize.symm)
  obtain ⟨inner_released, hinner_release, hinner_released⟩ := hinner_restored.free 3 rfl
  have hdummy : wrapper.Holds inner_released.block (start.next + 0) (start.next + 1) captures host_lambda :=
    ⟨⟨_, hinner_released.block_at 0, (HdlType.stores_of_aligned haligned).mpr rfl⟩, hinner_released.block_at 1,
      hcaptures, hhost, by omega, by omega⟩
  obtain ⟨destroyed, hdestroy, hdestroyed⟩ := hinner_released.destroy haligned 0 1 hdummy rfl rfl
  obtain ⟨emptied, hempty, hemptied⟩ := hdestroyed.free 0 rfl
  have henable : tracking_enable emptied = .ok () { emptied with tracking_enabled := true } := rfl
  refine ⟨{ emptied with tracking_enabled := true }, ?_, { hemptied with tracking := rfl }⟩
  have hrestore_inner : restore_extended_lambda_inner_lambda nvcc_inner_lambda_data (start.next + 1) (start.next + 3)
      released = .ok () inner_released := by
    rw [hhost, ← hsize] at hinner
    unfold restore_extended_lambda_inner_lambda
    rw [bind_ok hinner, hinner_release]
  rw [HdlType.wrapper_length haligned hcaptures] at hrestore
  unfold replay_dummy_lambda
  rw [bind_ok hpointer, bind_ok hcopied, bind_ok hallot, bind_ok hcopy, bind_ok hrestore, bind_ok hrelease,
    bind_ok hrestore_inner, bind_ok hdestroy, bind_ok hempty, bind_ok henable]
  rfl

end

/-- A call which leaves an extended lambda behind, and otherwise everything as it was. Only
    functors are destroyed which are as they were constructed. -/
structure LambdaReplayed (wrapper : HdlWrapper) (captures host_lambda : List UInt8) (before : Thread) (f inner : Nat)
    (after : Thread) : Prop where
  holds : wrapper.Holds after.block f inner captures host_lambda
  functor : after.functor f = after.block f
  host_functor : after.functor inner = some host_lambda
  fresh : before.block f = none ∧ before.block inner = none
  block : ∀ id, id ≠ f → id ≠ inner → after.block id = before.block id
  functors : ∀ id, id ≠ f → id ≠ inner → after.functor id = before.functor id
  tracking : after.tracking_enabled = true
  destroyed : ∃ functors, after.destroyed = before.destroyed ++ functors ∧
    ∀ functor ∈ functors, functor.1 = functor.2

section

variable {wrapper : HdlWrapper} {storage : Nat → Nat → UInt8} {functor_data nvcc_inner_lambda_data : List UInt8}
  {start : Thread} {functor inner : Nat} {captures host_lambda : List UInt8}
  (haligned : wrapper.alignment ∣ 8)

/-- What was released again was not there before either. -/
private theorem extend_released {kept : Nat → Option (List UInt8)} {start id : Nat} {f inner : Option (List UInt8)}
    (hfresh : ∀ id, start ≤ id → kept id = none) (hf : id ≠ start + 4) (hinner : id ≠ start + 5) :
    memory.extend kept start [none, none, none, none, f, inner] id = kept id := by
  rcases Nat.lt_or_ge id start with hid | hid
  · exact memory.extend_of_lt hid
  · obtain ⟨offset, rfl⟩ := Nat.exists_eq_add_of_le hid
    rw [memory.extend_add, hfresh _ hid]
    rcases offset with _ | _ | _ | _ | _ | _ | offset
    · rfl
    · rfl
    · rfl
    · rfl
    · exact absurd rfl hf
    · exact absurd rfl hinner
    · rfl

include haligned

/-- The temporary functor with the stored captures and its own pointer. -/
theorem replay_lambda_patched (hholds : wrapper.Holds start.block functor inner captures host_lambda)
    (hroom : start.next + 6 ≤ wrapper.limit) (henough : wrapper.captures_size ≤ functor_data.length) :
    ∃ patched, replay_lambda wrapper storage functor_data nvcc_inner_lambda_data functor start =
        replay_dummy_lambda wrapper storage nvcc_inner_lambda_data (start.next + 0) (start.next + 2) patched ∧
      Since start
        [some (functor_data.take wrapper.captures_size ++ wrapper.pointer_bytes (start.next + 1)), some host_lambda,
          some (captures ++ wrapper.pointer_bytes (start.next + 1))]
        [some (captures ++ wrapper.pointer_bytes (start.next + 1)), some host_lambda, none]
        start.destroyed false patched := by
  obtain ⟨prepared, hreplay, hprepared⟩ :=
    @replay_lambda_prepared wrapper storage functor_data nvcc_inner_lambda_data _ _ _ _ _ haligned hholds hroom
  have hstored : (functor_data.take wrapper.captures_size).length = wrapper.captures_size :=
    List.length_take_of_le henough
  obtain ⟨patched, hpatch, hpatched⟩ := @Since.write _ _ _ _ _ _ _ (functor_data.take wrapper.captures_size)
    hprepared 0 rfl (by
      rw [HdlType.wrapper_length haligned hholds.captures_size, hstored, HdlType.size_of_aligned haligned]
      omega)
  have hinit : init_functor functor_data (start.next + 0) (wrapper.size - 8) prepared = .ok () patched := by
    rw [HdlType.size_of_aligned haligned, Nat.add_sub_cancel, init_functor, if_neg (Nat.not_lt.mpr henough), hpatch]
  rw [hstored, ← hholds.captures_size, List.drop_left, hholds.captures_size] at hpatched
  exact ⟨patched, by rw [hreplay, bind_ok hinit], hpatched⟩

/-- With enough of the captures and all of the lambda for the host, the functor is revived. -/
theorem replay_lambda_enough (hholds : wrapper.Holds start.block functor inner captures host_lambda)
    (hroom : start.next + 6 ≤ wrapper.limit) (henough : wrapper.captures_size ≤ functor_data.length)
    (hsize : nvcc_inner_lambda_data.length = wrapper.hdl_host_lambda_size) :
    ∃ f inner final, replay_lambda wrapper storage functor_data nvcc_inner_lambda_data functor start = .ok f final ∧
      LambdaReplayed wrapper (functor_data.take wrapper.captures_size) nvcc_inner_lambda_data start f inner final := by
  obtain ⟨patched, hreplay, hpatched⟩ :=
    @replay_lambda_patched wrapper storage functor_data nvcc_inner_lambda_data _ _ _ _ _ haligned hholds hroom henough
  have hstored : (functor_data.take wrapper.captures_size).length = wrapper.captures_size :=
    List.length_take_of_le henough
  obtain ⟨final, hdummy, hfinal⟩ := @replay_dummy_lambda_ok wrapper storage _ _ _ _ _ haligned _
    hholds.captures_size hstored hholds.host_lambda_size hsize hroom hpatched
  refine ⟨start.next + 4, start.next + 5, final, ?_, ?_⟩
  · rw [hreplay, hdummy]
  · refine ⟨⟨⟨_, hfinal.block_at 4, (HdlType.stores_of_aligned haligned).mpr rfl⟩, hfinal.block_at 5, hstored, hsize,
      by omega, by omega⟩, (hfinal.functor_at 4).trans (hfinal.block_at 4).symm,
      hfinal.functor_at 5, ⟨(start.fresh _ (by omega)).1, (start.fresh _ (by omega)).1⟩, fun id hf hinner => ?_,
      fun id hf hinner => ?_, hfinal.tracking, _, hfinal.destroyed, ?_⟩
    · rw [hfinal.block]
      exact extend_released (fun id hid => (start.fresh id hid).1) hf hinner
    · rw [hfinal.functor]
      exact extend_released (fun id hid => (start.fresh id hid).2) hf hinner
    · simp

/-- With fewer bytes than captures the replay throws. -/
theorem replay_lambda_too_few (hholds : wrapper.Holds start.block functor inner captures host_lambda)
    (hroom : start.next + 6 ≤ wrapper.limit) (hfew : functor_data.length < wrapper.captures_size) :
    ∃ final, replay_lambda wrapper storage functor_data nvcc_inner_lambda_data functor start =
      .error (functor_smaller functor_data.length wrapper.captures_size) final := by
  obtain ⟨prepared, hreplay, _⟩ :=
    @replay_lambda_prepared wrapper storage functor_data nvcc_inner_lambda_data _ _ _ _ _ haligned hholds hroom
  refine ⟨prepared, ?_⟩
  have hthrow : init_functor functor_data (start.next + 0) (wrapper.size - 8) prepared =
      .error (functor_smaller functor_data.length wrapper.captures_size) prepared := by
    rw [HdlType.size_of_aligned haligned, Nat.add_sub_cancel, init_functor, if_pos hfew]
    rfl
  rw [hreplay, bind_error hthrow]

/-- The lambda for the host is not the one of this type. -/
theorem replay_lambda_other_size (hholds : wrapper.Holds start.block functor inner captures host_lambda)
    (hroom : start.next + 6 ≤ wrapper.limit) (henough : wrapper.captures_size ≤ functor_data.length)
    (hsize : nvcc_inner_lambda_data.length ≠ wrapper.hdl_host_lambda_size) :
    ∃ final, replay_lambda wrapper storage functor_data nvcc_inner_lambda_data functor start =
      .error .undefined_behavior final := by
  obtain ⟨patched, hreplay, hpatched⟩ :=
    @replay_lambda_patched wrapper storage functor_data nvcc_inner_lambda_data _ _ _ _ _ haligned hholds hroom henough
  refine ⟨patched, ?_⟩
  have hpointer := hpatched.hdl_host_lambda_pointer haligned 0 1 rfl (List.length_take_of_le henough) (by omega)
  have hassert : copy_extended_lambda_inner_lambda storage nvcc_inner_lambda_data (start.next + 1)
      wrapper.hdl_host_lambda_size patched = .error .undefined_behavior patched := by
    unfold copy_extended_lambda_inner_lambda
    rw [if_pos (Ne.symm hsize)]
    rfl
  rw [hreplay]
  unfold replay_dummy_lambda
  rw [bind_ok hpointer, bind_error hassert]

end

end krepe.replayer
