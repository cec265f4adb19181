import Krepe.Outcome.Ends
import Krepe.Replay.KernelReplayer

open std hdf5 outcome ordered_set

namespace krepe.impl

/-- What the group of one allocation tells the replayer. There are no bytes when
    the group has no dataset for them. -/
structure Entry where
  label : String
  space : String
  address : Nat
  bytes : Option (List UInt8)

/-- The memory space which the replayer uses for an entry. -/
def Entry.memory_space (entry : Entry) : MemorySpaceType := memory_space_type_from_string entry.space

/-- The group at a path says what the entry says. -/
structure Reads (file : File) (object : Path) (entry : Entry) : Prop where
  label : get_hdf5_string_attribute file object "label" = .ok entry.label
  space : get_hdf5_string_attribute file object "space" = .ok entry.space
  p_data : ∃ text, get_hdf5_string_attribute file object "p_data" = .ok text ∧
    stoull_hex text = .ok entry.address
  no_bytes : entry.bytes = none → file.dataset? (object ++ ["bytes"]) = none
  bytes : ∀ bytes, entry.bytes = some bytes → ∃ data,
    file.dataset? (object ++ ["bytes"]) = some ⟨.uchar, [bytes.length], data⟩ ∧
      Dataset.read_uchar ⟨.uchar, [bytes.length], data⟩ = some bytes

/-- A number of elements, narrowed to an `int` and taken for a `std::size_t`. -/
def read_size (length : Nat) : Nat := (as_size_t (Int32.ofNat length)).toNat

/-- The size for which both passes over the inputs take a dataset of one dimension. -/
theorem buffer_size_single (length : Nat) : buffer_size [length] = .ok (read_size length) := by
  have hone : (as_size_t 1).toNat = 1 := by decide
  rw [buffer_size, reduce, pure_bind, List.foldl_cons, List.foldl_nil, hone, Nat.one_mul]
  · rfl
  · simp

/-- A size of at least `2^31` goes wrong: its low 32 bits are taken for a signed
    number. -/
theorem read_size_eq (length : Nat) :
    read_size length =
      if length % 2 ^ 32 < 2 ^ 31 then length % 2 ^ 32
      else length % 2 ^ 32 + (2 ^ 64 - 2 ^ 32) := by
  have hbits : (as_size_t (Int32.ofNat length)).toBitVec = (BitVec.ofNat 32 length).signExtend 64 := rfl
  have hlow : (BitVec.ofNat 32 length).toNat = length % 2 ^ 32 := BitVec.toNat_ofNat _ _
  have hlt : length % 2 ^ 32 < 2 ^ 32 := Nat.mod_lt _ (by omega)
  rw [read_size, ← UInt64.toNat_toBitVec, hbits, BitVec.toNat_signExtend,
    BitVec.toNat_setWidth, hlow, BitVec.msb_eq_decide, hlow]
  by_cases hsign : length % 2 ^ 32 < 2 ^ 31
  · have hpositive : ¬ 2 ^ (32 - 1) ≤ length % 2 ^ 32 := by omega
    simp only [hsign, hpositive, decide_false, Bool.false_eq_true, if_true, if_false]
    omega
  · have hnegative : 2 ^ (32 - 1) ≤ length % 2 ^ 32 := by omega
    simp only [hsign, hnegative, decide_true, if_true, if_false]
    omega

/-- The sizes which do not make a load fail: a multiple of `2^32` is taken for no
    bytes at all. -/
def Readable (length : Nat) : Prop := length < 2 ^ 31 ∨ 2 ^ 32 ∣ length

/-- The bytes as the replayer sees them. -/
def Entry.data (entry : Entry) : List UInt8 :=
  match entry.bytes with
  | some bytes => if bytes.length < 2 ^ 31 then bytes else []
  | none => []

/-- The address as the replayer sees it. -/
def Entry.start (entry : Entry) : Nat := if entry.data = [] then 0 else entry.address

theorem Entry.data_of_lt {entry : Entry} {bytes : List UInt8} (hbytes : entry.bytes = some bytes)
    (hlength : bytes.length < 2 ^ 31) : entry.data = bytes := by
  simp only [Entry.data, hbytes, hlength, if_true]

/-- A size below `2^31` is read as it is. -/
theorem read_size_of_lt {length : Nat} (hlength : length < 2 ^ 31) : read_size length = length := by
  rw [read_size_eq, Nat.mod_eq_of_lt (by omega), if_pos hlength]

variable (machine : ReplayMachine)

/-- The pass over one entry which collects what has to be reserved in a memory space; an entry
    of another space is passed over, and an empty one reserves nothing. -/
def Entry.alloc_info (target_memory_space : MemorySpaceType) (allocation_set : AllocationSet)
    (entry : Entry) : Except Failure AllocationSet :=
  if entry.memory_space ≠ target_memory_space then pure allocation_set
  else
    match entry.bytes with
    | none => throw (check_failure "H5LTget_dataset_ndims(group, dataset_name.c_str(), &rank)")
    | some bytes =>
      if read_size bytes.length = 0 then pure allocation_set
      else do
        let allocation_info ← get_space_allocation_address machine entry.address
          (read_size bytes.length) entry.memory_space
        pure (allocation_set.insert (toLex allocation_info))

/-- The address and the bytes which are passed on for a group. -/
def Entry.stage (entry : Entry) : Except Failure (Nat × List UInt8) :=
  match entry.bytes with
  | none => throw (check_failure "H5LTget_dataset_ndims(group, dataset_name.c_str(), &rank)")
  | some bytes =>
    if read_size bytes.length = 0 then pure (0, [])
    else do
      let buffer ← allocate_host_buffer machine (read_size bytes.length) entry.memory_space
      let buffer ← read_into buffer bytes
      pure (entry.address, buffer)

section

variable {file : File} {group : Path} {name : String} {entry : Entry}

/-- The bytes of an entry are read as it says. -/
theorem bytes_dataset_of_reads {object : Path} (hreads : Reads file object entry) :
    match entry.bytes with
    | none => bytes_dataset file object =
        .error (check_failure "H5LTget_dataset_ndims(group, dataset_name.c_str(), &rank)")
    | some bytes => ∃ data, bytes_dataset file object = .ok ⟨.uchar, [bytes.length], data⟩ ∧
        read_uchar ⟨.uchar, [bytes.length], data⟩ = .ok bytes := by
  cases hbytes : entry.bytes with
  | none =>
    simp only [bytes_dataset, open_uchar_dataset, hreads.no_bytes hbytes]
    rfl
  | some bytes =>
    obtain ⟨data, hdataset, hread⟩ := hreads.bytes bytes hbytes
    refine ⟨data, ?_, ?_⟩
    · simp only [bytes_dataset, open_uchar_dataset, hdataset, if_true]
      rfl
    · simp only [read_uchar, hread]
      rfl

/-- The pass which collects the ranges sees no more of a group than its entry. -/
theorem get_hdf5_dataset_alloc_info_of_reads (hreads : Reads file (group ++ [name]) entry)
    (target_memory_space : MemorySpaceType) (allocation_set : AllocationSet) :
    get_hdf5_dataset_alloc_info machine target_memory_space file group name allocation_set =
      entry.alloc_info machine target_memory_space allocation_set := by
  obtain ⟨text, htext, haddress⟩ := hreads.p_data
  have hspace : memory_space_type_from_string entry.space = entry.memory_space := rfl
  simp only [get_hdf5_dataset_alloc_info, hreads.space, htext, haddress, hspace, bind, Except.bind,
    Entry.alloc_info]
  by_cases htarget : entry.memory_space = target_memory_space
  · have hdataset := bytes_dataset_of_reads hreads
    simp only [htarget, not_true_eq_false, if_false, ne_eq]
    cases hbytes : entry.bytes with
    | none =>
      simp only [hbytes] at hdataset
      simp only [hdataset]
      rfl
    | some bytes =>
      simp only [hbytes] at hdataset
      obtain ⟨data, hok, _⟩ := hdataset
      simp only [hok, buffer_size_single]
  · simp only [htarget, not_false_eq_true, if_true, ne_eq]

/-- The pass which copies the bytes sees no more of a group than its entry. -/
theorem allocate_hdf5_dataset_of_reads {A : Type} (hreads : Reads file (group ++ [name]) entry)
    (allocate_fun : String → String → Nat → List UInt8 → A → Except Failure A) (data : A) :
    allocate_hdf5_dataset machine file group allocate_fun name data =
      entry.stage machine >>= fun staged =>
        allocate_fun entry.label entry.space staged.1 staged.2 data := by
  obtain ⟨text, htext, haddress⟩ := hreads.p_data
  have hspace : memory_space_type_from_string entry.space = entry.memory_space := rfl
  have hdataset := bytes_dataset_of_reads hreads
  simp only [allocate_hdf5_dataset, hreads.label, hreads.space, htext, haddress, hspace, bind,
    Except.bind, Entry.stage]
  cases hbytes : entry.bytes with
  | none =>
    simp only [hbytes] at hdataset
    simp only [hdataset]
    rfl
  | some bytes =>
    simp only [hbytes] at hdataset
    obtain ⟨stored, hok, hread⟩ := hdataset
    simp only [hok, hread, buffer_size_single]
    by_cases hsize : read_size bytes.length = 0
    · simp only [hsize, if_true]
      rfl
    · simp only [hsize, if_false]
      cases allocate_host_buffer machine (read_size bytes.length) entry.memory_space with
      | error failure => rfl
      | ok buffer =>
        cases hinto : read_into buffer bytes with
        | error failure => simp only [hinto]
        | ok buffer => simp only [hinto, pure, Except.pure]

end

/-- What is staged is the entry as the replayer sees it, and its size is readable. -/
theorem Entry.stage_eq_ok {entry : Entry} {staged : Nat × List UInt8}
    (hstage : entry.stage machine = .ok staged) :
    (∃ bytes, entry.bytes = some bytes ∧ Readable bytes.length) ∧ staged = (entry.start, entry.data) := by
  unfold Entry.stage at hstage
  cases hbytes : entry.bytes with
  | none =>
    rw [hbytes] at hstage
    cases hstage
  | some bytes =>
    simp only [hbytes] at hstage
    have hsize := read_size_eq bytes.length
    split at hstage
    · next hempty =>
      cases hstage
      rw [hempty] at hsize
      have hzero : bytes.length % 2 ^ 32 = 0 := by
        split at hsize <;> omega
      have hdata : entry.data = [] := by
        simp only [Entry.data, hbytes]
        split
        · exact List.length_eq_zero_iff.mp (by omega)
        · rfl
      refine ⟨⟨bytes, rfl, Or.inr (Nat.dvd_of_mod_eq_zero hzero)⟩, ?_⟩
      rw [Entry.start, hdata, if_pos rfl]
    · next hsome =>
      obtain ⟨buffer, hbuffer, hstage⟩ := bind_eq_ok.mp hstage
      obtain ⟨filled, hfilled, hstage⟩ := bind_eq_ok.mp hstage
      cases hstage
      unfold allocate_host_buffer at hbuffer
      split at hbuffer
      · next buffer' hhost =>
        cases hbuffer
        have hlength := machine.host_buffer_length _ _ _ hhost
        have hmax : read_size bytes.length < 2 ^ 63 := by
          by_contra hlarge
          rw [machine.host_buffer_max _ _ (Nat.not_lt.mp hlarge)] at hhost
          cases hhost
        unfold read_into at hfilled
        split at hfilled
        · next hfits =>
          cases hfilled
          have hlt : bytes.length < 2 ^ 31 := by
            split at hsize <;> omega
          have hexact : bytes.length = buffer.length := by
            rw [hlength, read_size_of_lt hlt]
          refine ⟨⟨bytes, rfl, Or.inl hlt⟩, ?_⟩
          have hdata := Entry.data_of_lt hbytes hlt
          have hne : bytes ≠ [] := by
            rintro rfl
            exact hsome (read_size_of_lt (by simp))
          rw [Entry.start, hdata, if_neg hne, hexact, List.drop_length, List.append_nil]
        · cases hfilled
      · cases hbuffer

/-- A readable size is staged unless the buffer cannot be allocated. -/
theorem Entry.stage_ends {E : Failure → Prop} {entry : Entry} {bytes : List UInt8}
    (hbytes : entry.bytes = some bytes) (hreadable : Readable bytes.length)
    (hbuffer : ∀ size < 2 ^ 31, machine.host_buffer entry.memory_space size = none → E .bad_alloc) :
    Ends E (fun staged => staged = (entry.start, entry.data)) (entry.stage machine) := by
  suffices hends : Ends E (fun _ => True) (entry.stage machine) by
    cases hstage : entry.stage machine with
    | error failure => exact hends.of_error hstage
    | ok staged => exact (Entry.stage_eq_ok machine hstage).2
  simp only [Entry.stage, hbytes]
  rcases hreadable with hlt | hdvd
  · rw [read_size_of_lt hlt]
    split
    · exact trivial
    · unfold allocate_host_buffer
      cases hhost : machine.host_buffer entry.memory_space bytes.length with
      | none => exact hbuffer _ hlt hhost
      | some buffer =>
        have hlength := machine.host_buffer_length _ _ _ hhost
        have hinto : read_into buffer bytes = .ok (bytes ++ buffer.drop bytes.length) := by
          rw [read_into, if_pos hlength.ge]
          rfl
        simp only [bind, Except.bind, pure, Except.pure, hinto]
        exact trivial
  · have hzero : read_size bytes.length = 0 := by
      rw [read_size_eq, Nat.mod_eq_zero_of_dvd hdvd, if_pos (by omega)]
    rw [if_pos hzero]
    exact trivial

/-- The groups which are visited one after the other say what the entries say. -/
def Visits (file : File) (group : Path) (entries : List Entry) : Prop :=
  ∃ node, file group = some (.group node) ∧
    List.Forall₂ (fun name entry => Reads file (group ++ [name]) entry)
      (machine.iteration_order node.links) entries

/-- A pass over a group is a fold over its entries, where each visit is a step. -/
theorem literate_of_visits {A : Type} {file : File} {group : Path} {entries : List Entry}
    (hvisits : Visits machine file group entries) {callback : String → A → Except Failure A}
    {step : A → Entry → Except Failure A}
    (hstep : ∀ name entry, Reads file (group ++ [name]) entry → ∀ data,
      callback name data = step data entry) (expr : String) (data : A) :
    literate machine file group expr callback data = entries.foldlM step data := by
  obtain ⟨node, hnode, hreads⟩ := hvisits
  simp only [literate, File.group?_eq_some.mpr hnode]
  exact foldlM_forall₂ hreads hstep data

end krepe.impl
