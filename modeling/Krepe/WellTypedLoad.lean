import Mathlib.Algebra.BigOperators.Ring.List
import Krepe.Replay.Load.WellTyped
import Krepe.RoundTrip.Host

open std hdf5 memory outcome interval ordered_set

namespace krepe

namespace impl

/-- Numbers are multiplied one by one like their product, narrowed. -/
theorem foldl_narrowed (init : Nat) (dims : List Nat) :
    dims.foldl (fun init dim => Int32.ofNat ((as_size_t init).toNat * dim)) (Int32.ofNat init) =
      Int32.ofNat (init * extent dims) := by
  induction dims generalizing init with
  | nil => rw [List.foldl_nil, extent, List.prod_nil, Nat.mul_one]
  | cons dim rest ih =>
    have hlow : read_size init % 2 ^ 32 = init % 2 ^ 32 := by
      rw [read_size_eq]
      split <;> omega
    have hmod : ∀ value, (Int32.ofNat value).toBitVec.toNat = value % 2 ^ 32 := fun value => BitVec.toNat_ofNat _ _
    have hstep : Int32.ofNat (read_size init * dim) = Int32.ofNat (init * dim) := by
      apply Int32.toBitVec_inj.mp
      apply BitVec.eq_of_toNat_eq
      rw [hmod, hmod, Nat.mul_mod, hlow, ← Nat.mul_mod]
    rw [List.foldl_cons, ← read_size, hstep, ih, extent, extent, List.prod_cons, Nat.mul_assoc]

/-- Up to three extents, the product is narrowed to an `int` at the end. -/
theorem reduce_of_few {dims : List Nat} (hfew : dims.length ≤ 3) (init : Nat) :
    reduce (Int32.ofNat init) dims = .ok (Int32.ofNat (init * extent dims)) := by
  have hfold := congrArg (Except.ok (ε := Failure)) (foldl_narrowed init dims)
  rcases dims with _ | ⟨first, _ | ⟨second, _ | ⟨third, _ | ⟨fourth, rest⟩⟩⟩⟩
  · exact hfold
  · exact hfold
  · exact hfold
  · exact hfold
  · simp only [List.length_cons] at hfew
    omega

/-- A product that fits an `int` does not overflow. -/
theorem multiply_int_ofNat {left right : Nat} (hleft : left < 2 ^ 31) (hright : right < 2 ^ 31)
    (hproduct : left * right < 2 ^ 31) :
    multiply_int (Int32.ofNat left) (Int32.ofNat right) = .ok (Int32.ofNat (left * right)) := by
  have hbounds : (-2 ^ 31 : Int) ≤ (left : Int) * right ∧ (left : Int) * right < 2 ^ 31 := by
    have hcast : (left : Int) * right = (left * right : Nat) := (Nat.cast_mul left right).symm
    rw [hcast]
    omega
  unfold multiply_int
  dsimp only
  rw [Int32.toInt_ofNat_of_lt hleft, Int32.toInt_ofNat_of_lt hright, if_pos hbounds, ← Int32.ofInt_eq_ofNat,
    Nat.cast_mul]
  rfl

/-- Factors which are not 0 are at most a product, and so are their products. -/
theorem reduce_of_small {dims : List Nat} {init : Nat} (hinit : init ≠ 0) (hdims : 0 ∉ dims)
    (hsmall : init * extent dims < 2 ^ 31) :
    reduce (Int32.ofNat init) dims = .ok (Int32.ofNat (init * extent dims)) := by
  induction hlength : dims.length using Nat.strong_induction_on generalizing dims init with
  | _ length ih =>
    by_cases hfew : dims.length ≤ 3
    · exact reduce_of_few hfew init
    · obtain ⟨first, second, third, fourth, rest, rfl⟩ :
          ∃ first second third fourth rest, dims = first :: second :: third :: fourth :: rest := by
        rcases dims with _ | ⟨first, _ | ⟨second, _ | ⟨third, _ | ⟨fourth, rest⟩⟩⟩⟩
        · simp at hfew
        · simp at hfew
        · simp at hfew
        · simp at hfew
        · exact ⟨first, second, third, fourth, rest, rfl⟩
      have hextent : init * extent (first :: second :: third :: fourth :: rest) =
          init * (first * second * (third * fourth)) * extent rest := by
        simp only [extent, List.prod_cons, Nat.mul_assoc]
      have hpositive : init * (first * second * (third * fourth)) * extent rest ≠ 0 := by
        rw [← hextent]
        exact mul_ne_zero hinit (List.prod_ne_zero hdims)
      rw [hextent] at hsmall ⊢
      have hle : ∀ factor, factor ∣ init * (first * second * (third * fourth)) * extent rest → factor < 2 ^ 31 :=
        fun factor hdvd => (Nat.le_of_dvd (Nat.pos_of_ne_zero hpositive) hdvd).trans_lt hsmall
      have hv3 : first * second * (third * fourth) ∣ init * (first * second * (third * fourth)) * extent rest :=
        (Dvd.intro_left init rfl).mul_right _
      have hfirst := multiply_int_ofNat (hle _ ((Dvd.intro _ rfl).trans hv3))
        (hle _ ((Dvd.intro_left _ rfl).trans hv3)) (hle _ hv3)
      have hsecond := multiply_int_ofNat (hle _ ((Dvd.intro _ rfl).mul_right _)) (hle _ hv3)
        (hle _ (Dvd.intro _ rfl))
      rw [reduce, hfirst, ok_bind, hsecond, ok_bind]
      refine ih rest.length ?_ (left_ne_zero_of_mul hpositive) (fun hzero => hdims (by simp [hzero])) hsmall rfl
      rw [← hlength]
      simp only [List.length_cons]
      omega

/-- The size of a dataset which the replayer works with, if no product overflows. -/
theorem buffer_size_of_multipliable {dims : List Nat} (hdims : Multipliable dims) :
    buffer_size dims = .ok (read_size (extent dims)) := by
  have hreduce : reduce (Int32.ofNat 1) dims = .ok (Int32.ofNat (1 * extent dims)) := by
    rcases hdims with hfew | ⟨hzero, hsmall⟩
    · exact reduce_of_few hfew 1
    · exact reduce_of_small Nat.one_ne_zero hzero (by omega)
  rw [Nat.one_mul] at hreduce
  have hone : (1 : Int32) = Int32.ofNat 1 := rfl
  rw [buffer_size, hone, hreduce]
  rfl

/-- A buffer which is not empty and is allocated has room for all the elements. -/
theorem read_size_fits {elements : Nat} (hfits : FitsInt elements) (hsize : read_size elements ≠ 0)
    (hallocated : read_size elements < 2 ^ 63) : read_size elements = elements ∧ elements < 2 ^ 31 := by
  rw [read_size_eq] at hsize hallocated ⊢
  by_cases hsign : elements % 2 ^ 32 < 2 ^ 31
  · rw [if_pos hsign] at hsize ⊢
    rcases hfits with hlt | hdvd | hnegative
    · omega
    · exact absurd (Nat.mod_eq_zero_of_dvd hdvd) hsize
    · omega
  · rw [if_neg hsign] at hallocated
    omega

/-- The group of an allocation asks for a range in a memory space. -/
structure Requests (file : File) (object : Path) (memory_space : MemorySpaceType) (request : Nat × Nat) : Prop where
  space : ∃ space, get_hdf5_string_attribute file object "space" = .ok space ∧
    memory_space_type_from_string space = memory_space
  p_data : ∃ p_data, get_hdf5_string_attribute file object "p_data" = .ok p_data ∧
    stoull_hex p_data = .ok request.1
  bytes : ∃ dataset, bytes_dataset file object = .ok dataset ∧ buffer_size dataset.dims = .ok request.2
  size : request.2 ≠ 0

/-- An entry asks for one range. -/
theorem Requests.unique {file : File} {object : Path} {memory_space : MemorySpaceType} {request other : Nat × Nat}
    (hrequest : Requests file object memory_space request) (hother : Requests file object memory_space other) :
    other = request := by
  obtain ⟨text, htext, haddress⟩ := hrequest.p_data
  obtain ⟨dataset, hdataset, hsize⟩ := hrequest.bytes
  obtain ⟨otherText, hotherText, hotherAddress⟩ := hother.p_data
  obtain ⟨otherDataset, hotherDataset, hotherSize⟩ := hother.bytes
  cases htext.symm.trans hotherText
  cases hdataset.symm.trans hotherDataset
  exact Prod.ext (Except.ok.inj (hotherAddress.symm.trans haddress)) (Except.ok.inj (hotherSize.symm.trans hsize))

end impl

open impl

/-- Memory is reserved in user space only, and no other allocation is a fault. -/
structure ReplayMachine.Guarded (machine : ReplayMachine) : Prop where
  reserve : ∀ memory_space reserved region, machine.reserve_error memory_space reserved region = none →
    InUserSpace region
  granularity : ∀ memory_space, machine.allocation_granularity memory_space ≤ 2 ^ 32
  regular_allocate : ∀ memory_space size failure,
    machine.regular_allocate_error memory_space size = some failure → ¬ Fault failure

section

variable {machine : ReplayMachine} {file : File} {views : Path} {name : String}

theorem WellTyped.bytes_dataset_throws (htyped : WellTyped file)
    (hviews : views ∈ [ScopeGuard.in_views, ScopeGuard.out_views]) :
    Throws (fun dataset => BytesTyped dataset ∧ FitsInt (extent dataset.dims) ∧ Multipliable dataset.dims)
      (bytes_dataset file (views ++ [name])) := by
  unfold Throws bytes_dataset open_uchar_dataset
  cases hdataset : file.dataset? (views ++ [name] ++ ["bytes"]) with
  | none => exact not_fault_check_failure _
  | some dataset =>
    have hbytes := htyped.bytes views hviews name dataset hdataset
    simp only [hbytes.1.type, if_true]
    exact hbytes

/-- A pass over the inputs collects the range which a group asks for, if it does. -/
theorem WellTyped.alloc_info_throws (htyped : WellTyped file)
    (hviews : views ∈ [ScopeGuard.in_views, ScopeGuard.out_views]) (memory_space : MemorySpaceType)
    (allocation_set : AllocationSet) :
    Throws (fun result => (result = allocation_set ∧
          ∀ request, ¬ Requests file (views ++ [name]) memory_space request) ∨
        ∃ request, Requests file (views ++ [name]) memory_space request ∧
          result = allocation_set.insert (toLex (get_allocation_address
            (machine.allocation_granularity memory_space) request.1 request.2)))
      (get_hdf5_dataset_alloc_info machine memory_space file views name allocation_set) := by
  have hattr : ∀ attr ∈ ["label", "space", "p_data"], AttrTyped file (views ++ [name]) is_string attr :=
    htyped.allocations views hviews name
  unfold Throws get_hdf5_dataset_alloc_info
  dsimp only
  refine (string_attribute_throws (hattr _ (by simp))).bind_of_ok fun space hspace => ?_
  refine (string_attribute_throws (hattr _ (by simp))).bind_of_ok fun p_data hp_data => ?_
  refine (stoull_hex_throws p_data).bind_of_ok fun address haddress => ?_
  by_cases htarget : memory_space_type_from_string space = memory_space
  · simp only [htarget, ne_eq, not_true_eq_false, if_false]
    refine (htyped.bytes_dataset_throws hviews).bind_of_ok fun dataset hdataset => ?_
    have hsize := buffer_size_of_multipliable ((htyped.bytes_dataset_throws hviews).of_ok hdataset).2.2
    rw [hsize, ok_bind]
    by_cases hempty : read_size (extent dataset.dims) = 0
    · simp only [hempty, if_true]
      refine Or.inl ⟨rfl, fun request hrequest => hrequest.size ?_⟩
      obtain ⟨other, hother, hotherSize⟩ := hrequest.bytes
      cases hdataset.symm.trans hother
      rw [hsize, hempty, Except.ok.injEq] at hotherSize
      exact hotherSize.symm
    · simp only [hempty, if_false, get_space_allocation_address]
      split
      · exact not_fault_runtime_error _
      · exact Or.inr ⟨(address, read_size (extent dataset.dims)),
          ⟨⟨space, hspace, htarget⟩, ⟨p_data, hp_data, haddress⟩, ⟨dataset, hdataset, hsize⟩, hempty⟩, rfl⟩
  · simp only [htarget, ne_eq, not_false_eq_true, if_true]
    refine Or.inl ⟨rfl, fun request hrequest => htarget ?_⟩
    obtain ⟨other, hother, htype⟩ := hrequest.space
    cases hspace.symm.trans hother
    exact htype

/-- The memory of a guard has room for what the groups ask for. -/
def Covers (guard : ScopeGuard) (file : File) (links : List String) (memory_space : MemorySpaceType) : Prop :=
  ∀ name ∈ links, ∀ request, Requests file (ScopeGuard.in_views ++ [name]) memory_space request →
    request.2 < 2 ^ 32 → ∀ offset < request.2, (guard.memory memory_space).Mapped (request.1 + offset)

/-- Regions which could all be reserved are in user space. -/
theorem allocate_throws (hguarded : machine.Guarded) {regions : List (Nat × Nat)} (memory_space : MemorySpaceType)
    (guard : ScopeGuard) :
    Throws (fun result => (∀ region ∈ regions, InUserSpace region) ∧
        result = { guard with
          memory := Function.update guard.memory memory_space ((guard.memory memory_space).map_all regions) })
      (regions.foldlM (fun guard range => guard.allocate machine memory_space range) guard) := by
  refine @ends_foldlM _ _ _ _ (fun reserved result => (∀ region ∈ reserved, InUserSpace region) ∧
      result = { guard with
        memory := Function.update guard.memory memory_space ((guard.memory memory_space).map_all reserved) })
    _ _ _ ?_ fun reserved region later state _ hinv => ?_
  · refine ⟨by simp, ?_⟩
    rw [Memory.map_all_nil, Function.update_eq_self]
  · obtain ⟨huser, rfl⟩ := hinv
    unfold ScopeGuard.allocate
    split
    · exact not_fault_runtime_error _
    · simp only [Function.update_self, Memory.map_map_all, Function.update_idem]
      cases herror : machine.reserve_error memory_space
          ((guard.memory memory_space).map_all reserved).regions region with
      | some what => exact not_fault_runtime_error what
      | none =>
        refine ⟨fun other hother => ?_, rfl⟩
        rcases List.mem_append.mp hother with hreserved | hlast
        · exact huser other hreserved
        · exact List.mem_singleton.mp hlast ▸ hguarded.reserve _ _ _ herror

/-- The set has the range of every request of the groups. -/
def Collects (machine : ReplayMachine) (file : File) (memory_space : MemorySpaceType) (links : List String)
    (allocation_set : AllocationSet) : Prop :=
  ∃ requests, allocation_set = reservation_set (machine.allocation_granularity memory_space) requests ∧
    ∀ name ∈ links, ∀ request, Requests file (ScopeGuard.in_views ++ [name]) memory_space request →
      request ∈ requests

/-- A pass over the inputs collects the ranges of all of them. -/
theorem WellTyped.collect_throws (htyped : WellTyped file) (memory_space : MemorySpaceType) (links : List String) :
    Throws (Collects machine file memory_space links)
      (links.foldlM (fun allocations name =>
        get_hdf5_dataset_alloc_info machine memory_space file ScopeGuard.in_views name allocations)
        OrderedSet.empty) := by
  refine @ends_foldlM _ _ _ _ (Collects machine file memory_space) _ _ _ ⟨[], rfl, by simp⟩
    fun visited name later state _ hinv => ?_
  obtain ⟨requests, rfl, hall⟩ := hinv
  refine (htyped.alloc_info_throws (by simp) memory_space _).mono (fun result hresult => ?_) fun _ hfailure => hfailure
  rcases hresult with ⟨rfl, hnone⟩ | ⟨request, hrequest, rfl⟩
  · refine ⟨requests, rfl, fun other hother found hfound => ?_⟩
    rcases List.mem_append.mp hother with hvisited | hlast
    · exact hall other hvisited found hfound
    · rw [List.mem_singleton.mp hlast] at hfound
      exact absurd hfound (hnone found)
  · refine ⟨requests ++ [request], ?_, fun other hother found hfound => ?_⟩
    · rw [reservation_set, reservation_set, List.foldl_append]
      rfl
    · rcases List.mem_append.mp hother with hvisited | hlast
      · exact List.mem_append_left _ (hall other hvisited found hfound)
      · rw [List.mem_singleton.mp hlast] at hfound
        exact List.mem_append_right _ (List.mem_singleton.mpr (hrequest.unique hfound))

/-- What a memory space is reserved for has room in it, and no other memory is changed. -/
theorem WellTyped.reserve_throws (htyped : WellTyped file) (hguarded : machine.Guarded) {node : Group}
    (hnode : file ScopeGuard.in_views = some (.group node)) (memory_space : MemorySpaceType)
    (callback allocation_locs : String) (guard : ScopeGuard) :
    Throws (fun result => Covers result file (machine.iteration_order node.links) memory_space ∧
        result.allocations = guard.allocations ∧
        ∀ other, other ≠ memory_space → result.memory other = guard.memory other)
      (ScopeGuard.reserve machine file memory_space callback allocation_locs guard) := by
  unfold Throws ScopeGuard.reserve
  rw [literate, File.group?_eq_some.mpr hnode]
  refine (htyped.collect_throws memory_space _).bind fun allocations hallocations => ?_
  obtain ⟨requests, rfl, hall⟩ := hallocations
  refine (allocate_throws hguarded memory_space guard).mono ?_ fun _ hfailure => hfailure
  rintro result ⟨huser, rfl⟩
  refine ⟨fun name hname request hrequest hfits offset hoffset => ?_, rfl, fun other hother => ?_⟩
  · obtain ⟨region, hregion, hinside⟩ := compute_allocations_covers_user
      (machine.allocation_granularity_pos memory_space) (hguarded.granularity memory_space) huser
      (hall name hname request hrequest) (Nat.pos_of_ne_zero hrequest.size) hfits
    have hcell : request.1 + offset ∈ cells region := hinside (by simpa using hoffset)
    simp only [Function.update_self]
    exact Memory.mapped_of_mem (List.mem_append_right _ hregion) hcell
  · exact Function.update_of_ne hother _ _

/-- The bytes of a group are passed on as what its range is for, or as none. -/
theorem WellTyped.allocate_dataset_throws (htyped : WellTyped file)
    (hviews : views ∈ [ScopeGuard.in_views, ScopeGuard.out_views]) {A : Type} {P : A → Prop} {state : A}
    {allocate_fun : String → String → Nat → List UInt8 → A → Except Failure A}
    (hstep : ∀ label space address data, (data = [] ∨ data.length < 2 ^ 31 ∧
      Requests file (views ++ [name]) (memory_space_type_from_string space) (address, data.length)) →
      Throws P (allocate_fun label space address data state)) :
    Throws P (allocate_hdf5_dataset machine file views allocate_fun name state) := by
  have hattr : ∀ attr ∈ ["label", "space", "p_data"], AttrTyped file (views ++ [name]) is_string attr :=
    htyped.allocations views hviews name
  unfold Throws allocate_hdf5_dataset
  dsimp only
  refine (string_attribute_throws (hattr _ (by simp))).bind fun label _ => ?_
  refine (string_attribute_throws (hattr _ (by simp))).bind_of_ok fun space hspace => ?_
  refine (string_attribute_throws (hattr _ (by simp))).bind_of_ok fun p_data hp_data => ?_
  refine (stoull_hex_throws p_data).bind_of_ok fun address haddress => ?_
  refine Ends.bind_of_ok (htyped.bytes_dataset_throws hviews) fun dataset hdataset => ?_
  obtain ⟨⟨htype, data, hread, hlength⟩, hfits, hdims⟩ := (htyped.bytes_dataset_throws hviews).of_ok hdataset
  have hbytes := buffer_size_of_multipliable hdims
  rw [hbytes, ok_bind]
  split
  · exact hstep label space 0 [] (Or.inl rfl)
  · next hsize =>
    unfold allocate_host_buffer
    cases hbuffer : machine.host_buffer (memory_space_type_from_string space) (read_size (extent dataset.dims)) with
    | none => exact not_fault_bad_alloc
    | some buffer =>
      have hallocated : read_size (extent dataset.dims) < 2 ^ 63 := by
        by_contra hlarge
        rw [machine.host_buffer_max _ _ (Nat.not_lt.mp hlarge)] at hbuffer
        cases hbuffer
      obtain ⟨hexact, hlt⟩ := read_size_fits hfits hsize hallocated
      have hroom : buffer.length = data.length := by
        rw [machine.host_buffer_length _ _ _ hbuffer, hexact, hlength]
      have hinto : read_into buffer data = .ok data := by
        rw [read_into, if_pos hroom.ge, ← hroom, List.drop_length, List.append_nil]
        rfl
      have hdata : read_uchar dataset = .ok data := by
        rw [read_uchar, hread]
        rfl
      simp only [pure_bind, hdata, ok_bind, hinto]
      refine hstep label space address data (Or.inr ⟨hlength ▸ hlt, ⟨space, hspace, rfl⟩, ⟨p_data, hp_data, haddress⟩,
        ⟨dataset, hdataset, ?_⟩, ?_⟩)
      · rw [hbytes, hexact, hlength]
      · rw [hlength, ← hexact]
        exact hsize

/-- An address which is found for a label is null or mapped. -/
def AddressesMapped (guard : ScopeGuard) : Prop :=
  ∀ memory_space label address, AList.lookup label (guard.allocations memory_space) = some address →
    address = 0 ∨ (guard.memory memory_space).Mapped address

theorem AddressesMapped.set_allocation {guard : ScopeGuard} (haddresses : AddressesMapped guard)
    {memory_space : MemorySpaceType} {address : Nat}
    (haddress : address = 0 ∨ (guard.memory memory_space).Mapped address) (label : String) :
    AddressesMapped (guard.set_allocation machine memory_space label address) := by
  intro other key found hfound
  have hmemory : (guard.set_allocation machine memory_space label address).memory = guard.memory := by
    rw [ScopeGuard.set_allocation_rest]
  rw [hmemory]
  by_cases hno : memory_space = .DEVICE ∧ !machine.has_device_space
  · rw [ScopeGuard.set_allocation, if_pos hno] at hfound
    exact haddresses other key found hfound
  · rw [ScopeGuard.set_allocation, if_neg hno] at hfound
    dsimp only at hfound
    by_cases hspace : other = memory_space
    · subst hspace
      rw [Function.update_self] at hfound
      by_cases hkey : key = label
      · rw [hkey, AList.lookup_insert, Option.some.injEq] at hfound
        exact hfound ▸ haddress
      · rw [AList.lookup_insert_ne hkey] at hfound
        exact haddresses other key found hfound
    · rw [Function.update_of_ne hspace] at hfound
      exact haddresses other key found hfound

/-- A copy to memory which is mapped keeps what is mapped. -/
theorem copy_data_wrapper_throws {guard : ScopeGuard} (haddresses : AddressesMapped guard) (label space : String)
    {address : Nat} {data : List UInt8}
    (hmapped : data = [] ∨ ∀ offset < data.length,
      (guard.memory (memory_space_type_from_string space)).Mapped (address + offset)) :
    Throws (fun result => AddressesMapped result ∧
        ∀ memory_space, (result.memory memory_space).regions = (guard.memory memory_space).regions)
      (guard.copy_data_wrapper machine label space address data) := by
  have hset : ∀ (guard : ScopeGuard) address, (guard.set_allocation machine
      (memory_space_type_from_string space) label address).memory = guard.memory := by
    intro guard address
    rw [ScopeGuard.set_allocation_rest]
  unfold Throws ScopeGuard.copy_data_wrapper
  dsimp only
  split
  · rw [ends_pure, hset]
    exact ⟨haddresses.set_allocation (Or.inl rfl) label, fun _ => rfl⟩
  · next hsome =>
    have hall := hmapped.resolve_left fun hempty => hsome (by simp [hempty])
    unfold copy_data
    split
    · exact not_fault_runtime_error _
    · rw [Memory.write_eq_some.mpr ⟨hall, rfl⟩]
      dsimp only
      rw [pure_bind, ends_pure, hset]
      dsimp only
      have hregions : ∀ memory_space, (Function.update guard.memory (memory_space_type_from_string space)
          { guard.memory (memory_space_type_from_string space) with
            copies := (address, data) :: (guard.memory (memory_space_type_from_string space)).copies }
          memory_space).regions = (guard.memory memory_space).regions := by
        intro memory_space
        by_cases hspace : memory_space = memory_space_type_from_string space
        · subst hspace
          simp
        · simp [Function.update_of_ne hspace]
      refine ⟨AddressesMapped.set_allocation (fun memory_space key found hfound => ?_) (Or.inr ?_) label, hregions⟩
      · rw [Memory.Mapped, hregions]
        exact haddresses memory_space key found hfound
      · rw [Memory.Mapped, hregions]
        exact hall 0 (Nat.pos_of_ne_zero hsome)

/-- The pass which copies the bytes finds room for all of them. -/
theorem WellTyped.copy_pass_throws (htyped : WellTyped file) {links : List String} {guard : ScopeGuard}
    (haddresses : AddressesMapped guard) (hcovers : ∀ memory_space, Covers guard file links memory_space) :
    Throws AddressesMapped (links.foldlM (fun (guard : ScopeGuard) name =>
      allocate_hdf5_dataset machine file ScopeGuard.in_views (fun label memory_space address data guard =>
        guard.copy_data_wrapper machine label memory_space address data) name guard) guard) := by
  have hpass : Throws (fun result => AddressesMapped result ∧ ∀ memory_space,
      (result.memory memory_space).regions = (guard.memory memory_space).regions)
      (links.foldlM (fun (guard : ScopeGuard) name =>
        allocate_hdf5_dataset machine file ScopeGuard.in_views (fun label memory_space address data guard =>
          guard.copy_data_wrapper machine label memory_space address data) name guard) guard) := by
    refine @ends_foldlM _ _ _ _ (fun _ (result : ScopeGuard) => AddressesMapped result ∧ ∀ memory_space,
      (result.memory memory_space).regions = (guard.memory memory_space).regions) _ _ _
      ⟨haddresses, fun _ => rfl⟩ fun visited name later state hlinks hinv => ?_
    obtain ⟨hstate, hregions⟩ := hinv
    have hname : name ∈ links := hlinks ▸ by simp
    refine htyped.allocate_dataset_throws (by simp) fun label space address data hdata => ?_
    refine (copy_data_wrapper_throws hstate label space ?_).mono (fun result hresult =>
      ⟨hresult.1, fun memory_space => (hresult.2 memory_space).trans (hregions memory_space)⟩)
      fun _ hfailure => hfailure
    rcases hdata with hempty | ⟨hlt, hrequest⟩
    · exact Or.inl hempty
    · refine Or.inr fun offset hoffset => ?_
      have hfits : data.length < 2 ^ 32 := by omega
      have hmapped := hcovers _ name hname _ hrequest hfits offset hoffset
      rw [Memory.Mapped, hregions]
      exact hmapped
  exact hpass.mono (fun _ hresult => hresult.1) fun _ hfailure => hfailure

/-- The inputs of a file of the right types are loaded with mapped addresses, or an exception is
    thrown. -/
theorem WellTyped.load_input_throws (htyped : WellTyped file) (hguarded : machine.Guarded) :
    Throws AddressesMapped (ScopeGuard.load_input machine file) := by
  unfold Throws ScopeGuard.load_input
  cases hviews : file.group? ScopeGuard.in_views with
  | none =>
    simp only [ScopeGuard.reserve, literate, hviews]
    exact not_fault_check_failure _
  | some node =>
    have hnode := File.group?_eq_some.mp hviews
    refine (htyped.reserve_throws hguarded hnode .HOST _ _ _).bind fun hosted hhost => ?_
    refine Ends.bind (P := fun _ => True) ?_ fun _ _ => ?_
    · unfold device_init check_error
      split <;> simp
    refine (htyped.reserve_throws hguarded hnode .DEVICE _ _ _).bind fun reserved hdevice => ?_
    have hcovers : ∀ memory_space, Covers reserved file (machine.iteration_order node.links) memory_space := by
      intro memory_space
      cases memory_space with
      | HOST =>
        intro name hname request hrequest hfits offset hoffset
        rw [hdevice.2.2 .HOST (by decide)]
        exact hhost.1 name hname request hrequest hfits offset hoffset
      | DEVICE => exact hdevice.1
    have hempty : AddressesMapped reserved := by
      intro memory_space label address hfound
      rw [hdevice.2.1, hhost.2.1] at hfound
      cases hfound
    have hcopied := @WellTyped.copy_pass_throws machine file htyped _ _ hempty hcovers
    rw [literate, hviews]
    refine hcopied.bind fun copied haddresses => ?_
    refine (htyped.read_metadata_throws machine).bind fun _ _ => ?_
    refine (htyped.read_functor_throws machine).bind fun _ _ => ?_
    exact (htyped.read_policy_throws machine.build).bind fun _ _ => haddresses

theorem has_output_throws (file : File) : Throws (fun _ => True) (ScopeGuard.has_output file) := by
  unfold Throws ScopeGuard.has_output
  cases file.group? [] with
  | none => simp
  | some root =>
    dsimp only
    split
    · cases file.group? ["out"] with
      | none => exact not_fault_check_failure _
      | some out => trivial
    · trivial

theorem allocate_output_throws (hguarded : machine.Guarded) {guard : ScopeGuard} (haddresses : AddressesMapped guard)
    (label space : String) (data : List UInt8) :
    Throws AddressesMapped (guard.allocate_output machine label space data) := by
  unfold Throws ScopeGuard.allocate_output no_device_space
  dsimp only
  split
  · exact not_fault_runtime_error _
  · split
    · exact haddresses
    · cases herror : machine.regular_allocate_error (memory_space_type_from_string space) data.length with
      | none => exact haddresses
      | some failure => exact hguarded.regular_allocate _ _ _ herror

/-- The outputs of a file of the right types are loaded, or an exception is thrown. -/
theorem WellTyped.load_output_throws (htyped : WellTyped file) (hguarded : machine.Guarded) {guard : ScopeGuard}
    (haddresses : AddressesMapped guard) : Throws AddressesMapped (ScopeGuard.load_output machine file guard) := by
  unfold Throws ScopeGuard.load_output
  refine (has_output_throws file).bind fun has_output _ => ?_
  split
  · unfold literate
    cases file.group? ScopeGuard.out_views with
    | none => exact not_fault_check_failure _
    | some node =>
      refine @ends_foldlM _ _ _ _ (fun _ result => AddressesMapped result) _ _ _ haddresses
        fun visited name later state _ hstate => ?_
      unfold allocate_hdf5_output_dataset
      refine (int_attribute_throws (htyped.bytes_dumped name)).bind fun bytes_dumped _ => ?_
      split
      · exact hstate
      · exact htyped.allocate_dataset_throws (by simp) fun label space _ data _ =>
          allocate_output_throws hguarded hstate label space data
  · exact haddresses

end

/-- A replayer for the host in whose process only user space can be mapped. -/
def user_replay : ReplayMachine :=
  { host_replay with
    reserve_error := fun _ _ region => if InUserSpace region then none else some "mmap" }

/-- The machine of the example is guarded. -/
theorem user_replay_guarded : user_replay.Guarded where
  reserve _ _ region hnone := by
    by_contra houtside
    have herror : (if InUserSpace region then none else some "mmap") = none := hnone
    rw [if_neg houtside] at herror
    cases herror
  granularity _ := by simp [user_replay, host_replay]
  regular_allocate _ _ _ hfailure := by cases hfailure

/-- A file with one input, whose address is not one of a process. -/
def damaged_file : File := fun path =>
  if path = ["in", "views"] then some (.group ⟨[], ["view_0_x"]⟩)
  else if path = ["in", "views", "view_0_x"] then
    some (.group ⟨[("label", .string "x\x00"), ("space", .string "Host\x00"),
      ("p_data", .string "0xffffffffffffff00\x00")], ["bytes"]⟩)
  else if path = ["in", "views", "view_0_x", "bytes"] then
    some (.dataset ⟨.uchar, [3], some (.uchar [1, 2, 3])⟩)
  else none

/-- The file of the example has the right types. -/
theorem damaged_file_typed : WellTyped damaged_file := by
  have hnothing : ∀ object, ¬ ["in"] <+: object → damaged_file object = none := by
    intro object hother
    unfold damaged_file
    rw [if_neg, if_neg, if_neg]
    all_goals
      rintro rfl
      exact hother (by simp)
  have hnoAttr : ∀ object, ¬ ["in"] <+: object → ∀ typed name, AttrTyped damaged_file object typed name := by
    intro object hother typed name value hvalue
    rw [File.attr?, File.group?, hnothing object hother] at hvalue
    cases hvalue
  have hnoDataset : ∀ object, ¬ ["in"] <+: object → damaged_file.dataset? object = none := by
    intro object hother
    rw [File.dataset?, hnothing object hother]
  have hstrings : ∀ name attr, AttrTyped damaged_file (ScopeGuard.in_views ++ [name]) is_string attr := by
    intro name attr value hvalue
    by_cases hname : name = "view_0_x"
    · subst hname
      have hgroup : damaged_file (ScopeGuard.in_views ++ ["view_0_x"]) = some (.group ⟨[("label", .string "x\x00"),
        ("space", .string "Host\x00"), ("p_data", .string "0xffffffffffffff00\x00")], ["bytes"]⟩) := rfl
      rw [File.attr?_of_group hgroup, List.lookup_eq_some_iff] at hvalue
      obtain ⟨before, after, hattrs, _⟩ := hvalue
      have hmem : (attr, value) ∈ [("label", AttrValue.string "x\x00"), ("space", .string "Host\x00"),
          ("p_data", .string "0xffffffffffffff00\x00")] := by
        dsimp only at hattrs
        rw [hattrs]
        simp
      simp only [List.mem_cons, Prod.mk.injEq, List.not_mem_nil, or_false] at hmem
      rcases hmem with ⟨_, rfl⟩ | ⟨_, rfl⟩ | ⟨_, rfl⟩ <;> rfl
    · have hnone : damaged_file (ScopeGuard.in_views ++ [name]) = none := by
        simp [damaged_file, ScopeGuard.in_views, hname]
      rw [File.attr?, File.group?, hnone] at hvalue
      cases hvalue
  refine ⟨?_, fun name => hnoAttr _ (by simp [ScopeGuard.out_views]) _ _, ?_, fun name => hnoAttr _ (by simp) _ _,
    fun name _ dataset hdataset => ?_, fun attr _ => hnoAttr _ (by simp [policy_path]) _ _,
    fun attr _ => hnoAttr _ (by simp [policy_path]) _ _, fun attr _ => hnoAttr _ (by simp [policy_path]) _ _,
    fun name _ dataset hdataset => ?_⟩
  · intro views hviews name attr _
    rcases List.mem_pair.mp hviews with rfl | rfl
    · exact hstrings name attr
    · exact hnoAttr _ (by simp [ScopeGuard.out_views]) _ _
  · intro views hviews name dataset hdataset
    rcases List.mem_pair.mp hviews with rfl | rfl
    · rw [File.dataset?_eq_some] at hdataset
      by_cases hname : name = "view_0_x"
      · subst hname
        have hbytes : damaged_file (ScopeGuard.in_views ++ ["view_0_x"] ++ ["bytes"]) =
          some (.dataset ⟨.uchar, [3], some (.uchar [1, 2, 3])⟩) := rfl
        rw [hbytes, Option.some.injEq, Object.dataset.injEq] at hdataset
        subst hdataset
        exact ⟨⟨rfl, _, rfl, rfl⟩, Or.inl (by decide), Or.inl (by decide)⟩
      · have hnone : damaged_file (ScopeGuard.in_views ++ [name] ++ ["bytes"]) = none := by
          simp [damaged_file, ScopeGuard.in_views, hname]
        rw [hnone] at hdataset
        cases hdataset
    · rw [hnoDataset _ (by simp [ScopeGuard.out_views])] at hdataset
      cases hdataset
  · rw [hnoDataset _ (by simp)] at hdataset
    cases hdataset
  · rw [hnoDataset _ (by simp)] at hdataset
    cases hdataset

end krepe
