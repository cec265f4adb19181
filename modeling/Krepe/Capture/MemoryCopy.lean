import Krepe.Capture.AllocationTracker

namespace krepe

/-- A process which dumps its memory: how the tool is built, the bytes of the
    address space which the host and the devices share, and the errors of the
    calls which a copy makes. -/
structure CaptureMachine where
  cuda_dump : Bool
  hip_dump : Bool
  byte : Pointer → UInt8
  resize_error : UInt64 → Option String
  cudaMemcpy_error : Pointer → UInt64 → Option String
  hipMemcpy_error : Pointer → UInt64 → Option String
  /-- No vector has more than `PTRDIFF_MAX` elements. -/
  resize_max : ∀ size : UInt64, 2 ^ 63 ≤ size.toNat → resize_error size ≠ none

/-- The memory spaces whose bytes are copied by the host itself. -/
def is_host_accessible_space (space : String) : Bool :=
  space = "Host" || space = "CudaHostPinned" || space = "CudaUVM" ||
    space = "HIPHostPinned" || space = "HIPManaged" ||
    space = "SYCLHostUSM" || space = "SYCLSharedUSM" ||
    space = "NextSiliconSharedSpace"

/-- The memory space which is copied through CUDA. -/
def is_cuda_device_space (space : String) : Bool := space = "Cuda"

/-- The memory space which is copied through HIP. -/
def is_hip_device_space (space : String) : Bool := space = "HIP"

/-- The bytes of a range of memory. -/
def memory_bytes (byte : Pointer → UInt8) (data : Pointer) (size : UInt64) : List UInt8 :=
  (List.range size.toNat).map fun offset => byte (data + UInt64.ofNat offset)

/-- As many bytes are read as the size says. -/
@[simp]
theorem memory_bytes_length (byte : Pointer → UInt8) (data : Pointer) (size : UInt64) :
    (memory_bytes byte data size).length = size.toNat := by
  simp [memory_bytes]

/-- The bytes are those from the data pointer on. -/
theorem memory_bytes_getElem? (byte : Pointer → UInt8) (data : Pointer) {size : UInt64} {offset : Nat}
    (hoffset : offset < size.toNat) :
    (memory_bytes byte data size)[offset]? = some (byte (data + UInt64.ofNat offset)) := by
  simp [memory_bytes, hoffset]

variable (machine : CaptureMachine)

/-- The error of the staging buffer, empty if it was allocated. -/
def allocate_staging_buffer (allocation : ActiveAllocation) : String :=
  match machine.resize_error allocation.record.size with
  | some error => "could not allocate host staging buffer: " ++ error
  | none => ""

/-- The copy of a range by the calls for its memory space: an error, empty if
    there is none, and the bytes. -/
def copy_range (space : String) (data : Pointer) (size : UInt64) : String × List UInt8 :=
  if is_host_accessible_space space then ("", memory_bytes machine.byte data size)
  else if is_cuda_device_space space then
    match machine.cudaMemcpy_error data size with
    | some error => ("cudaMemcpyDeviceToHost failed: " ++ error, [])
    | none => ("", memory_bytes machine.byte data size)
  else if is_hip_device_space space then
    match machine.hipMemcpy_error data size with
    | some error => ("hipMemcpyDeviceToHost failed: " ++ error, [])
    | none => ("", memory_bytes machine.byte data size)
  else ("internal error: no copy path selected", [])

/-- The reason for which the bytes are skipped, empty if they are not, and the bytes. -/
def copy_allocation_bytes (allocation : ActiveAllocation) : String × List UInt8 :=
  if !allocation.record.data_size_known then
    ("allocation data size could not be bounded safely", [])
  else if allocation.record.size = 0 then ("", [])
  else
    let space := allocation.record.space
    let host_accessible := is_host_accessible_space space
    let cuda_device := is_cuda_device_space space
    let hip_device := is_hip_device_space space
    if !host_accessible && !cuda_device && !hip_device then
      ("memory space is not supported for raw byte dumps", [])
    else if !machine.cuda_dump && cuda_device then
      ("CUDA dump support was not enabled at build time", [])
    else if !machine.hip_dump && hip_device then
      ("HIP dump support was not enabled at build time", [])
    else
      let reason := allocate_staging_buffer machine allocation
      let data := allocation.record.p_data
      if reason ≠ "" then (reason, [])
      else if data = 0 then ("allocation data pointer is null", [])
      else copy_range machine space data allocation.record.size

/-- The bytes of an allocation are in its dump. -/
def Dumped (allocation : ActiveAllocation) : Prop := (copy_allocation_bytes machine allocation).1 = ""

instance (allocation : ActiveAllocation) : Decidable (Dumped machine allocation) :=
  inferInstanceAs (Decidable ((copy_allocation_bytes machine allocation).1 = ""))

theorem append_ne_empty {text : String} (htext : text ≠ "") (rest : String) : text ++ rest ≠ "" := by
  intro heq
  have hlength := congrArg String.length heq
  rw [String.length_append, String.length_empty] at hlength
  exact htext (String.length_eq_zero_iff.mp (by omega))

theorem allocate_staging_buffer_eq_empty {allocation : ActiveAllocation} :
    allocate_staging_buffer machine allocation = "" ↔
      machine.resize_error allocation.record.size = none := by
  unfold allocate_staging_buffer
  cases machine.resize_error allocation.record.size with
  | none => simp
  | some error =>
    simp only [reduceCtorEq, iff_false]
    exact append_ne_empty (by simp) _

/-- A copy which gives no reason has the bytes of the memory. -/
theorem copy_range_bytes {space : String} {data : Pointer} {size : UInt64}
    (hcopied : (copy_range machine space data size).1 = "") :
    (copy_range machine space data size).2 = memory_bytes machine.byte data size := by
  unfold copy_range at hcopied ⊢
  split_ifs with hhost hcuda hhip
  · rfl
  · cases herror : machine.cudaMemcpy_error data size with
    | none => rfl
    | some error =>
      simp only [hhost, hcuda, herror, Bool.false_eq_true, if_false, if_true] at hcopied
      exact absurd hcopied (append_ne_empty (by simp) _)
  · cases herror : machine.hipMemcpy_error data size with
    | none => rfl
    | some error =>
      simp only [hhost, hcuda, hhip, herror, Bool.false_eq_true, if_false, if_true] at hcopied
      exact absurd hcopied (append_ne_empty (by simp) _)
  · simp [hhost, hcuda, hhip] at hcopied

/-- Nothing of an unknown size is dumped. -/
theorem Dumped.data_size_known {machine : CaptureMachine} {allocation : ActiveAllocation}
    (hdumped : Dumped machine allocation) : allocation.record.data_size_known = true := by
  by_contra hknown
  rw [Bool.not_eq_true] at hknown
  simp [Dumped, copy_allocation_bytes, hknown] at hdumped

/-- An allocation which is not empty is dumped from an address of its own, with
    the bytes of its range. -/
theorem Dumped.copied {machine : CaptureMachine} {allocation : ActiveAllocation}
    (hdumped : Dumped machine allocation) (hsize : allocation.record.size ≠ 0) :
    machine.resize_error allocation.record.size = none ∧ allocation.record.p_data ≠ 0 ∧
      (copy_allocation_bytes machine allocation).2 =
        memory_bytes machine.byte allocation.record.p_data allocation.record.size := by
  have hknown := hdumped.data_size_known
  simp only [Dumped, copy_allocation_bytes, hknown, Bool.not_true, Bool.false_eq_true, hsize,
    if_false] at hdumped ⊢
  split_ifs at hdumped ⊢ with hspace hcuda hhip hreason hdata
  · simp at hdumped
  · simp at hdumped
  · simp at hdumped
  · exact absurd hdumped hreason
  · simp at hdumped
  · rw [not_not, allocate_staging_buffer_eq_empty] at hreason
    exact ⟨hreason, hdata, copy_range_bytes machine hdumped⟩

/-- A dumped allocation is dumped with the bytes of its range. -/
theorem Dumped.bytes {machine : CaptureMachine} {allocation : ActiveAllocation}
    (hdumped : Dumped machine allocation) :
    (copy_allocation_bytes machine allocation).2 =
      memory_bytes machine.byte allocation.record.p_data allocation.record.size := by
  by_cases hsize : allocation.record.size = 0
  · simp [copy_allocation_bytes, hdumped.data_size_known, hsize, memory_bytes]
  · exact (hdumped.copied hsize).2.2

/-- No bytes are dumped from the null pointer. -/
theorem Dumped.p_data_ne_zero {machine : CaptureMachine} {allocation : ActiveAllocation}
    (hdumped : Dumped machine allocation) (hsize : allocation.record.size ≠ 0) :
    allocation.record.p_data ≠ 0 := (hdumped.copied hsize).2.1

/-- What memory holds does not decide whether it is dumped. -/
theorem dumped_with_byte (byte : Pointer → UInt8) (allocation : ActiveAllocation) :
    Dumped { machine with byte := byte } allocation ↔ Dumped machine allocation := by
  have hrange : ∀ space data size, (copy_range { machine with byte := byte } space data size).1 =
      (copy_range machine space data size).1 := by
    intro space data size
    unfold copy_range
    dsimp only
    split_ifs
    · rfl
    · cases machine.cudaMemcpy_error data size <;> rfl
    · cases machine.hipMemcpy_error data size <;> rfl
    · rfl
  have hsame : (copy_allocation_bytes { machine with byte := byte } allocation).1 =
      (copy_allocation_bytes machine allocation).1 := by
    unfold copy_allocation_bytes allocate_staging_buffer
    dsimp only
    split_ifs
    all_goals first | rfl | exact hrange _ _ _
  rw [Dumped, Dumped, hsame]

/-- A dumped allocation fits in a vector. -/
theorem Dumped.size_lt {machine : CaptureMachine} {allocation : ActiveAllocation}
    (hdumped : Dumped machine allocation) : allocation.record.size.toNat < 2 ^ 63 := by
  by_cases hsize : allocation.record.size = 0
  · simp [hsize]
  · by_contra hlarge
    exact machine.resize_max _ (Nat.not_lt.mp hlarge) (hdumped.copied hsize).1

end krepe
