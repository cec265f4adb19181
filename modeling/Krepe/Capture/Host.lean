import Krepe.Capture.ViewDump.Contents

open std hdf5

namespace krepe

/-- A process without devices, whose buffers are limited by their type only. -/
def host_capture (byte : Pointer → UInt8) : CaptureMachine where
  cuda_dump := false
  hip_dump := false
  byte := byte
  resize_error size := if 2 ^ 63 ≤ size.toNat then some "vector::_M_default_append" else none
  cudaMemcpy_error _ _ := none
  hipMemcpy_error _ _ := none
  resize_max size hlarge := by
    rw [if_pos hlarge]
    exact Option.some_ne_none _

/-- A tool for the host, built without plugins. -/
def host_build : CaptureBuild := ⟨true, false, false, false, 128, Or.inl rfl⟩

/-- A file system without links. -/
def plain_system : DumpSystem := ⟨.ok, fun _ => "failed"⟩

/-- An allocation of the host whose size is known, whose data are not at null and which a buffer
    can hold is written with its bytes. -/
theorem host_dumped (byte : Pointer → UInt8) {allocation : ActiveAllocation}
    (hknown : allocation.record.data_size_known = true) (hspace : allocation.record.space = "Host")
    (hdata : allocation.record.p_data ≠ 0) (hsize : allocation.record.size.toNat < 2 ^ 63) :
    Dumped (host_capture byte) allocation := by
  have hresize : (host_capture byte).resize_error allocation.record.size = none :=
    if_neg (Nat.not_le.mpr hsize)
  have hhost : is_host_accessible_space allocation.record.space = true := by
    simp [is_host_accessible_space, hspace]
  have hcuda : is_cuda_device_space allocation.record.space = false := by
    simp [is_cuda_device_space, hspace]
  have hhip : is_hip_device_space allocation.record.space = false := by
    simp [is_hip_device_space, hspace]
  by_cases hempty : allocation.record.size = 0
  · simp [Dumped, copy_allocation_bytes, hknown, hempty]
  · simp [Dumped, copy_allocation_bytes, hknown, hempty, hhost, hcuda, hhip, allocate_staging_buffer,
      hresize, hdata, copy_range]

/-- A dump of a kernel without metadata and without a policy. -/
def plain_dump (allocations : List ActiveAllocation) : KernelDump where
  input_snapshot := ⟨0, allocations⟩
  functor_data := [1, 2]
  nvcc_inner_lambda_data := []
  metadata := ∅
  policy := .no_policy
  label := "kernel"
  kernel_id := 0
  kernel_invocation := 0

/-- No file is at the path yet. -/
def no_file : File := fun _ => none

/-- A dump without metadata is always written. -/
theorem dump_created (capture : CaptureMachine) {dump : KernelDump} (hmetadata : dump.metadata = ∅)
    (file : File) :
    (create_kernel_dump capture plain_system none dump file).1.ok = true ∧
      DumpStored capture dump (create_kernel_dump capture plain_system none dump file).2 := by
  obtain ⟨final, hfinal, hstored⟩ := @create_calls_stored capture dump
    (by simp [metadata_attributes, hmetadata]) (by simp [metadata_attributes, hmetadata]) file
  rw [create_kernel_dump_of_exec rfl hfinal]
  exact ⟨rfl, hstored⟩

/-- A plain dump to a path with no file is written as a whole. -/
theorem plain_dump_created (capture : CaptureMachine) (allocations : List ActiveAllocation) :
    (create_kernel_dump capture plain_system none (plain_dump allocations) no_file).1.ok = true ∧
      DumpStored capture (plain_dump allocations)
        (create_kernel_dump capture plain_system none (plain_dump allocations) no_file).2 :=
  dump_created capture rfl no_file

/-- Outputs are always appended to a dump without them. -/
theorem output_appended {before : CaptureMachine} {dump : KernelDump} {file : File}
    (hstored : DumpStored before dump file) (after : CaptureMachine) (output : KernelOutput) :
    (append_kernel_output after plain_system none output file).1.ok = true := by
  obtain ⟨final, hexec⟩ := append_calls_success hstored after output.output_snapshot
  rw [append_kernel_output, run_of_exec hexec]
  rfl

end krepe
