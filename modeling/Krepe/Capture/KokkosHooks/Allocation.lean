import Krepe.Common.Text
import Krepe.Capture.AllocationTracker

open std

namespace krepe

/-- How the hooks are built. -/
structure CaptureBuild where
  linux : Bool
  cuda_dump : Bool
  hip_dump : Bool
  compiler_plugins : Bool
  allocation_header_size : UInt64
  /-- The static assertion on the size. -/
  header_size_eq : allocation_header_size = 128 ∨ allocation_header_size = 256

/-- What the allocators answer about one allocation: its usable size on the host,
    and its base and size where both queries to a driver succeed. -/
structure AllocationQueries where
  malloc_usable_size : UInt64
  cuda_range : Option (Pointer × UInt64)
  hip_range : Option (Pointer × UInt64)

/-- The array `name` of a space handle. -/
structure SpaceHandle where
  name : String

/-- A `const char*`: the characters before its terminator, or the null pointer. -/
abbrev CString := Option String

/-- The label of an allocation, where a null pointer stands for none. -/
def label_or_unknown (label : CString) : String := label.getD "<unknown>"

/-- The label of an allocation which Kokkos makes for itself. -/
def is_internal_label (label : String) : Bool :=
  starts_with label "Kokkos::" || starts_with label "HostSpace::" ||
    starts_with label "CudaSpace::" || starts_with label "HIPSpace::" ||
    starts_with label "SYCLSpace::" ||
    starts_with label "OpenACCSpace::" ||
    starts_with label "NextSiliconSpace::" ||
    starts_with label "KOKKOS_" || starts_with label "kokkos."

/-- The memory spaces whose pointers are asked about through CUDA. -/
def is_cuda_pointer_attribute_space (space : String) : Bool :=
  space = "Cuda" || space = "CudaUVM" || space = "CudaHostPinned"

/-- The memory spaces whose pointers are asked about through HIP. -/
def is_hip_pointer_attribute_space (space : String) : Bool :=
  space = "HIP" || space = "HIPManaged" || space = "HIPHostPinned"

/-- The memory space whose sizes are asked of the allocator of the host. -/
def is_host_space (space : String) : Bool := space = "Host"

/-- An array of characters, read up to its first null character or its end. -/
def bounded_string (value : Option String) (max_size : Nat) : String :=
  match value with
  | none => "<null>"
  | some value => String.ofList ((value.toList.take max_size).takeWhile (· ≠ '\x00'))

/-- The name in a handle: at most 64 characters, up to the first null character. -/
def space_name (handle : SpaceHandle) : String := bounded_string (some handle.name) 64

/-- Allocations of Kokkos itself are not tracked, nor is the null pointer. -/
def should_track_allocation (label : CString) (ptr : Pointer) : Bool :=
  ptr != 0 && !is_internal_label (label_or_unknown label)

/-- The data of an allocation starts behind the header which Kokkos puts there. -/
def allocation_data_pointer (build : CaptureBuild) (ptr : Pointer) : Pointer :=
  ptr + build.allocation_header_size

/-- The usable size of an allocation of the host, which is unknown (zero) on other systems than
    Linux. -/
def host_allocation_size (build : CaptureBuild) (queries : AllocationQueries) : UInt64 :=
  if build.linux then queries.malloc_usable_size else 0

/-- The reported size if the allocation has that many bytes from the data pointer on, zero if it
    has fewer, and none if the data pointer is outside of the allocation. -/
def validated_data_size (allocation_base : Pointer) (allocation_size : UInt64) (data_ptr : Pointer)
    (reported_size : UInt64) : Option UInt64 :=
  if data_ptr < allocation_base then none
  else
    let offset := data_ptr - allocation_base
    if offset > allocation_size then none
    else if offset = allocation_size then some 0
    else
      let available := allocation_size - offset
      some (if available ≥ reported_size then reported_size else 0)

/-- Kokkos may report the size of the header for an empty view, so that size is
    checked against the physical allocation where that can be queried. -/
def allocation_data_size (build : CaptureBuild) (queries : AllocationQueries) (space : String)
    (ptr data_ptr : Pointer) (reported_size : UInt64) : Option UInt64 :=
  if reported_size ≠ build.allocation_header_size then some reported_size
  else
    let cuda_range :=
      if build.cuda_dump && is_cuda_pointer_attribute_space space then queries.cuda_range else none
    let hip_range :=
      if build.hip_dump && is_hip_pointer_attribute_space space then queries.hip_range else none
    match cuda_range, hip_range with
    | some (base, size), _ => validated_data_size base size data_ptr reported_size
    | none, some (base, size) => validated_data_size base size data_ptr reported_size
    | none, none =>
      let allocation_size := host_allocation_size build queries
      if is_host_space space && allocation_size != 0 then
        validated_data_size ptr allocation_size data_ptr reported_size
      else none

/-- The hook for an allocation: unless it is ignored, the tracker records it with the size of
    its data, which is zero while `data_size_known` is false. -/
def kokkosp_allocate_data (build : CaptureBuild) (queries : AllocationQueries) (space : SpaceHandle)
    (label : CString) (ptr : Pointer) (size : UInt64) (allocation_tracker : AllocationTracker) :
    AllocationTracker :=
  if should_track_allocation label ptr then
    let p_data := allocation_data_pointer build ptr
    let data_size := allocation_data_size build queries (space_name space) ptr p_data size
    allocation_tracker.record_allocation (label_or_unknown label) (space_name space) ptr p_data
      (data_size.getD 0) size data_size.isSome
  else allocation_tracker

/-- The label and the size of a deallocation are not used. -/
def kokkosp_deallocate_data (space : SpaceHandle) (_ : CString) (ptr : Pointer) (_ : UInt64)
    (allocation_tracker : AllocationTracker) : AllocationTracker :=
  if ptr ≠ 0 then allocation_tracker.record_deallocation (space_name space) ptr
  else allocation_tracker

end krepe
