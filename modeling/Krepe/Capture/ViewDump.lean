import Krepe.Capture.KokkosHooks
import Krepe.Capture.MemoryCopy
import Krepe.Capture.ViewDump.Policy

open std hdf5

namespace krepe

/-- A pointer as an output stream writes it. -/
def pointer_to_string (ptr : Pointer) : String := ostream_pointer ptr

/-- The characters which are safe in the name of a file or a group. -/
def is_name_char (c : Char) : Bool := c.isAlphanum || c = '_' || c = '-' || c = '.'

/-- Other characters become underscores, and at most 80 characters are kept. -/
def sanitize_name (value : String) : String :=
  let result := value.toList.map fun c => if is_name_char c then c else '_'
  if result.isEmpty then "unnamed" else String.ofList (result.take 80)

/-- The identifier of the kernel tells the dumps of one label apart. -/
def dump_filename (label : String) (kernel_id : Nat) : String :=
  "krepe_" ++ sanitize_name label ++ "_" ++ to_string kernel_id ++ ".h5"

variable (machine : CaptureMachine)

/-- The index in the snapshot tells the groups of one label apart. -/
def view_name (allocation : ActiveAllocation) (index : Nat) : String :=
  "view_" ++ to_string index ++ "_" ++ sanitize_name allocation.record.label

/-- The attributes of the group of an allocation: its record, and whether its bytes follow. -/
def write_allocation_attributes (group : Path) (allocation : ActiveAllocation) (skip_reason : String) :
    List Call :=
  write_string_attribute group "label" allocation.record.label ++
    write_string_attribute group "space" allocation.record.space ++
    write_string_attribute group "ptr" (pointer_to_string allocation.ptr) ++
    write_string_attribute group "p_data" (pointer_to_string allocation.record.p_data) ++
    write_uint64_attribute group "size" allocation.record.size ++
    write_uint64_attribute group "reported_size" allocation.record.reported_size ++
    write_int_attribute group "bytes_dumped" (if skip_reason = "" then 1 else 0)

/-- Either the reason why the bytes are left out, or the dataset with the bytes. -/
def write_allocation_bytes (group : Path) (skip_reason : String) (bytes : List UInt8) : List Call :=
  if skip_reason ≠ "" then write_string_attribute group "skip_reason" skip_reason
  else write_dataset group "bytes" (.uchar bytes)

/-- The group of one allocation, whose bytes are copied while the dump is written. -/
def write_allocation_group (views_group : Path) (allocation : ActiveAllocation) (index : Nat) :
    List Call :=
  let group_name := view_name allocation index
  let group := views_group ++ [group_name]
  let (skip_reason, bytes) := copy_allocation_bytes machine allocation
  .H5Gcreate2 views_group group_name ::
    (write_allocation_attributes group allocation skip_reason ++
    write_allocation_bytes group skip_reason bytes ++ [.handle .H5Gclose])

/-- One group for each allocation, from an index on. -/
def write_allocation_groups (views_group : Path) (allocations : List ActiveAllocation) (index : Nat) :
    List Call :=
  match allocations with
  | [] => []
  | allocation :: rest =>
    write_allocation_group machine views_group allocation index ++
      write_allocation_groups views_group rest (index + 1)

/-- A group with the number of the allocations and their bytes, and a subgroup with one group
    each. -/
def write_snapshot (name : String) (snapshot : AllocationSnapshot) : List Call :=
  .H5Gcreate2 [] name ::
    (write_uint64_attribute ([name]) "active_allocations" (UInt64.ofNat snapshot.allocations.length) ++
    write_uint64_attribute ([name]) "active_bytes" snapshot.active_bytes ++
    .H5Gcreate2 [name] "views" ::
    (write_allocation_groups machine [name, "views"] snapshot.allocations 0 ++
    [.handle .H5Gclose, .handle .H5Gclose]))

/-- The key is written as a `const char*`. -/
def write_metadata (metadata : UnorderedMap String String) : List Call :=
  .H5Gcreate2 [] "metadata" ::
    (metadata.entries.flatMap (fun entry =>
      write_string_attribute ["metadata"] (c_str entry.1) entry.2) ++ [.handle .H5Gclose])

/-- The group with the bytes of the functor and of its `nvcc` lambda. -/
def write_functor (functor_data nvcc_inner_lambda_data : List UInt8) : List Call :=
  .H5Gcreate2 [] "functor" ::
    (write_dataset ["functor"] "functor" (.uchar functor_data) ++
    write_dataset ["functor"] "nvcc_inner_lambda" (.uchar nvcc_inner_lambda_data) ++
    [.handle .H5Gclose])

/-- The calls of `create_kernel_dump`, after the path was resolved. -/
def create_calls (dump : KernelDump) : List Call :=
  .H5Fcreate ::
    (write_string_attribute [] "kernel_label" dump.label ++
    write_uint64_attribute [] "kernel_id" (UInt64.ofNat dump.kernel_id) ++
    write_uint64_attribute [] "kernel_invocation" (UInt64.ofNat dump.kernel_invocation) ++
    write_snapshot machine "in" dump.input_snapshot ++ write_metadata dump.metadata ++
    .H5Gcreate2 [] "policy" :: (write_policy ["policy"] dump.policy ++ .handle .H5Gclose ::
    (write_functor dump.functor_data dump.nvcc_inner_lambda_data ++ [.handle .H5Fclose])))

/-- The calls which add the output to a dump: the file is opened, and gets one more group. -/
def append_calls (output_snapshot : AllocationSnapshot) : List Call :=
  .H5Fopen :: (write_snapshot machine "out" output_snapshot ++ [.handle .H5Fclose])

/-- The file system as far as the dumps need it: how a path is resolved, and the
    text of the exception for a call which failed. -/
structure DumpSystem where
  absolute : String → Except String String
  what : Call → String

variable (system : DumpSystem)

/-- The result for calls on a file, run up to the first one which fails. -/
def dump_result (filename : String) (outcome : Outcome) : ViewDumpResult × File :=
  match outcome.failed with
  | none => (⟨true, filename, ""⟩, outcome.file)
  | some call => (⟨false, filename, system.what call⟩, outcome.file)

/-- The result, and the file at the path. A fault makes the call at its position fail. -/
def create_kernel_dump (fault : Option Nat) (dump : KernelDump) (file : File) : ViewDumpResult × File :=
  let filename := dump_filename dump.label dump.kernel_id
  match system.absolute filename with
  | .error message => (⟨false, filename, "failed to resolve dump path: " ++ message⟩, file)
  | .ok dump_path => dump_result system dump_path (run fault (create_calls machine dump) file)

/-- The calls run up to the first that fails, and the result says what happened. -/
def append_kernel_output (fault : Option Nat) (output : KernelOutput) (file : File) :
    ViewDumpResult × File :=
  dump_result system output.filename (run fault (append_calls machine output.output_snapshot) file)

/-- A result without an error means that all calls succeeded. -/
theorem dump_result_ok {filename : String} {outcome : Outcome}
    (hok : (dump_result system filename outcome).1.ok = true) :
    outcome.ok = true ∧ (dump_result system filename outcome).2 = outcome.file := by
  unfold dump_result at hok ⊢
  unfold Outcome.ok
  cases hfailed : outcome.failed with
  | none => exact ⟨rfl, rfl⟩
  | some call =>
    rw [hfailed] at hok
    cases hok

/-- A result with an error means that a call failed. -/
theorem dump_result_failed {filename : String} {outcome : Outcome}
    (hfailed : (dump_result system filename outcome).1.ok = false) :
    outcome.ok = false ∧ (dump_result system filename outcome).2 = outcome.file := by
  unfold dump_result at hfailed ⊢
  unfold Outcome.ok
  cases hcall : outcome.failed with
  | none =>
    rw [hcall] at hfailed
    cases hfailed
  | some call => exact ⟨rfl, rfl⟩

/-- A dump which is reported as written has all its calls executed. -/
theorem create_kernel_dump_ok {fault : Option Nat} {dump : KernelDump} {file : File}
    (hok : (create_kernel_dump machine system fault dump file).1.ok = true) :
    exec (create_calls machine dump) file =
      some (create_kernel_dump machine system fault dump file).2 := by
  unfold create_kernel_dump at hok ⊢
  cases hpath : system.absolute (dump_filename dump.label dump.kernel_id) with
  | error message =>
    simp only [hpath] at hok
    cases hok
  | ok dump_path =>
    simp only [hpath] at hok ⊢
    obtain ⟨houtcome, hfile⟩ := dump_result_ok system hok
    rw [hfile]
    exact exec_of_run_ok houtcome

/-- An output which reports success was written by all of its calls. -/
theorem append_kernel_output_ok {fault : Option Nat} {output : KernelOutput} {file : File}
    (hok : (append_kernel_output machine system fault output file).1.ok = true) :
    exec (append_calls machine output.output_snapshot) file =
      some (append_kernel_output machine system fault output file).2 := by
  obtain ⟨houtcome, hfile⟩ := dump_result_ok system hok
  rw [append_kernel_output, hfile]
  exact exec_of_run_ok houtcome

end krepe
