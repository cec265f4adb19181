import Krepe.Capture.ViewDump
import Krepe.Resource.Handles

open std hdf5 resource

namespace krepe.scoped

/-- The call which closes what another one opens. -/
def closer : hdf5.Call → Option hdf5.Call
  | .handle .H5Tcopy => some (.handle .H5Tclose)
  | .handle .H5Screate | .handle .H5Screate_simple => some (.handle .H5Sclose)
  | .H5Acreate2 _ _ _ => some (.handle .H5Aclose)
  | .H5Dcreate2 _ _ _ _ => some (.handle .H5Dclose)
  | .H5Gcreate2 _ _ => some (.handle .H5Gclose)
  | .H5Fcreate | .H5Fopen => some (.handle .H5Fclose)
  | .handle _ | .H5Awrite _ _ _ | .H5Dwrite _ _ _ => none

/-- Closing a handle changes nothing in the file. -/
theorem closer_neutral (call release : hdf5.Call) (hcloser : closer call = some release) (file : File) :
    release.apply file = some file := by
  unfold closer at hcloser
  split at hcloser <;> cases hcloser <;> rfl

/-- A scalar attribute, under the handles of its dataspace and of itself. -/
def hold_attribute (object : Path) (name : String) (type : AttrType) (value : AttrValue) : Program hdf5.Call :=
  .hold (.handle .H5Screate) (.handle .H5Sclose) <|
    .hold (.H5Acreate2 object name type) (.handle .H5Aclose) <| .perform (.H5Awrite object name value)

/-- A text attribute, under the handle of its copied type as well. -/
def write_string_attribute (object : Path) (name text : String) : Program hdf5.Call :=
  let size := if text.isEmpty then 1 else text.length + 1
  .hold (.handle .H5Tcopy) (.handle .H5Tclose) <| .block
    [.perform (.handle .H5Tset_size), .perform (.handle .H5Tset_strpad),
      hold_attribute object name (.string size) (string_data text)]

/-- An unsigned 64-bit attribute. -/
def write_uint64_attribute (object : Path) (name : String) (value : UInt64) : Program hdf5.Call :=
  hold_attribute object name .uint64 (.uint64 value)

/-- An `int` attribute. -/
def write_int_attribute (object : Path) (name : String) (value : Int32) : Program hdf5.Call :=
  hold_attribute object name .int (.int value)

/-- A dataset of one dimension, under the handles of its dataspace and of itself. -/
def write_dataset (group : Path) (name : String) (data : Elements) : Program hdf5.Call :=
  .hold (.handle .H5Screate_simple) (.handle .H5Sclose) <|
    .hold (.H5Dcreate2 group name (Hdf5Datatype data) [elements_size data]) (.handle .H5Dclose) <|
      if elements_size data = 0 then .skip else .perform (.H5Dwrite group name data)

/-- A new group, under its handle while the statements run. -/
def hold_group (loc : Path) (name : String) (statements : List (Program hdf5.Call)) : Program hdf5.Call :=
  .hold (.H5Gcreate2 loc name) (.handle .H5Gclose) (.block statements)

/-- The type `none` alone. -/
def write_no_policy (policy_group : Path) : Program hdf5.Call :=
  write_string_attribute policy_group "type" "none"

/-- The type and the upper bound. -/
def write_scalar_policy (policy_group : Path) (policy : ScalarPolicyDesc) : Program hdf5.Call :=
  .block [write_string_attribute policy_group "type" "scalar",
    write_uint64_attribute policy_group "end" policy.end]

/-- The type, the common attributes, the bounds and the chunk size. -/
def write_range_policy (policy_group : Path) (policy : RangePolicyDesc) : Program hdf5.Call :=
  .block [write_string_attribute policy_group "type" "range",
    write_int_attribute policy_group "index_type_size" (as_int policy.index_type_desc.size),
    write_int_attribute policy_group "index_type_signed" (as_int policy.index_type_desc.is_signed.toNat),
    write_string_attribute policy_group "space" policy.space,
    write_string_attribute policy_group "schedule" policy.schedule,
    write_uint64_attribute policy_group "begin" policy.begin,
    write_uint64_attribute policy_group "end" policy.end,
    write_int_attribute policy_group "chunk_size" policy.chunk_size]

/-- The type, the common attributes, the rank and directions, and three datasets. -/
def write_mdrange_policy (policy_group : Path) (policy : MDRangePolicyDesc) : Program hdf5.Call :=
  .block [write_string_attribute policy_group "type" "mdrange",
    write_int_attribute policy_group "index_type_size" (as_int policy.index_type_desc.size),
    write_int_attribute policy_group "index_type_signed" (as_int policy.index_type_desc.is_signed.toNat),
    write_string_attribute policy_group "space" policy.space,
    write_string_attribute policy_group "schedule" policy.schedule,
    write_int_attribute policy_group "rank" (as_int policy.rank),
    write_string_attribute policy_group "outer_dir" policy.outer_dir,
    write_string_attribute policy_group "inner_dir" policy.inner_dir,
    write_dataset policy_group "begin" (.int64 policy.begin),
    write_dataset policy_group "end" (.int64 policy.end),
    write_dataset policy_group "tile" (.int64 policy.tile)]

/-- The type, the common attributes, the extents, the scratch sizes and the chunk size. -/
def write_team_policy (policy_group : Path) (policy : TeamPolicyDesc) : Program hdf5.Call :=
  .block [write_string_attribute policy_group "type" "team",
    write_int_attribute policy_group "index_type_size" (as_int policy.index_type_desc.size),
    write_int_attribute policy_group "index_type_signed" (as_int policy.index_type_desc.is_signed.toNat),
    write_string_attribute policy_group "space" policy.space,
    write_string_attribute policy_group "schedule" policy.schedule,
    write_int_attribute policy_group "team_size" policy.team_size,
    write_int_attribute policy_group "league_size" policy.league_size,
    write_int_attribute policy_group "vector_length" policy.vector_length,
    write_int_attribute policy_group "team_scratch_0" policy.team_scratch_0,
    write_int_attribute policy_group "team_scratch_1" policy.team_scratch_1,
    write_int_attribute policy_group "thread_scratch_0" policy.thread_scratch_0,
    write_int_attribute policy_group "thread_scratch_1" policy.thread_scratch_1,
    write_int_attribute policy_group "chunk_size" policy.chunk_size]

/-- The program for the alternative which the variant holds. -/
def write_policy (policy_group : Path) : PolicyDesc → Program hdf5.Call
  | .no_policy => write_no_policy policy_group
  | .scalar policy => write_scalar_policy policy_group policy
  | .range policy => write_range_policy policy_group policy
  | .mdrange policy => write_mdrange_policy policy_group policy
  | .team policy => write_team_policy policy_group policy

section

variable (machine : CaptureMachine)

/-- Both ways out of the function close the group. -/
def write_allocation_group (views_group : Path) (allocation : ActiveAllocation) (index : Nat) :
    Program hdf5.Call :=
  let group_name := view_name allocation index
  let group := views_group ++ [group_name]
  let (skip_reason, bytes) := copy_allocation_bytes machine allocation
  hold_group views_group group_name
    [write_string_attribute group "label" allocation.record.label,
      write_string_attribute group "space" allocation.record.space,
      write_string_attribute group "ptr" (pointer_to_string allocation.ptr),
      write_string_attribute group "p_data" (pointer_to_string allocation.record.p_data),
      write_uint64_attribute group "size" allocation.record.size,
      write_uint64_attribute group "reported_size" allocation.record.reported_size,
      write_int_attribute group "bytes_dumped" (if skip_reason = "" then 1 else 0),
      if skip_reason ≠ "" then write_string_attribute group "skip_reason" skip_reason
      else write_dataset group "bytes" (.uchar bytes)]

/-- The groups of the allocations one after the other, numbered from an index on. -/
def write_allocation_groups (views_group : Path) (allocations : List ActiveAllocation) (index : Nat) :
    Program hdf5.Call :=
  match allocations with
  | [] => .skip
  | allocation :: rest =>
    .seq (write_allocation_group machine views_group allocation index)
      (write_allocation_groups views_group rest (index + 1))

/-- The group of a snapshot, and the subgroup with its views, under their handles. -/
def write_snapshot (name : String) (snapshot : AllocationSnapshot) : Program hdf5.Call :=
  hold_group [] name
    [write_uint64_attribute ([name]) "active_allocations" (UInt64.ofNat snapshot.allocations.length),
      write_uint64_attribute ([name]) "active_bytes" snapshot.active_bytes,
      hold_group [name] "views" [write_allocation_groups machine [name, "views"] snapshot.allocations 0]]

/-- The group of the metadata, one text attribute for each entry in the order of the table. -/
def write_metadata (metadata : UnorderedMap String String) : Program hdf5.Call :=
  hold_group [] "metadata"
    (metadata.entries.map fun entry => write_string_attribute ["metadata"] (c_str entry.1) entry.2)

/-- The group of the functor with its two datasets. -/
def write_functor (functor_data nvcc_inner_lambda_data : List UInt8) : Program hdf5.Call :=
  hold_group [] "functor"
    [write_dataset ["functor"] "functor" (.uchar functor_data),
      write_dataset ["functor"] "nvcc_inner_lambda" (.uchar nvcc_inner_lambda_data)]

/-- `create_kernel_dump` once the path is resolved. The handles of the groups are closed
    before the next group is made. -/
def create_program (dump : KernelDump) : Program hdf5.Call :=
  .hold .H5Fcreate (.handle .H5Fclose) <| .block
    [write_string_attribute [] "kernel_label" dump.label,
      write_uint64_attribute [] "kernel_id" (UInt64.ofNat dump.kernel_id),
      write_uint64_attribute [] "kernel_invocation" (UInt64.ofNat dump.kernel_invocation),
      write_snapshot machine "in" dump.input_snapshot, write_metadata dump.metadata,
      hold_group [] "policy" [write_policy ["policy"] dump.policy],
      write_functor dump.functor_data dump.nvcc_inner_lambda_data]

/-- The file is opened again, and the snapshot is written under the handle of the file. -/
def append_program (output_snapshot : AllocationSnapshot) : Program hdf5.Call :=
  .hold .H5Fopen (.handle .H5Fclose) (write_snapshot machine "out" output_snapshot)

variable (system : DumpSystem) (fails : Nat → Bool)

/-- The result and the file, and what was done with handles. -/
def create_kernel_dump (dump : KernelDump) (file : File) :
    (ViewDumpResult × File) × List (Event hdf5.Call) :=
  let filename := dump_filename dump.label dump.kernel_id
  match system.absolute filename with
  | .error message => ((⟨false, filename, "failed to resolve dump path: " ++ message⟩, file), [])
  | .ok dump_path =>
    let result := Environment.run ⟨hdf5.Call.apply, fails⟩ (create_program machine dump) 0 file
    (dump_result system dump_path ⟨result.failed, result.state⟩, result.events)

/-- The run of the program, with the events of its handles beside the result and the file. -/
def append_kernel_output (output : KernelOutput) (file : File) :
    (ViewDumpResult × File) × List (Event hdf5.Call) :=
  let result := Environment.run ⟨hdf5.Call.apply, fails⟩ (append_program machine output.output_snapshot) 0 file
  (dump_result system output.filename ⟨result.failed, result.state⟩, result.events)

end

section

@[simp]
theorem flatten_write_string_attribute (object : Path) (name text : String) :
    (write_string_attribute object name text).flatten = krepe.write_string_attribute object name text := rfl

@[simp]
theorem flatten_write_uint64_attribute (object : Path) (name : String) (value : UInt64) :
    (write_uint64_attribute object name value).flatten = krepe.write_uint64_attribute object name value := rfl

@[simp]
theorem flatten_write_int_attribute (object : Path) (name : String) (value : Int32) :
    (write_int_attribute object name value).flatten = krepe.write_int_attribute object name value := rfl

@[simp]
theorem flatten_write_dataset (group : Path) (name : String) (data : Elements) :
    (write_dataset group name data).flatten = krepe.write_dataset group name data := by
  unfold write_dataset krepe.write_dataset
  split <;> rfl

@[simp]
theorem flatten_hold_group (loc : Path) (name : String) (statements : List (Program hdf5.Call)) :
    (hold_group loc name statements).flatten =
      .H5Gcreate2 loc name :: ((Program.block statements).flatten ++ [.handle .H5Gclose]) := rfl

theorem flatten_write_policy (policy_group : Path) (policy : PolicyDesc) :
    (write_policy policy_group policy).flatten = krepe.write_policy policy_group policy := by
  cases policy with
  | no_policy => rfl
  | scalar policy => simp [write_policy, write_scalar_policy, krepe.write_policy, krepe.write_scalar_policy]
  | range policy => simp [write_policy, write_range_policy, krepe.write_policy, krepe.write_range_policy]
  | mdrange policy => simp [write_policy, write_mdrange_policy, krepe.write_policy, krepe.write_mdrange_policy]
  | team policy => simp [write_policy, write_team_policy, krepe.write_policy, krepe.write_team_policy]

theorem flatten_write_metadata (metadata : UnorderedMap String String) :
    (write_metadata metadata).flatten = krepe.write_metadata metadata := by
  have hentries : ∀ entries : List (Sigma fun _ : String => String),
      (Program.block (entries.map fun entry => write_string_attribute ["metadata"] (c_str entry.1) entry.2)).flatten =
        entries.flatMap fun entry => krepe.write_string_attribute ["metadata"] (c_str entry.1) entry.2 := by
    intro entries
    induction entries with
    | nil => rfl
    | cons entry rest ih =>
      rw [List.map_cons, Program.flatten_block_cons, ih, List.flatMap_cons, flatten_write_string_attribute]
  rw [write_metadata, flatten_hold_group, hentries, krepe.write_metadata]

theorem flatten_write_functor (functor_data nvcc_inner_lambda_data : List UInt8) :
    (write_functor functor_data nvcc_inner_lambda_data).flatten =
      krepe.write_functor functor_data nvcc_inner_lambda_data := by
  simp [write_functor, krepe.write_functor]

variable (machine : CaptureMachine)

/-- Without the handles, the program makes the calls of the writer. -/
theorem flatten_write_allocation_group (views_group : Path) (allocation : ActiveAllocation) (index : Nat) :
    (write_allocation_group machine views_group allocation index).flatten =
      krepe.write_allocation_group machine views_group allocation index := by
  have hbytes : ∀ group skip_reason bytes,
      (if skip_reason ≠ "" then write_string_attribute group "skip_reason" skip_reason
        else write_dataset group "bytes" (.uchar bytes)).flatten = write_allocation_bytes group skip_reason bytes := by
    intro group skip_reason bytes
    unfold write_allocation_bytes
    split <;> simp
  simp only [write_allocation_group, krepe.write_allocation_group, write_allocation_attributes, flatten_hold_group,
    Program.flatten_block_cons, Program.flatten_block_nil, hbytes, flatten_write_string_attribute,
    flatten_write_uint64_attribute, flatten_write_int_attribute, List.append_nil, List.append_assoc]

theorem flatten_write_allocation_groups (views_group : Path) (allocations : List ActiveAllocation) (index : Nat) :
    (write_allocation_groups machine views_group allocations index).flatten =
      krepe.write_allocation_groups machine views_group allocations index := by
  induction allocations generalizing index with
  | nil => rfl
  | cons allocation rest ih =>
    rw [write_allocation_groups, Program.flatten, flatten_write_allocation_group, ih, krepe.write_allocation_groups]

theorem flatten_write_snapshot (name : String) (snapshot : AllocationSnapshot) :
    (write_snapshot machine name snapshot).flatten = krepe.write_snapshot machine name snapshot := by
  simp [write_snapshot, krepe.write_snapshot, flatten_write_allocation_groups]

/-- Without the handles, the program of a dump makes the calls of the dump. -/
theorem flatten_create_program (dump : KernelDump) :
    (create_program machine dump).flatten = create_calls machine dump := by
  simp [create_program, create_calls, Program.flatten, flatten_write_snapshot, flatten_write_metadata,
    flatten_write_policy, flatten_write_functor]

/-- Without the handles, the program of an output makes the calls of the output. -/
theorem flatten_append_program (output_snapshot : AllocationSnapshot) :
    (append_program machine output_snapshot).flatten = append_calls machine output_snapshot := by
  rw [append_program, Program.flatten, flatten_write_snapshot, append_calls]

end

section

@[simp]
theorem scoped_write_string_attribute (object : Path) (name text : String) :
    (write_string_attribute object name text).Scoped closer := ⟨rfl, rfl, rfl, ⟨rfl, rfl, rfl⟩, trivial⟩

@[simp]
theorem scoped_write_uint64_attribute (object : Path) (name : String) (value : UInt64) :
    (write_uint64_attribute object name value).Scoped closer := ⟨rfl, rfl, rfl⟩

@[simp]
theorem scoped_write_int_attribute (object : Path) (name : String) (value : Int32) :
    (write_int_attribute object name value).Scoped closer := ⟨rfl, rfl, rfl⟩

@[simp]
theorem scoped_write_dataset (group : Path) (name : String) (data : Elements) :
    (write_dataset group name data).Scoped closer := by
  refine ⟨rfl, rfl, ?_⟩
  split
  · trivial
  · rfl

@[simp]
theorem scoped_hold_group {loc : Path} {name : String} {statements : List (Program hdf5.Call)} :
    (hold_group loc name statements).Scoped closer ↔ (Program.block statements).Scoped closer :=
  ⟨And.right, fun hstatements => ⟨rfl, hstatements⟩⟩

theorem scoped_write_policy (policy_group : Path) (policy : PolicyDesc) :
    (write_policy policy_group policy).Scoped closer := by
  cases policy <;>
    simp [write_policy, write_no_policy, write_scalar_policy, write_range_policy, write_mdrange_policy,
      write_team_policy]

theorem scoped_write_metadata (metadata : UnorderedMap String String) : (write_metadata metadata).Scoped closer := by
  have hentries : ∀ entries : List (Sigma fun _ : String => String),
      (Program.block
        (entries.map fun entry => write_string_attribute ["metadata"] (c_str entry.1) entry.2)).Scoped closer := by
    intro entries
    induction entries with
    | nil => trivial
    | cons entry rest ih => exact ⟨scoped_write_string_attribute _ _ _, ih⟩
  exact scoped_hold_group.mpr (hentries _)

variable (machine : CaptureMachine)

theorem scoped_write_allocation_group (views_group : Path) (allocation : ActiveAllocation) (index : Nat) :
    (write_allocation_group machine views_group allocation index).Scoped closer := by
  have hbytes : ∀ group skip_reason bytes,
      (if skip_reason ≠ "" then write_string_attribute group "skip_reason" skip_reason
        else write_dataset group "bytes" (.uchar bytes)).Scoped closer := by
    intro group skip_reason bytes
    split <;> simp
  simp only [write_allocation_group, scoped_hold_group, Program.scoped_block_cons, Program.scoped_block_nil, hbytes,
    scoped_write_string_attribute, scoped_write_uint64_attribute, scoped_write_int_attribute, and_self]

theorem scoped_write_snapshot (name : String) (snapshot : AllocationSnapshot) :
    (write_snapshot machine name snapshot).Scoped closer := by
  have hgroups : ∀ allocations index,
      (write_allocation_groups machine [name, "views"] allocations index).Scoped closer := by
    intro allocations
    induction allocations with
    | nil => exact fun _ => trivial
    | cons allocation rest ih => exact fun index => ⟨scoped_write_allocation_group machine _ _ _, ih (index + 1)⟩
  simp [write_snapshot, hgroups]

/-- Every handle of a dump is held by a scope which closes it. -/
theorem scoped_create_program (dump : KernelDump) : (create_program machine dump).Scoped closer := by
  refine ⟨rfl, ?_⟩
  simp [write_functor, scoped_write_snapshot, scoped_write_metadata, scoped_write_policy]

/-- Every handle of an output is held by a scope which closes it. -/
theorem scoped_append_program (output_snapshot : AllocationSnapshot) :
    (append_program machine output_snapshot).Scoped closer := ⟨rfl, scoped_write_snapshot machine _ _⟩

end

/-- The first call which has to fail, among some. -/
def first_fault (fails : Nat → Bool) (calls : Nat) : Option Nat := (List.range calls).find? fails

/-- A run in which a set of calls fails is one in which the first of them fails. -/
theorem run_calls_eq_run (fails : Nat → Bool) (calls : List hdf5.Call) (position : Nat) (file : File) :
    Environment.run_calls ⟨hdf5.Call.apply, fails⟩ calls position file =
      let outcome := hdf5.run (first_fault (fun index => fails (position + index)) calls.length) calls file
      (outcome.failed, outcome.file) := by
  induction calls generalizing position file with
  | nil => rfl
  | cons call rest ih =>
    have hfault : first_fault (fun index => fails (position + index)) (rest.length + 1) =
        if fails position then some 0
        else (first_fault (fun index => fails (position + 1 + index)) rest.length).map Nat.succ := by
      rw [first_fault, List.range_succ_eq_map, List.find?_cons, Nat.add_zero]
      cases fails position with
      | true => rfl
      | false =>
        simp only [List.find?_map, Bool.false_eq_true, if_false]
        congr 1
        exact congrArg (fun test => List.find? test _) (funext fun index => congrArg fails (by simp; omega))
    have hattempt : Environment.attempt ⟨hdf5.Call.apply, fails⟩ call position file =
        if fails position then none else call.apply file := rfl
    rw [Environment.run_calls, hattempt, hdf5.run, List.length_cons, hfault]
    cases fails position with
    | true => simp
    | false =>
      have hne : ((first_fault (fun index => fails (position + 1 + index)) rest.length).map Nat.succ) ≠ some 0 := by
        simp
      simp only [Bool.false_eq_true, if_false, hne]
      cases call.apply file with
      | none => rfl
      | some next =>
        dsimp only
        rw [ih, Option.map_map]
        have hpred : Nat.pred ∘ Nat.succ = id := rfl
        rw [hpred, Option.map_id]
        rfl

/-- A dump with its handles does what the plain one does, and its handles are used as they
    have to be: each is closed in its turn by the call for its kind, and once a call failed,
    nothing but destructors makes calls. -/
structure ClosesHandles (system : DumpSystem) (dumped : (ViewDumpResult × File) × List (Event hdf5.Call))
    (plain : ViewDumpResult × File) : Prop where
  same : dumped.1 = plain
  closed : ∀ opened, open_handles closer dumped.2 opened = some opened
  numbered : Numbered 0 dumped.2
  unwinds : ∃ failed, Unwinds failed dumped.2 ∧ (dumped.1.1.ok = true → failed = none) ∧
    ∀ call, failed = some call → dumped.1.1.error = system.what call

section

variable {machine : CaptureMachine} {system : DumpSystem} {fails : Nat → Bool} {program : Program hdf5.Call}
  {calls : List hdf5.Call}

/-- The calls of a program which closes its handles are cut at the first which fails. -/
theorem closes_handles_run (hscoped : program.Scoped closer) (hcalls : program.flatten = calls) (filename : String)
    (file : File) :
    let result := Environment.run ⟨hdf5.Call.apply, fails⟩ program 0 file
    ClosesHandles system (dump_result system filename ⟨result.failed, result.state⟩, result.events)
      (dump_result system filename (hdf5.run (first_fault fails calls.length) calls file)) := by
  have hruns := Environment.runs_run ⟨hdf5.Call.apply, fails⟩ program 0 file
  dsimp only
  generalize Environment.run ⟨hdf5.Call.apply, fails⟩ program 0 file = result at hruns
  have hplain := hruns.run_calls (Program.neutral_of_scoped closer_neutral hscoped) []
  rw [List.append_nil, hcalls, run_calls_eq_run] at hplain
  have houtcome : hdf5.run (first_fault fails calls.length) calls file = ⟨result.failed, result.state⟩ := by
    simp only [Nat.zero_add] at hplain
    cases hfailed : result.failed with
    | none =>
      rw [hfailed, Option.elim_none] at hplain
      exact congrArg (fun ended : Option hdf5.Call × File => Outcome.mk ended.1 ended.2) hplain
    | some call =>
      rw [hfailed, Option.elim_some] at hplain
      exact congrArg (fun ended : Option hdf5.Call × File => Outcome.mk ended.1 ended.2) hplain
  refine ⟨by rw [houtcome], hruns.open_handles hscoped, hruns.numbered, result.failed, hruns.unwinds, ?_, ?_⟩
  · intro hok
    unfold dump_result at hok
    cases hfailed : result.failed with
    | none => rfl
    | some call =>
      rw [hfailed] at hok
      cases hok
  · intro call hfailed
    rw [dump_result, hfailed]

end

/-- For any set of HDF5 calls that fail: with the handles of the source, the creation of a dump
    and the append of an output give the result and leave the file as if the first failing call
    stopped them, and every handle that was opened is closed once by the end. -/
theorem dumps_close_handles (machine : CaptureMachine) (system : DumpSystem) (fails : Nat → Bool) (file : File) :
    (∀ dump, ClosesHandles system (create_kernel_dump machine system fails dump file)
      (krepe.create_kernel_dump machine system (first_fault fails (create_calls machine dump).length) dump file)) ∧
    ∀ output, ClosesHandles system (append_kernel_output machine system fails output file)
      (krepe.append_kernel_output machine system
        (first_fault fails (append_calls machine output.output_snapshot).length) output file) := by
  constructor
  · intro dump
    unfold create_kernel_dump krepe.create_kernel_dump
    dsimp only
    cases system.absolute (dump_filename dump.label dump.kernel_id) with
    | error message =>
      refine ⟨rfl, fun _ => rfl, numbered_nil 0, none, ?_, fun _ => rfl, fun _ hfailed => by cases hfailed⟩
      exact .done fun _ hevent => absurd hevent List.not_mem_nil
    | ok dump_path =>
      exact closes_handles_run (scoped_create_program machine dump) (flatten_create_program machine dump) dump_path file
  · intro output
    exact closes_handles_run (scoped_append_program machine _) (flatten_append_program machine _) output.filename file

end krepe.scoped
