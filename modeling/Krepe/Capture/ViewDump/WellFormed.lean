import Krepe.Capture.AllocationTracker.Snapshot
import Krepe.Capture.Host
import Krepe.Capture.ViewDump.Stored

open std hdf5

namespace krepe

/-- What a group says of its allocation besides the bytes. -/
def record_attributes (allocation : ActiveAllocation) : List (String × AttrValue) :=
  [("label", string_data allocation.record.label), ("space", string_data allocation.record.space),
    ("ptr", string_data (pointer_to_string allocation.ptr)),
    ("p_data", string_data (pointer_to_string allocation.record.p_data)),
    ("size", .uint64 allocation.record.size), ("reported_size", .uint64 allocation.record.reported_size)]

section

variable (machine : CaptureMachine) (file : File)

/-- The group of an allocation with the bytes of its memory. -/
structure BytesForm (object : Path) (record : AllocationRecord) : Prop where
  flag : file.attr? object "bytes_dumped" = some (.int 1)
  no_reason : file.attr? object "skip_reason" = none
  links : file.links? object = some ["bytes"]
  bytes : ∃ dataset, file.dataset? (object ++ ["bytes"]) = some dataset ∧
    dataset.dims = [record.size.toNat] ∧
    dataset.read_uchar = some (memory_bytes machine.byte record.p_data record.size)

/-- The group of an allocation with the reason for which there are no bytes. -/
structure SkippedForm (object : Path) : Prop where
  flag : file.attr? object "bytes_dumped" = some (.int 0)
  reason : ∃ reason, reason ≠ "" ∧ file.attr? object "skip_reason" = some (string_data reason)
  links : file.links? object = some []

/-- The group of an allocation is whole: it has the record, and either the bytes of the record
    or a reason why they were skipped, where a known empty allocation has bytes and one of
    unknown size has none. -/
structure GroupForm (object : Path) (allocation : ActiveAllocation) : Prop where
  record : ∀ attr ∈ record_attributes allocation, file.attr? object attr.1 = some attr.2
  form : Xor (BytesForm machine file object allocation.record) (SkippedForm file object)
  known_empty : allocation.record.data_size_known = true → allocation.record.size = 0 →
    BytesForm machine file object allocation.record
  unknown : allocation.record.data_size_known = false → SkippedForm file object

/-- The value of the attribute `size` of a group, and zero if there is none. -/
def size_attribute (object : Path) : UInt64 :=
  match file.attr? object "size" with
  | some (.uint64 size) => size
  | _ => 0

/-- The group of a snapshot has one group for each allocation, and counts them and
    their bytes. -/
structure SnapshotForm (name : String) (allocations : List ActiveAllocation) (views : List String) :
    Prop where
  links : file.links? [name, "views"] = some views
  nodup : views.Nodup
  groups : List.Forall₂ (fun view allocation => GroupForm machine file [name, "views", view] allocation)
    views allocations
  active_allocations : file.attr? [name] "active_allocations" = some (.uint64 (UInt64.ofNat views.length))
  active_bytes : file.attr? [name] "active_bytes" =
    some (.uint64 ((views.map fun view => size_attribute file [name, "views", view]).sum))

end

section

variable {machine : CaptureMachine} {file : File} {object : Path} {allocation : ActiveAllocation}

theorem stored_group_attr? (hstored : GroupStored machine file object allocation) (attr : String) :
    file.attr? object attr = (stored_group machine allocation).attrs.lookup attr :=
  File.attr?_of_group hstored.group attr

theorem GroupStored.links? (hstored : GroupStored machine file object allocation) :
    file.links? object = some (if Dumped machine allocation then ["bytes"] else []) :=
  File.links?_of_group hstored.group

/-- A stored allocation has all attributes of its record. -/
theorem GroupStored.record (hstored : GroupStored machine file object allocation) :
    ∀ attr ∈ record_attributes allocation, file.attr? object attr.1 = some attr.2 := by
  intro attr hattr
  rw [stored_group_attr? hstored]
  simp only [record_attributes, List.mem_cons, List.not_mem_nil, or_false] at hattr
  rcases hattr with rfl | rfl | rfl | rfl | rfl | rfl <;> rfl

/-- A stored allocation that was dumped has its bytes. -/
theorem GroupStored.bytes_form (hstored : GroupStored machine file object allocation)
    (hdumped : Dumped machine allocation) : BytesForm machine file object allocation.record := by
  have hreason : (copy_allocation_bytes machine allocation).1 = "" := hdumped
  have hlength : (copy_allocation_bytes machine allocation).2.length = allocation.record.size.toNat := by
    rw [hdumped.bytes, memory_bytes_length]
  refine ⟨?_, ?_, ?_, _, File.dataset?_eq_some.mpr (hstored.bytes hdumped), ?_, ?_⟩
  · simp [stored_group_attr? hstored, stored_group, allocation_attributes, hreason, List.lookup_cons]
  · simp [stored_group_attr? hstored, stored_group, allocation_attributes, hreason, List.lookup_cons]
  · rw [hstored.links?, if_pos hdumped]
  · simp only [stored_dataset, elements_size, hlength]
  · rw [← hdumped.bytes]
    by_cases hempty : (copy_allocation_bytes machine allocation).2 = []
    · simp [stored_dataset, Dataset.read_uchar, elements_size, hempty, Hdf5Datatype, extent]
    · simp [stored_dataset, Dataset.read_uchar, elements_size, hempty, Hdf5Datatype]

/-- A stored allocation that was skipped has a reason, and no bytes. -/
theorem GroupStored.skipped_form (hstored : GroupStored machine file object allocation)
    (hskipped : ¬ Dumped machine allocation) : SkippedForm file object := by
  have hreason : (copy_allocation_bytes machine allocation).1 ≠ "" := hskipped
  refine ⟨?_, ⟨_, hreason, ?_⟩, ?_⟩
  · simp [stored_group_attr? hstored, stored_group, allocation_attributes, hreason, List.lookup_cons]
  · simp [stored_group_attr? hstored, stored_group, allocation_attributes, hreason, List.lookup_cons]
  · rw [hstored.links?, if_neg hskipped]

/-- No group has both bytes and a reason. -/
theorem BytesForm.not_skipped {record : AllocationRecord} (hbytes : BytesForm machine file object record) :
    ¬ SkippedForm file object := by
  intro hskipped
  have hflag := hbytes.flag
  rw [hskipped.flag] at hflag
  cases hflag

/-- A stored group has one of the two forms. -/
theorem GroupStored.group_form (hstored : GroupStored machine file object allocation) :
    GroupForm machine file object allocation where
  record := hstored.record
  form := by
    by_cases hdumped : Dumped machine allocation
    · have hbytes := hstored.bytes_form hdumped
      exact Or.inl ⟨hbytes, hbytes.not_skipped⟩
    · have hskipped := hstored.skipped_form hdumped
      exact Or.inr ⟨hskipped, fun hbytes => hbytes.not_skipped hskipped⟩
  known_empty hknown hempty := hstored.bytes_form (by simp [Dumped, copy_allocation_bytes, hknown, hempty])
  unknown hunknown := hstored.skipped_form fun hdumped => by
    rw [hdumped.data_size_known] at hunknown
    cases hunknown

/-- The size which a stored allocation names is the one of its record. -/
theorem GroupStored.size_attribute (hstored : GroupStored machine file object allocation) :
    size_attribute file object = allocation.record.size := by
  have hsize := hstored.record ("size", .uint64 allocation.record.size) (by simp [record_attributes])
  rw [krepe.size_attribute, hsize]

/-- A stored snapshot is well formed when its bytes are the sum of its sizes. -/
theorem SnapshotStored.snapshot_form {name : String} {snapshot : AllocationSnapshot}
    (hstored : SnapshotStored machine file name snapshot)
    (hsum : snapshot.active_bytes = (snapshot.allocations.map (·.record.size)).sum) :
    SnapshotForm machine file name snapshot.allocations (view_names snapshot.allocations 0) where
  links := hstored.links
  nodup := view_names_nodup _ _
  groups := hstored.entries.imp fun _ _ hentry => hentry.group_form
  active_allocations := by
    rw [File.attr?_of_group hstored.group, view_names_length]
    rfl
  active_bytes := by
    have hsizes : (view_names snapshot.allocations 0).map
        (fun view => krepe.size_attribute file [name, "views", view]) =
          snapshot.allocations.map (·.record.size) := by
      rw [← List.forall₂_eq_eq_eq, List.forall₂_map_left_iff, List.forall₂_map_right_iff]
      exact hstored.entries.imp fun _ _ hentry => hentry.size_attribute
    rw [File.attr?_of_group hstored.group, hsizes, ← hsum]
    rfl

end

/-- For every state of the tracker, every build and every outcome of the copies: where a dump or
    an appended output reports success, its group has one subgroup for each allocation of the
    snapshot, with its record and either its bytes or the reason why they were skipped, and the
    counts are those of the subgroups. -/
theorem snapshot_groups_well_formed (machine : CaptureMachine) (system : DumpSystem) (fault : Option Nat)
    (file : File) (compiler_plugins : Bool) (tracker : AllocationTracker) :
    let snapshot := (tracker.snapshot compiler_plugins).1
    (∀ dump, dump.input_snapshot = snapshot →
      (create_kernel_dump machine system fault dump file).1.ok = true →
      ∃ views, SnapshotForm machine (create_kernel_dump machine system fault dump file).2 "in"
        snapshot.allocations views) ∧
    ∀ output, output.output_snapshot = snapshot →
      (append_kernel_output machine system fault output file).1.ok = true →
      ∃ views, SnapshotForm machine (append_kernel_output machine system fault output file).2 "out"
        snapshot.allocations views := by
  intro snapshot
  have hsum := AllocationTracker.snapshot_active_bytes compiler_plugins tracker
  constructor
  · intro dump hinput hok
    obtain ⟨written, hwritten, hsame⟩ := (DumpStored.of_exec (create_kernel_dump_ok machine system hok)).input
    rw [hinput] at hwritten
    exact ⟨_, ((write_snapshot_stored hwritten).congr hsame).snapshot_form hsum⟩
  · intro output houtput hok
    have hwritten := exec_append_calls (append_kernel_output_ok machine system hok)
    rw [houtput] at hwritten
    exact ⟨_, (write_snapshot_stored hwritten).snapshot_form hsum⟩

/-- A tracker of an allocation of three bytes, an empty one on a device without
    support, and one of unknown size. -/
def mixed_tracker : AllocationTracker :=
  ((AllocationTracker.empty.record_allocation "values" "Host" 4096 4224 3 131 true).record_allocation
    "none" "SYCLDeviceUSM" 8192 8320 0 128 true).record_allocation "raw" "Host" 12288 12288 64 64 false

/-- A tracker with a filled allocation, an empty one and one of unknown size, before and after a
    kernel. -/
theorem snapshot_groups_example :
    let machine := host_capture fun address => address.toUInt8
    let snapshot := (mixed_tracker.snapshot false).1
    let dump := { plain_dump [] with input_snapshot := snapshot }
    let file := (create_kernel_dump machine plain_system none dump no_file).2
    let output : KernelOutput := ⟨snapshot, "krepe_kernel_0.h5"⟩
    snapshot.allocations.length = 3 ∧ (∃ views, SnapshotForm machine file "in" snapshot.allocations views) ∧
      ∃ views, SnapshotForm machine (append_kernel_output machine plain_system none output file).2 "out"
        snapshot.allocations views := by
  intro machine snapshot dump file output
  obtain ⟨hcreate, hstored⟩ := @dump_created machine dump rfl no_file
  have happend := @output_appended machine dump file hstored machine output
  refine ⟨by decide, ?_, ?_⟩
  · exact (snapshot_groups_well_formed machine plain_system none no_file false mixed_tracker).1 dump rfl hcreate
  · exact (snapshot_groups_well_formed machine plain_system none file false mixed_tracker).2 output rfl happend

end krepe
