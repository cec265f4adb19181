import Krepe.Capture.ViewDump.Names

open std hdf5

namespace krepe

variable (machine : CaptureMachine)

/-- What the group of an allocation holds: a link to the bytes, or the reason for
    which there are none. -/
def stored_group (allocation : ActiveAllocation) : Group :=
  let skip_reason := (copy_allocation_bytes machine allocation).1
  ⟨allocation_attributes allocation skip_reason ++
    (if skip_reason = "" then [] else [("skip_reason", string_data skip_reason)]),
    if skip_reason = "" then ["bytes"] else []⟩

/-- The group of an allocation, and the bytes in it, are stored at a path. -/
structure GroupStored (file : File) (object : Path) (allocation : ActiveAllocation) : Prop where
  group : file object = some (.group (stored_group machine allocation))
  bytes : Dumped machine allocation → file (object ++ ["bytes"]) =
    some (.dataset (stored_dataset (.uchar (copy_allocation_bytes machine allocation).2)))

variable {machine} {views_group : Path} {allocations : List ActiveAllocation}
  {allocation : ActiveAllocation} {index : Nat} {file final : File}

/-- The group of an allocation stays stored while nothing below it changes. -/
theorem GroupStored.congr {other : File} {object : Path} (hstored : GroupStored machine file object allocation)
    (hsame : ∀ path, object <+: path → other path = file path) :
    GroupStored machine other object allocation where
  group := by rw [hsame object (List.prefix_refl _), hstored.group]
  bytes hdumped := by rw [hsame _ (List.prefix_append _ _), hstored.bytes hdumped]

/-- The bytes or the reason for an allocation are stored in its group. -/
theorem write_allocation_bytes_stored {object : Path} {node : Group}
    (hgroup : file object = some (.group node))
    (hexec : exec (write_allocation_bytes object (copy_allocation_bytes machine allocation).1
      (copy_allocation_bytes machine allocation).2) file = some final) :
    let skip_reason := (copy_allocation_bytes machine allocation).1
    final object = some (.group ⟨node.attrs ++
        (if skip_reason = "" then [] else [("skip_reason", string_data skip_reason)]),
        node.links ++ (if skip_reason = "" then ["bytes"] else [])⟩) ∧
      (Dumped machine allocation → final (object ++ ["bytes"]) =
        some (.dataset (stored_dataset (.uchar (copy_allocation_bytes machine allocation).2)))) := by
  intro skip_reason
  by_cases hdumped : skip_reason = ""
  · rw [write_allocation_bytes, if_neg (not_not.mpr hdumped), ← List.append_nil (write_dataset _ _ _),
      exec_write_dataset] at hexec
    obtain ⟨linked, hlink, hlast⟩ := Option.bind_eq_some_iff.mp hexec
    cases hlast
    obtain ⟨found, hfound, _, _, rfl⟩ := File.link_eq_some.mp hlink
    rw [hgroup, Option.some.injEq, Object.group.injEq] at hfound
    subst hfound
    refine ⟨?_, fun _ => File.set_self _ _ _⟩
    rw [File.set_of_ne _ _ (path_ne_child object "bytes").symm, File.set_self, if_pos hdumped, if_pos hdumped,
      List.append_nil]
  · rw [write_allocation_bytes, if_pos hdumped, ← List.append_nil (write_string_attribute _ _ _),
      exec_write_string_attribute] at hexec
    obtain ⟨added, hadded, hlast⟩ := Option.bind_eq_some_iff.mp hexec
    cases hlast
    obtain ⟨found, hfound, _, _, rfl⟩ := File.add_attr_eq_some.mp hadded
    rw [hgroup, Option.some.injEq, Object.group.injEq] at hfound
    subst hfound
    refine ⟨?_, fun hcopied => absurd hcopied hdumped⟩
    rw [File.set_self, if_neg hdumped, if_neg hdumped, List.append_nil]

/-- The calls for one allocation store its group. -/
theorem write_allocation_group_stored
    (hexec : exec (write_allocation_group machine views_group allocation index) file = some final) :
    GroupStored machine final (views_group ++ [view_name allocation index]) allocation := by
  rw [write_allocation_group, exec_cons] at hexec
  obtain ⟨created, hcreated, hexec⟩ := Option.bind_eq_some_iff.mp hexec
  obtain ⟨views, _, _, _, rfl⟩ := File.link_eq_some.mp hcreated
  rw [List.append_assoc, exec_write_allocation_attributes] at hexec
  obtain ⟨added, hadded, hexec⟩ := Option.bind_eq_some_iff.mp hexec
  obtain ⟨_, _, rfl⟩ := (File.add_attrs_eq_some (File.set_self _ _ _)).mp hadded
  obtain ⟨written, hwritten, hlast⟩ := exec_append_eq_some.mp hexec
  cases hlast
  obtain ⟨hgroup, hbytes⟩ := write_allocation_bytes_stored (File.set_self _ _ _) hwritten
  exact ⟨hgroup, hbytes⟩

/-- Groups are written to nothing but themselves and their common group. -/
theorem write_allocation_groups_frame
    (hexec : exec (write_allocation_groups machine views_group allocations index) file = some final)
    {path : Path} (hpath : path ≠ views_group)
    (hother : ∀ other i, index ≤ i → ¬ views_group ++ [view_name other i] <+: path) :
    final path = file path := by
  induction allocations generalizing index file with
  | nil =>
    cases hexec
    rfl
  | cons allocation rest ih =>
    obtain ⟨middle, hmiddle, hrest⟩ := exec_append_eq_some.mp hexec
    rw [ih hrest fun other i hle => hother other i (by omega)]
    exact exec_below_frame (below_write_allocation_group machine views_group allocation index) hmiddle
      (hother allocation index (le_refl _)) (by simpa using hpath)

/-- The calls for some allocations store all their groups. -/
theorem write_allocation_groups_stored
    (hexec : exec (write_allocation_groups machine views_group allocations index) file = some final) :
    List.Forall₂ (fun name allocation => GroupStored machine final (views_group ++ [name]) allocation)
      (view_names allocations index) allocations := by
  induction allocations generalizing index file with
  | nil => exact List.Forall₂.nil
  | cons allocation rest ih =>
    obtain ⟨middle, hmiddle, hrest⟩ := exec_append_eq_some.mp hexec
    refine List.Forall₂.cons ?_ (ih hrest)
    refine (write_allocation_group_stored hmiddle).congr fun path hpath => ?_
    -- A later group has another name.
    refine write_allocation_groups_frame hrest ?_ fun other i hle hinside => ?_
    · rintro rfl
      have hlength := hpath.length_le
      rw [List.length_append, List.length_singleton] at hlength
      omega
    · have hlength : (views_group ++ [view_name other i]).length =
          (views_group ++ [view_name allocation index]).length := by simp
      have hsame := List.IsPrefix.eq_of_length (List.prefix_of_prefix_length_le hinside hpath hlength.le) hlength
      have hindex := view_name_index (List.singleton_inj.mp (List.append_cancel_left hsame))
      omega

/-- The groups of a snapshot are stored under its name. -/
structure SnapshotStored (machine : CaptureMachine) (file : File) (name : String)
    (snapshot : AllocationSnapshot) : Prop where
  group : file [name] = some (.group
    ⟨[("active_allocations", .uint64 (UInt64.ofNat snapshot.allocations.length)),
      ("active_bytes", .uint64 snapshot.active_bytes)], ["views"]⟩)
  links : file.links? [name, "views"] = some (view_names snapshot.allocations 0)
  entries : List.Forall₂ (fun child allocation => GroupStored machine file [name, "views", child] allocation)
    (view_names snapshot.allocations 0) snapshot.allocations

/-- A snapshot which was written as a whole is stored. -/
theorem write_snapshot_stored {name : String} {snapshot : AllocationSnapshot}
    (hexec : exec (write_snapshot machine name snapshot) file = some final) :
    SnapshotStored machine final name snapshot := by
  have hlinks := links?_of_snapshot hexec
  rw [write_snapshot, exec_cons] at hexec
  obtain ⟨created, hcreated, hexec⟩ := Option.bind_eq_some_iff.mp hexec
  obtain ⟨root, _, _, _, rfl⟩ := File.link_eq_some.mp hcreated
  simp only [List.append_assoc, exec_write_uint64_attribute] at hexec
  obtain ⟨counted, hcounted, hexec⟩ := Option.bind_eq_some_iff.mp hexec
  obtain ⟨found, hfound, _, _, rfl⟩ := File.add_attr_eq_some.mp hcounted
  cases (File.set_self _ _ _).symm.trans hfound
  obtain ⟨summed, hsummed, hexec⟩ := Option.bind_eq_some_iff.mp hexec
  obtain ⟨found, hfound, _, _, rfl⟩ := File.add_attr_eq_some.mp hsummed
  cases (File.set_self _ _ _).symm.trans hfound
  rw [exec_cons] at hexec
  obtain ⟨views, hviews, hexec⟩ := Option.bind_eq_some_iff.mp hexec
  obtain ⟨found, hfound, _, _, rfl⟩ := File.link_eq_some.mp hviews
  cases (File.set_self _ _ _).symm.trans hfound
  obtain ⟨written, hwritten, hlast⟩ := exec_append_eq_some.mp hexec
  cases hlast
  refine ⟨?_, hlinks, write_allocation_groups_stored hwritten⟩
  rw [write_allocation_groups_frame hwritten (by simp) (by simp), File.set_of_ne _ _ (by simp), File.set_self]
  rfl

/-- A snapshot stays stored while nothing below its group changes. -/
theorem SnapshotStored.congr {other : File} {name : String} {snapshot : AllocationSnapshot}
    (hstored : SnapshotStored machine file name snapshot)
    (hsame : ∀ path, [name] <+: path → other path = file path) :
    SnapshotStored machine other name snapshot where
  group := by rw [hsame [name] (List.prefix_refl _), hstored.group]
  links := by rw [File.links?, File.group?, hsame [name, "views"] ⟨["views"], rfl⟩, ← File.group?, ← File.links?,
    hstored.links]
  entries := hstored.entries.imp fun child allocation hentry => hentry.congr fun path hpath =>
    hsame path (List.IsPrefix.trans ⟨["views", child], rfl⟩ hpath)

end krepe
