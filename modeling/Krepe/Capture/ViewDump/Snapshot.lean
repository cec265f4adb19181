import Krepe.Capture.ViewDump.Group

open std hdf5

namespace krepe

variable (machine : CaptureMachine)

/-- The attributes which the group of an allocation has after a whole write, but for the skip
    reason. -/
def allocation_attributes (allocation : ActiveAllocation) (skip_reason : String) :
    List (String × AttrValue) :=
  [("label", string_data allocation.record.label), ("space", string_data allocation.record.space),
    ("ptr", string_data (pointer_to_string allocation.ptr)),
    ("p_data", string_data (pointer_to_string allocation.record.p_data)),
    ("size", .uint64 allocation.record.size), ("reported_size", .uint64 allocation.record.reported_size),
    ("bytes_dumped", .int (if skip_reason = "" then 1 else 0))]

/-- The calls for the attributes of an allocation add them all, in their order. -/
theorem exec_write_allocation_attributes (group : Path) (allocation : ActiveAllocation)
    (skip_reason : String) (rest : List Call) (file : File) :
    exec (write_allocation_attributes group allocation skip_reason ++ rest) file =
      (file.add_attrs group (allocation_attributes allocation skip_reason)).bind (exec rest) := by
  simp only [write_allocation_attributes, List.append_assoc, exec_write_string_attribute,
    exec_write_uint64_attribute, exec_write_int_attribute, allocation_attributes, File.add_attrs,
    Option.bind_assoc, Option.bind_some]

/-- The bytes or the reason why there are none are written to a group which has
    neither. -/
theorem write_allocation_bytes_success {group : Path} {file : File} {node : Group}
    (hgroup : file group = some (.group node)) (hattr : node.attrs.lookup "skip_reason" = none)
    (hlink : "bytes" ∉ node.links) (skip_reason : String) (bytes : List UInt8) :
    ∃ final, exec (write_allocation_bytes group skip_reason bytes) file = some final := by
  unfold write_allocation_bytes
  split
  · have hnew : ∀ attr ∈ [("skip_reason", string_data skip_reason)],
        attr.1 ≠ "" ∧ node.attrs.lookup attr.1 = none := by
      intro attr hattrs
      rw [List.mem_singleton.mp hattrs]
      exact ⟨by simp, hattr⟩
    obtain ⟨next, hnext, _⟩ := File.add_attrs_of_new hgroup hnew (by simp)
    simp only [File.add_attrs, Option.bind_fun_some] at hnext
    refine ⟨next, ?_⟩
    rw [← List.append_nil (write_string_attribute _ _ _), exec_write_string_attribute]
    simp only [hnext, Option.bind_some, exec_nil]
  · obtain ⟨next, hnext, _⟩ := File.link_of_free hgroup (by simp) hlink
      (.dataset (stored_dataset (.uchar bytes)))
    refine ⟨next, ?_⟩
    rw [← List.append_nil (write_dataset _ _ _), exec_write_dataset]
    simp only [hnext, Option.bind_some, exec_nil]

/-- The group of an allocation is written where its name is free. -/
theorem write_allocation_group_success {views_group : Path} {allocation : ActiveAllocation}
    {index : Nat} {file : File} {links : List String} (hviews : file.links? views_group = some links)
    (hfree : view_name allocation index ∉ links) :
    ∃ final, exec (write_allocation_group machine views_group allocation index) file = some final := by
  obtain ⟨node, hnode, rfl⟩ := Option.map_eq_some_iff.mp hviews
  obtain ⟨created, hcreated, hgroup⟩ := File.link_of_free (File.group?_eq_some.mp hnode)
    (view_name_ne_empty allocation index) hfree (.group Group.empty)
  have hnew : ∀ attr ∈ allocation_attributes allocation (copy_allocation_bytes machine allocation).1,
      attr.1 ≠ "" ∧ Group.empty.attrs.lookup attr.1 = none := by
    simp [allocation_attributes, Group.empty]
  obtain ⟨added, hadded, hattrs⟩ := File.add_attrs_of_new hgroup hnew (by simp [allocation_attributes])
  obtain ⟨final, hfinal⟩ := write_allocation_bytes_success hattrs
    (by simp [allocation_attributes, Group.empty, List.lookup_cons]) (by simp [Group.empty])
    (copy_allocation_bytes machine allocation).1 (copy_allocation_bytes machine allocation).2
  refine ⟨final, ?_⟩
  rw [write_allocation_group, exec_cons]
  simp only [Call.apply]
  rw [hcreated, Option.bind_some, List.append_assoc, exec_write_allocation_attributes, hadded,
    Option.bind_some]
  exact exec_append_eq_some.mpr ⟨final, hfinal, rfl⟩

/-- The names of the groups which are written from an index on. -/
def view_names (allocations : List ActiveAllocation) (index : Nat) : List String :=
  match allocations with
  | [] => []
  | allocation :: rest => view_name allocation index :: view_names rest (index + 1)

/-- The groups of a list of allocations are numbered through. -/
theorem write_allocation_groups_append (views_group : Path) (first second : List ActiveAllocation)
    (index : Nat) :
    write_allocation_groups machine views_group (first ++ second) index =
      write_allocation_groups machine views_group first index ++
        write_allocation_groups machine views_group second (index + first.length) := by
  induction first generalizing index with
  | nil => rfl
  | cons allocation rest ih =>
    rw [List.cons_append, write_allocation_groups, write_allocation_groups, ih, List.append_assoc,
      List.length_cons, Nat.add_right_comm, Nat.add_assoc]

/-- The groups of allocations change nothing outside of the group they are in. -/
theorem below_write_allocation_groups (views_group : Path) (allocations : List ActiveAllocation)
    (index : Nat) : Below views_group (write_allocation_groups machine views_group allocations index) := by
  induction allocations generalizing index with
  | nil => exact below_nil _
  | cons allocation rest ih =>
    exact ((below_write_allocation_group machine views_group allocation index).mono
      (List.prefix_append _ _)).append (ih (index + 1))

/-- Of the calls for some groups, only the one which makes a group is relevant for
    the links of their common group. -/
theorem filter_links_write_allocation_groups (views_group : Path) (allocations : List ActiveAllocation)
    (index : Nat) :
    (write_allocation_groups machine views_group allocations index).filter (links_relevant views_group) =
      (view_names allocations index).map (Call.H5Gcreate2 views_group) := by
  induction allocations generalizing index with
  | nil => rfl
  | cons allocation rest ih =>
    rw [write_allocation_groups, List.filter_append, filter_links_write_allocation_group, ih, view_names,
      List.map_cons, List.singleton_append]

/-- Created groups are linked in their order, behind what was linked before. -/
theorem foldl_links_effect (path : Path) (names links : List String) :
    (names.map (Call.H5Gcreate2 path)).foldl (links_effect path) (some links) = some (links ++ names) := by
  induction names generalizing links with
  | nil => simp
  | cons name rest ih =>
    rw [List.map_cons, List.foldl_cons, links_effect, if_pos rfl, Option.map_some, ih]
    simp

/-- The groups of allocations can be written wherever their names are free. -/
theorem write_allocation_groups_success {views_group : Path} {allocations : List ActiveAllocation}
    {index : Nat} {file : File} {links : List String} (hviews : file.links? views_group = some links)
    (hfree : ∀ allocation i, index ≤ i → view_name allocation i ∉ links) :
    ∃ final, exec (write_allocation_groups machine views_group allocations index) file = some final := by
  induction allocations generalizing index file links with
  | nil => exact ⟨file, rfl⟩
  | cons allocation rest ih =>
    obtain ⟨next, hnext⟩ := write_allocation_group_success machine hviews
      (hfree allocation index (Nat.le_refl _))
    have hlinks : next.links? views_group = some (links ++ [view_name allocation index]) := by
      have hobserved := (links_observation views_group).of_exec hnext
      simp only [links_observation] at hobserved
      rw [hobserved, filter_links_write_allocation_group, hviews]
      exact foldl_links_effect views_group [view_name allocation index] links
    have hrest : ∀ other i, index + 1 ≤ i → view_name other i ∉ links ++ [view_name allocation index] := by
      intro other i hi hmem
      rcases List.mem_append.mp hmem with hold | hlast
      · exact hfree other i (by omega) hold
      · have := view_name_index (List.mem_singleton.mp hlast)
        omega
    obtain ⟨final, hfinal⟩ := ih hlinks hrest
    exact ⟨final, exec_append_eq_some.mpr ⟨next, hnext, hfinal⟩⟩

/-- A snapshot changes nothing outside of its group. -/
theorem below_write_snapshot (name : String) (snapshot : AllocationSnapshot) :
    Below [name] (write_snapshot machine name snapshot) := by
  refine Below.cons ⟨by simp, by simp [Call.target]⟩ ((Below.append ?_ ?_).append (Below.cons ?_ ?_))
  · exact below_write_uint64_attribute _ _ _
  · exact below_write_uint64_attribute _ _ _
  · simp [Call.target]
  · exact ((below_write_allocation_groups machine _ _ _).mono ⟨["views"], rfl⟩).append
      ((below_handle _ _).append (below_handle _ _))

/-- A snapshot is written where its name is free. -/
theorem write_snapshot_success {name : String} {snapshot : AllocationSnapshot} {file : File}
    {links : List String} (hroot : file.links? [] = some links) (hname : name ≠ "") (hfree : name ∉ links) :
    ∃ final, exec (write_snapshot machine name snapshot) file = some final := by
  obtain ⟨root, hgroup, rfl⟩ := Option.map_eq_some_iff.mp hroot
  obtain ⟨created, hcreated, hempty⟩ := File.link_of_free (File.group?_eq_some.mp hgroup) hname hfree
    (.group Group.empty)
  have hnew : ∀ attr ∈ [("active_allocations", AttrValue.uint64 (UInt64.ofNat snapshot.allocations.length)),
      ("active_bytes", AttrValue.uint64 snapshot.active_bytes)],
      attr.1 ≠ "" ∧ Group.empty.attrs.lookup attr.1 = none := by simp [Group.empty]
  obtain ⟨added, hadded, hattrs⟩ := File.add_attrs_of_new hempty hnew (by simp)
  have hviewsName : "views" ≠ "" := by simp
  obtain ⟨views, hviews, hviewsGroup⟩ := File.link_of_free hattrs hviewsName (by simp [Group.empty])
    (.group Group.empty)
  have hviewsFree : ∀ allocation i, 0 ≤ i → view_name allocation i ∉ Group.empty.links := by
    simp [Group.empty]
  obtain ⟨final, hfinal⟩ : ∃ final,
      exec (write_allocation_groups machine [name, "views"] snapshot.allocations 0) views = some final :=
    write_allocation_groups_success machine (File.links?_of_group hviewsGroup) hviewsFree
  simp only [File.add_attrs, Option.bind_fun_some, List.nil_append] at hadded hviews hfinal
  refine ⟨final, ?_⟩
  rw [write_snapshot, exec_cons]
  simp only [Call.apply, hcreated, Option.bind_some, List.append_assoc, exec_write_uint64_attribute]
  rw [← Option.bind_assoc, hadded, Option.bind_some, exec_cons]
  simp only [Call.apply, hviews, Option.bind_some]
  exact exec_append_eq_some.mpr ⟨final, hfinal, rfl⟩

end krepe
