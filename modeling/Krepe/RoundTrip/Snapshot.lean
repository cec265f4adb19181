import Krepe.Capture.ViewDump.Prefix
import Krepe.Replay.Load.Output

open std hdf5

namespace krepe

open impl

section

variable (machine : CaptureMachine)

/-- What the replayer reads of the group of an allocation. -/
def stored_entry (allocation : ActiveAllocation) : Entry where
  label := allocation.record.label
  space := allocation.record.space
  address := allocation.record.p_data.toNat
  bytes :=
    if Dumped machine allocation then some (copy_allocation_bytes machine allocation).2 else none

/-- What it reads of the dataset after some of the calls. -/
def bytes_of_done (group : Path) (allocation : ActiveAllocation) (done : List hdf5.Call) :
    Option (List UInt8) :=
  let bytes := (copy_allocation_bytes machine allocation).2
  if .H5Dcreate2 group "bytes" .uchar [bytes.length] ∈ done then
    if .H5Dwrite group "bytes" (.uchar bytes) ∈ done then some bytes
    else some (List.replicate bytes.length 0)
  else none

/-- What the replayer reads of an allocation after the calls which were done. -/
def entry_of_done (group : Path) (allocation : ActiveAllocation) (done : List hdf5.Call) : Entry :=
  { stored_entry machine allocation with bytes := bytes_of_done machine group allocation done }

/-- What it reads of the group of an output after some of the calls. -/
def output_of_done (group : Path) (allocation : ActiveAllocation) (done : List hdf5.Call) : Output :=
  if .H5Acreate2 group "bytes_dumped" .int ∉ done then .missing
  else if .H5Awrite group "bytes_dumped" (.int 1) ∉ done then .skipped
  else .dumped (entry_of_done machine group allocation done)

/-- What the replayer finds for an allocation when it looks for outputs in a whole dump. -/
def stored_output (allocation : ActiveAllocation) : Output :=
  if Dumped machine allocation then .dumped (stored_entry machine allocation) else .skipped

end

theorem stored_entry_bytes {machine : CaptureMachine} {allocation : ActiveAllocation}
    (hdumped : Dumped machine allocation) :
    (stored_entry machine allocation).bytes =
      some (memory_bytes machine.byte allocation.record.p_data allocation.record.size) := by
  rw [stored_entry, if_pos hdumped, hdumped.bytes]

/-- The path of the group of an allocation with its position. -/
def position_path (name : String) (position : ActiveAllocation × Nat) : Path :=
  view_path name position.1 position.2

/-- The positions of the groups of a snapshot which were made. -/
def begun_positions (name : String) (allocations : List ActiveAllocation) (done : List hdf5.Call) :
    List (ActiveAllocation × Nat) :=
  allocations.zipIdx.filter fun position =>
    .H5Gcreate2 [name, "views"] (view_name position.1 position.2) ∈ done

theorem mem_begun_positions {name : String} {allocations : List ActiveAllocation} {done : List hdf5.Call}
    {position : ActiveAllocation × Nat} :
    position ∈ begun_positions name allocations done ↔ position ∈ allocations.zipIdx ∧
      .H5Gcreate2 [name, "views"] (view_name position.1 position.2) ∈ done := by
  rw [begun_positions, List.mem_filter, decide_eq_true_iff]

theorem split_of_mem_zipIdx {allocations : List ActiveAllocation} {position : ActiveAllocation × Nat}
    (hmem : position ∈ allocations.zipIdx) :
    ∃ before after, allocations = before ++ position.1 :: after ∧ before.length = position.2 := by
  obtain ⟨hlt, hget⟩ := List.getElem?_eq_some_iff.mp (List.mem_zipIdx_iff_getElem?.mp hmem)
  refine ⟨allocations.take position.2, allocations.drop (position.2 + 1), ?_, ?_⟩
  · rw [← hget, List.getElem_cons_drop, List.take_append_drop]
  · rw [List.length_take]
    omega

theorem view_names_eq (allocations : List ActiveAllocation) (index : Nat) :
    view_names allocations index =
      (allocations.zipIdx index).map fun position => view_name position.1 position.2 := by
  induction allocations generalizing index with
  | nil => rfl
  | cons allocation rest ih =>
    rw [view_names, ih, List.zipIdx_cons, List.map_cons]

/-- The names of some groups are visited like their positions in some order. -/
theorem iteration_order_positions (machine : ReplayMachine) (positions : List (ActiveAllocation × Nat)) :
    ∃ order : List (ActiveAllocation × Nat), order.Perm positions ∧
      machine.iteration_order (positions.map fun position => view_name position.1 position.2) =
        order.map fun position => view_name position.1 position.2 := by
  have hperm := machine.iteration_order_perm
    (positions.map fun position => view_name position.1 position.2)
  have hsame : List.Forall₂ (fun name position => name = view_name position.1 position.2)
      (positions.map fun position => view_name position.1 position.2) positions := by
    rw [List.forall₂_map_left_iff]
    exact List.forall₂_same.mpr fun _ _ => rfl
  obtain ⟨order, hnames, horder⟩ := List.perm_comp_forall₂ hperm hsame
  exact ⟨order, horder, List.forall₂_eq_eq_eq ▸ List.forall₂_map_right_iff.mpr hnames⟩

section

variable {machine : CaptureMachine} {name : String} {snapshot : AllocationSnapshot} {done : List hdf5.Call}
  {file final : File} {position : ActiveAllocation × Nat}

/-- An allocation whose flag was created has each of its texts before the flag as a whole. -/
theorem string_attribute_of_done (hposition : position ∈ snapshot.allocations.zipIdx)
    (hdone : done <+: write_snapshot machine name snapshot) (hexec : exec done file = some final)
    (hnew : ∀ path, [name] <+: path → file path = none)
    (hflag : .H5Acreate2 (position_path name position) "bytes_dumped" .int ∈ done) {attr text : String}
    (hattr : (attr, .string (if text.isEmpty then 1 else text.length + 1), string_data text) ∈
      read_attributes machine position.1) (hne : attr ≠ "bytes_dumped") :
    get_hdf5_string_attribute final (position_path name position) attr = .ok text := by
  obtain ⟨before, after, hallocations, hlength⟩ := split_of_mem_zipIdx hposition
  have hpath : position_path name position = view_path name position.1 before.length := by
    rw [position_path, hlength]
  rw [hpath] at hflag ⊢
  refine get_hdf5_string_attribute_of_attr? ?_
  rw [attr?_of_done hallocations hdone hexec hnew hattr,
    if_pos (written_of_flag hallocations hdone hflag hattr hne), string_data]

/-- The bytes are there if their dataset was created. -/
theorem dataset_of_done (hposition : position ∈ snapshot.allocations.zipIdx)
    (hdone : done <+: write_snapshot machine name snapshot) (hexec : exec done file = some final)
    (hnew : ∀ path, [name] <+: path → file path = none) :
    final.dataset? (position_path name position ++ ["bytes"]) =
      if .H5Dcreate2 (position_path name position) "bytes" .uchar
          [(copy_allocation_bytes machine position.1).2.length] ∈ done then
        some ⟨.uchar, [(copy_allocation_bytes machine position.1).2.length],
          if .H5Dwrite (position_path name position) "bytes"
              (.uchar (copy_allocation_bytes machine position.1).2) ∈ done then
            some (.uchar (copy_allocation_bytes machine position.1).2)
          else none⟩
      else none := by
  obtain ⟨before, after, hallocations, hlength⟩ := split_of_mem_zipIdx hposition
  rw [position_path, ← hlength]
  exact dataset?_of_done hallocations hdone hexec hnew

/-- With an attribute for the flag, the rest of an entry can be read. -/
theorem reads_of_done (hposition : position ∈ snapshot.allocations.zipIdx)
    (hdone : done <+: write_snapshot machine name snapshot) (hexec : exec done file = some final)
    (hnew : ∀ path, [name] <+: path → file path = none)
    (hflag : .H5Acreate2 (position_path name position) "bytes_dumped" .int ∈ done) :
    Reads final (position_path name position)
      (entry_of_done machine (position_path name position) position.1 done) := by
  have hstring : ∀ {attr text : String},
      (attr, .string (if text.isEmpty then 1 else text.length + 1), string_data text) ∈
        read_attributes machine position.1 → attr ≠ "bytes_dumped" →
      get_hdf5_string_attribute final (position_path name position) attr = .ok text := fun hattr hne =>
    string_attribute_of_done hposition hdone hexec hnew hflag hattr hne
  have hdataset := dataset_of_done hposition hdone hexec hnew
  refine ⟨hstring (by simp [read_attributes, entry_of_done, stored_entry]) (by simp),
    hstring (by simp [read_attributes, entry_of_done, stored_entry]) (by simp),
    ⟨pointer_to_string position.1.record.p_data, hstring (by simp [read_attributes]) (by simp),
      stoull_hex_ostream_pointer _⟩, fun hnone => ?_, fun bytes hbytes => ?_⟩
  · simp only [entry_of_done, bytes_of_done] at hnone
    rw [hdataset]
    split at hnone
    · split at hnone <;> cases hnone
    · next hcreate => exact if_neg hcreate
  · simp only [entry_of_done, bytes_of_done] at hbytes
    rw [hdataset]
    split at hbytes
    · next hcreate =>
      rw [if_pos hcreate]
      split at hbytes
      · cases hbytes
        exact ⟨_, rfl, by simp [Dataset.read_uchar, *]⟩
      · cases hbytes
        exact ⟨_, by rw [List.length_replicate], by simp [Dataset.read_uchar, extent, *]⟩
    · cases hbytes

/-- Once the flag is written as set, the allocation is a dumped one. -/
theorem dumped_of_flag (hposition : position ∈ snapshot.allocations.zipIdx)
    (hdone : done <+: write_snapshot machine name snapshot)
    (hwrite : .H5Awrite (position_path name position) "bytes_dumped" (.int 1) ∈ done) :
    Dumped machine position.1 := by
  obtain ⟨before, after, hallocations, hlength⟩ := split_of_mem_zipIdx hposition
  rw [position_path, ← hlength] at hwrite
  by_contra hskipped
  have hrelevant : read_relevant (view_path name position.1 before.length)
      (.H5Awrite (view_path name position.1 before.length) "bytes_dumped" (.int 1)) = true := by
    simp [read_relevant, attr_relevant]
  have hmem := (read_calls_of_done hallocations hdone).subset ((mem_filter_iff hrelevant done).mpr hwrite)
  simp [read_calls, read_attributes, value_calls, bytes_calls, hskipped] at hmem

/-- The group of an output says what its calls so far made it say. -/
theorem reads_output_of_done (hposition : position ∈ snapshot.allocations.zipIdx)
    (hdone : done <+: write_snapshot machine name snapshot) (hexec : exec done file = some final)
    (hnew : ∀ path, [name] <+: path → file path = none) :
    ReadsOutput final (position_path name position)
      (output_of_done machine (position_path name position) position.1 done) := by
  have hflag : final.attr? (position_path name position) "bytes_dumped" =
      if .H5Awrite (position_path name position) "bytes_dumped"
          (.int (if Dumped machine position.1 then 1 else 0)) ∈ done then
        some (.int (if Dumped machine position.1 then 1 else 0))
      else if .H5Acreate2 (position_path name position) "bytes_dumped" .int ∈ done then some (.int 0)
      else none := by
    obtain ⟨before, after, hallocations, hlength⟩ := split_of_mem_zipIdx hposition
    rw [position_path, ← hlength]
    exact attr?_of_done hallocations hdone hexec hnew (by simp [read_attributes])
  unfold output_of_done
  by_cases hcreate : .H5Acreate2 (position_path name position) "bytes_dumped" .int ∈ done
  · by_cases hwrite : .H5Awrite (position_path name position) "bytes_dumped" (.int 1) ∈ done
    · have hdumped := dumped_of_flag hposition hdone hwrite
      rw [if_neg (not_not.mpr hcreate), if_neg (not_not.mpr hwrite)]
      refine ⟨⟨1, by simp, get_hdf5_int_attribute_of_attr? ?_⟩,
        reads_of_done hposition hdone hexec hnew hcreate⟩
      simpa only [hdumped, if_true, hwrite] using hflag
    · rw [if_neg (not_not.mpr hcreate), if_pos hwrite]
      refine get_hdf5_int_attribute_of_attr? ?_
      by_cases hdumped : Dumped machine position.1
      · simpa only [hdumped, if_true, hwrite, if_false, hcreate] using hflag
      · simpa only [hdumped, if_false, hcreate, if_true, ite_self] using hflag
  · have hnone : final.attr? (position_path name position) "bytes_dumped" = none := by
      obtain ⟨before, after, hallocations, hlength⟩ := split_of_mem_zipIdx hposition
      rw [hflag, if_neg hcreate, if_neg]
      rw [position_path, ← hlength] at hcreate ⊢
      exact fun hwrite => hcreate (created_of_flag hallocations hdone hwrite)
    rw [if_pos hcreate]
    change get_hdf5_int_attribute final _ "bytes_dumped" = _
    rw [get_hdf5_int_attribute, hnone]
    rfl

/-- An order in which the groups are visited which were made so far. -/
structure VisitsBegun (replay : ReplayMachine) (name : String) (allocations : List ActiveAllocation)
    (done : List hdf5.Call) (order : List (ActiveAllocation × Nat)) : Prop where
  names : replay.iteration_order ((begun_positions name allocations done).map fun position =>
    view_name position.1 position.2) = order.map fun position => view_name position.1 position.2
  perm : order.Perm (begun_positions name allocations done)

theorem VisitsBegun.mem {replay : ReplayMachine} {allocations : List ActiveAllocation}
    {order : List (ActiveAllocation × Nat)} (horder : VisitsBegun replay name allocations done order) :
    position ∈ order ↔ position ∈ allocations.zipIdx ∧
      .H5Gcreate2 [name, "views"] (view_name position.1 position.2) ∈ done :=
  horder.perm.mem_iff.trans mem_begun_positions

/-- The name of a group tells its allocation. -/
theorem position_of_name {allocations : List ActiveAllocation} {other : ActiveAllocation × Nat}
    (hposition : position ∈ allocations.zipIdx) (hother : other ∈ allocations.zipIdx)
    (hname : view_name position.1 position.2 = view_name other.1 other.2) : position = other := by
  have hindex := view_name_index hname
  have hget := List.mem_zipIdx_iff_getElem?.mp hposition
  have hgetOther := List.mem_zipIdx_iff_getElem?.mp hother
  rw [hindex, hgetOther, Option.some.injEq] at hget
  exact Prod.ext hget.symm hindex

theorem nodup_zipIdx (allocations : List ActiveAllocation) : allocations.zipIdx.Nodup :=
  List.Nodup.of_map Prod.snd (by rw [List.zipIdx_map_snd]; exact List.nodup_range')

/-- What is kept of a list is the front of it, if that is what is kept. -/
theorem filter_eq_take {A : Type} {all : List A} {keep : A → Bool} {count : Nat} (hnodup : all.Nodup)
    (hkeep : ∀ value ∈ all, keep value = true ↔ value ∈ all.take count) : all.filter keep = all.take count := by
  have hparts : (all.take count ++ all.drop count).Nodup := (List.take_append_drop count all).symm ▸ hnodup
  have hfront : (all.take count ++ all.drop count).filter keep = all.take count := by
    rw [List.filter_append, List.filter_eq_self.mpr, List.filter_eq_nil_iff.mpr, List.append_nil]
    · intro value hdropped hkept
      exact List.disjoint_of_nodup_append hparts ((hkeep value (List.mem_of_mem_drop hdropped)).mp hkept) hdropped
    · exact fun value htaken => (hkeep value (List.mem_of_mem_take htaken)).mpr htaken
  rwa [List.take_append_drop] at hfront

/-- The groups which were made so far are the links of the group around them. -/
theorem links_of_done (hdone : done <+: write_snapshot machine name snapshot)
    (hexec : exec done file = some final) (hnew : ∀ path, [name] <+: path → file path = none)
    (hviews : .H5Gcreate2 [name] "views" ∈ done) :
    ∃ node : Group, final [name, "views"] = some (.group node) ∧
      node.links = (begun_positions name snapshot.allocations done).map fun position =>
        view_name position.1 position.2 := by
  obtain ⟨created, hcreated, hchildren, hlinks⟩ := links?_of_done hdone hexec hnew
  rw [if_pos hviews] at hlinks
  obtain ⟨node, hnode, rfl⟩ := Option.map_eq_some_iff.mp hlinks
  rw [view_names_eq] at hcreated
  obtain ⟨count, hcount⟩ : ∃ count, node.links =
      (snapshot.allocations.zipIdx.take count).map fun position => view_name position.1 position.2 :=
    ⟨node.links.length, by rw [List.map_take]; exact List.prefix_iff_eq_take.mp hcreated⟩
  refine ⟨node, File.group?_eq_some.mp hnode, ?_⟩
  have hmade : ∀ position ∈ snapshot.allocations.zipIdx,
      (.H5Gcreate2 [name, "views"] (view_name position.1 position.2) ∈ done ↔
        position ∈ snapshot.allocations.zipIdx.take count) := by
    intro position hposition
    rw [hchildren, hcount]
    constructor
    · intro hname
      obtain ⟨other, hother, heq⟩ := List.mem_map.mp hname
      rwa [position_of_name hposition (List.mem_of_mem_take hother) heq.symm]
    · exact fun htaken => List.mem_map_of_mem htaken
  rw [hcount, begun_positions, filter_eq_take (nodup_zipIdx _) fun position hposition => ?_]
  rw [decide_eq_true_iff]
  exact hmade position hposition

/-- The groups of the outputs which were made so far are visited in some order. -/
theorem visits_outputs_of_done (hdone : done <+: write_snapshot machine "out" snapshot)
    (hexec : exec done file = some final) (hnew : ∀ path, ["out"] <+: path → file path = none)
    (hviews : .H5Gcreate2 ["out"] "views" ∈ done) (replay : ReplayMachine) :
    ∃ order, VisitsBegun replay "out" snapshot.allocations done order ∧
      VisitsOutputs replay final (order.map fun position =>
        output_of_done machine (position_path "out" position) position.1 done) := by
  obtain ⟨node, hnode, hlinks⟩ := links_of_done hdone hexec hnew hviews
  obtain ⟨order, hperm, hnames⟩ := iteration_order_positions replay
    (begun_positions "out" snapshot.allocations done)
  refine ⟨order, ⟨hnames, hperm⟩, node, hnode, ?_⟩
  rw [hlinks, hnames, List.forall₂_map_left_iff, List.forall₂_map_right_iff, List.forall₂_same]
  exact fun position hposition =>
    reads_output_of_done (mem_begun_positions.mp (hperm.mem_iff.mp hposition)).1 hdone hexec hnew

/-- The allocations with their positions in the order in which their groups are visited. -/
def visited (replay : ReplayMachine) (allocations : List ActiveAllocation) : List (ActiveAllocation × Nat) :=
  (replay.iteration_order (view_names allocations 0)).filterMap fun name =>
    allocations.zipIdx.find? fun position => view_name position.1 position.2 = name

/-- The allocation of a name is found again. -/
theorem find?_view_name {allocations : List ActiveAllocation}
    (hposition : position ∈ allocations.zipIdx) :
    allocations.zipIdx.find? (fun other => view_name other.1 other.2 = view_name position.1 position.2) =
      some position := by
  cases hfound : allocations.zipIdx.find?
      (fun other => view_name other.1 other.2 = view_name position.1 position.2) with
  | none => simpa using List.find?_eq_none.mp hfound position hposition
  | some other =>
    have hname : view_name other.1 other.2 = view_name position.1 position.2 := by
      simpa using List.find?_some hfound
    exact congrArg some (position_of_name (List.mem_of_find?_eq_some hfound) hposition hname)

theorem visited_of_order {replay : ReplayMachine} {allocations : List ActiveAllocation}
    {order : List (ActiveAllocation × Nat)} (hperm : order.Perm allocations.zipIdx)
    (horder : replay.iteration_order (view_names allocations 0) =
      order.map fun position => view_name position.1 position.2) :
    visited replay allocations = order := by
  rw [visited, horder, List.filterMap_map]
  refine (List.filterMap_congr fun position hposition => ?_).trans List.filterMap_some
  exact find?_view_name (hperm.subset hposition)

/-- The groups of a snapshot are visited in some order, each once. -/
theorem visited_names (replay : ReplayMachine) (allocations : List ActiveAllocation) :
    (visited replay allocations).Perm allocations.zipIdx ∧
      replay.iteration_order (view_names allocations 0) =
        (visited replay allocations).map fun position => view_name position.1 position.2 := by
  obtain ⟨order, hperm, horder⟩ := iteration_order_positions replay allocations.zipIdx
  rw [← view_names_eq] at horder
  rw [visited_of_order hperm horder]
  exact ⟨hperm, horder⟩

theorem mem_visited {replay : ReplayMachine} {allocations : List ActiveAllocation} :
    position ∈ visited replay allocations ↔ position ∈ allocations.zipIdx :=
  (visited_names replay allocations).1.mem_iff

theorem exists_position {allocations : List ActiveAllocation} {allocation : ActiveAllocation}
    (hallocation : allocation ∈ allocations) : ∃ index, (allocation, index) ∈ allocations.zipIdx := by
  obtain ⟨index, hindex, rfl⟩ := List.getElem_of_mem hallocation
  exact ⟨index, List.mem_zipIdx_iff_getElem?.mpr (List.getElem?_eq_getElem hindex)⟩

/-- Each allocation is visited, at one position or more. -/
theorem mem_map_visited {A : Type} {replay : ReplayMachine} {allocations : List ActiveAllocation}
    {f : ActiveAllocation → A} {value : A} :
    value ∈ (visited replay allocations).map (fun position => f position.1) ↔
      ∃ allocation ∈ allocations, f allocation = value := by
  simp only [List.mem_map, mem_visited]
  constructor
  · rintro ⟨position, hposition, rfl⟩
    exact ⟨position.1, List.fst_mem_of_mem_zipIdx hposition, rfl⟩
  · rintro ⟨allocation, hallocation, rfl⟩
    obtain ⟨index, hposition⟩ := exists_position hallocation
    exact ⟨(allocation, index), hposition, rfl⟩

theorem mem_map_fst_visited {replay : ReplayMachine} {allocations : List ActiveAllocation}
    {allocation : ActiveAllocation} :
    allocation ∈ (visited replay allocations).map Prod.fst ↔ allocation ∈ allocations := by
  simpa using @mem_map_visited _ replay allocations id allocation

section

variable (hposition : position ∈ snapshot.allocations.zipIdx)

include hposition

theorem mem_write_snapshot {call : hdf5.Call}
    (hcall : call ∈ write_allocation_group machine [name, "views"] position.1 position.2) :
    call ∈ write_snapshot machine name snapshot := by
  obtain ⟨before, after, hallocations, hlength⟩ := split_of_mem_zipIdx hposition
  exact write_allocation_group_subset hallocations (hlength ▸ hcall)

/-- A whole snapshot has all of its flags, set for what was dumped. -/
theorem flag_of_snapshot :
    .H5Acreate2 (position_path name position) "bytes_dumped" .int ∈ write_snapshot machine name snapshot ∧
      (.H5Awrite (position_path name position) "bytes_dumped" (.int 1) ∈
        write_snapshot machine name snapshot ↔ Dumped machine position.1) := by
  refine ⟨mem_write_snapshot hposition ?_, fun hwrite => ?_, fun hdumped => mem_write_snapshot hposition ?_⟩
  · simp [write_allocation_group, write_allocation_attributes, write_int_attribute, position_path, view_path]
  · exact dumped_of_flag hposition (List.prefix_refl _) hwrite
  · have hreason : (copy_allocation_bytes machine position.1).1 = "" := hdumped
    simp [write_allocation_group, write_allocation_attributes, write_int_attribute, position_path, view_path,
      hreason]

/-- The bytes of a dumped allocation are written by the calls of its snapshot. -/
theorem written_of_snapshot (hdumped : Dumped machine position.1) :
    let bytes := (copy_allocation_bytes machine position.1).2
    .H5Dcreate2 (position_path name position) "bytes" .uchar [bytes.length] ∈ write_snapshot machine name snapshot ∧
      (bytes = [] ∨ .H5Dwrite (position_path name position) "bytes" (.uchar bytes) ∈
        write_snapshot machine name snapshot) := by
  intro bytes
  have hreason : (copy_allocation_bytes machine position.1).1 = "" := hdumped
  refine ⟨mem_write_snapshot hposition ?_, or_iff_not_imp_left.mpr fun hne => mem_write_snapshot hposition ?_⟩
  · simp [write_allocation_group, write_allocation_bytes, hreason, write_dataset, elements_size,
      Hdf5Datatype, position_path, view_path, bytes]
  · have hlength : bytes.length ≠ 0 := by simpa using hne
    simp [write_allocation_group, write_allocation_bytes, hreason, write_dataset, elements_size,
      position_path, view_path, bytes, hlength]

/-- A whole snapshot has the bytes of what was dumped. -/
theorem bytes_of_snapshot :
    bytes_of_done machine (position_path name position) position.1 (write_snapshot machine name snapshot) =
      if Dumped machine position.1 then some (copy_allocation_bytes machine position.1).2 else none := by
  unfold bytes_of_done
  by_cases hdumped : Dumped machine position.1
  · obtain ⟨hcreate, hwrite⟩ := @written_of_snapshot machine name snapshot position hposition hdumped
    rw [if_pos hdumped, if_pos hcreate]
    rcases hwrite with hempty | hwrite
    · simp [hempty]
    · exact if_pos hwrite
  · rw [if_neg hdumped, if_neg]
    obtain ⟨before, after, hallocations, hlength⟩ := split_of_mem_zipIdx hposition
    rw [position_path, ← hlength]
    exact fun hcreate => hdumped (flag_of_bytes hallocations (List.prefix_refl _) hcreate).1

/-- With all the calls, an entry says what was stored. -/
theorem entry_of_snapshot :
    entry_of_done machine (position_path name position) position.1 (write_snapshot machine name snapshot) =
      stored_entry machine position.1 := by
  rw [entry_of_done, bytes_of_snapshot hposition, stored_entry]

/-- A whole snapshot is read as its outputs were stored. -/
theorem output_of_snapshot :
    output_of_done machine (position_path name position) position.1 (write_snapshot machine name snapshot) =
      stored_output machine position.1 := by
  obtain ⟨hcreate, hwrite⟩ := @flag_of_snapshot machine name snapshot position hposition
  rw [output_of_done, if_neg (not_not.mpr hcreate), entry_of_snapshot hposition, stored_output]
  by_cases hdumped : Dumped machine position.1
  · rw [if_neg (not_not.mpr (hwrite.mpr hdumped)), if_pos hdumped]
  · rw [if_pos (mt hwrite.mp hdumped), if_neg hdumped]

end

/-- The group of an allocation in a stored snapshot. -/
theorem reads_of_snapshot (hposition : position ∈ snapshot.allocations.zipIdx)
    (hexec : exec (write_snapshot machine name snapshot) file = some final)
    (hnew : ∀ path, [name] <+: path → file path = none) :
    Reads final (position_path name position) (stored_entry machine position.1) := by
  rw [← entry_of_snapshot hposition]
  exact reads_of_done hposition (List.prefix_refl _) hexec hnew (flag_of_snapshot hposition).1

/-- The groups of a stored snapshot of inputs are visited with their entries. -/
theorem visits_of_snapshot (hexec : exec (write_snapshot machine "in" snapshot) file = some final)
    (hnew : ∀ path, ["in"] <+: path → file path = none) (replay : ReplayMachine) :
    Visits replay final ScopeGuard.in_views
      ((visited replay snapshot.allocations).map fun position => stored_entry machine position.1) := by
  obtain ⟨node, hnode, hlinks⟩ := Option.map_eq_some_iff.mp (links?_of_snapshot hexec)
  refine ⟨node, File.group?_eq_some.mp hnode, ?_⟩
  rw [hlinks, (visited_names replay _).2, List.forall₂_map_left_iff, List.forall₂_map_right_iff,
    List.forall₂_same]
  exact fun position hposition => reads_of_snapshot (mem_visited.mp hposition) hexec hnew

theorem visits_outputs_of_snapshot
    (hexec : exec (write_snapshot machine "out" snapshot) file = some final)
    (hnew : ∀ path, ["out"] <+: path → file path = none) (replay : ReplayMachine) :
    VisitsOutputs replay final
      ((visited replay snapshot.allocations).map fun position => stored_output machine position.1) := by
  obtain ⟨node, hnode, hlinks⟩ := Option.map_eq_some_iff.mp (links?_of_snapshot hexec)
  refine ⟨node, File.group?_eq_some.mp hnode, ?_⟩
  rw [hlinks, (visited_names replay _).2, List.forall₂_map_left_iff, List.forall₂_map_right_iff,
    List.forall₂_same]
  intro position hposition
  rw [mem_visited] at hposition
  rw [← output_of_snapshot hposition]
  exact reads_output_of_done hposition (List.prefix_refl _) hexec hnew

end

end krepe
