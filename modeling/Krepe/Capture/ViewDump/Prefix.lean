import Krepe.Capture.ViewDump.Snapshot

open std hdf5

namespace krepe

variable (machine : CaptureMachine)

/-- The group of an allocation in a snapshot. -/
def view_path (name : String) (allocation : ActiveAllocation) (index : Nat) : Path :=
  [name, "views", view_name allocation index]

/-- The groups of other allocations are elsewhere. -/
theorem filter_write_allocation_groups {name : String} {allocation : ActiveAllocation} {index : Nat}
    {relevant : Call → Bool} (hlocal : Local (view_path name allocation index) relevant)
    (allocations : List ActiveAllocation) {first : Nat}
    (hother : ∀ i, first ≤ i → i < first + allocations.length → i ≠ index) :
    (write_allocation_groups machine [name, "views"] allocations first).filter relevant = [] := by
  induction allocations generalizing first with
  | nil => rfl
  | cons other rest ih =>
    have hne : view_name other first ≠ view_name allocation index := fun heq =>
      hother first (Nat.le_refl _) (by simp) (view_name_index heq)
    rw [write_allocation_groups, List.filter_append, ih fun i hle hlt =>
      hother i (by omega) (by rw [List.length_cons]; omega), List.append_nil]
    refine filter_relevant_below hlocal (below_write_allocation_group machine _ other first) ?_ ?_
    · simpa [view_path] using Ne.symm hne
    · simpa [view_path] using hne

/-- What is relevant for the group of an allocation are its own calls. -/
theorem filter_write_snapshot {name : String} {snapshot : AllocationSnapshot}
    {before after : List ActiveAllocation} {allocation : ActiveAllocation}
    (hallocations : snapshot.allocations = before ++ allocation :: after) {relevant : Call → Bool}
    (hlocal : Local (view_path name allocation before.length) relevant) :
    (write_snapshot machine name snapshot).filter relevant =
      (write_allocation_group machine [name, "views"] allocation before.length).filter relevant := by
  have hshort : ∀ call, call ≠ .H5Fcreate → (∀ target ∈ call.target, target.length < 3) →
      relevant call = false := by
    intro call hcreate htarget
    by_contra hrelevant
    rcases hlocal call (by simpa using hrelevant) with heq | ⟨target, hmem, hpath⟩
    · exact hcreate heq
    · have hlength := hpath.length_le
      have := htarget target hmem
      simp only [view_path, List.length_cons, List.length_nil] at hlength
      omega
  have hhandle : ∀ call, relevant (.handle call) = false := fun call =>
    hshort _ (by simp) (by simp [Call.target])
  have hcreate : ∀ attr type, relevant (.H5Acreate2 [name] attr type) = false := fun attr type =>
    hshort _ (by simp) (by simp [Call.target])
  have hwrite : ∀ attr value, relevant (.H5Awrite [name] attr value) = false := fun attr value =>
    hshort _ (by simp) (by simp [Call.target])
  have huint64 : ∀ attr value, (write_uint64_attribute ([name]) attr value).filter relevant = [] := by
    simp [write_uint64_attribute, hhandle, hcreate, hwrite]
  have hcall : ∀ loc child, loc.length < 2 → relevant (.H5Gcreate2 loc child) = false := by
    intro loc child hloc
    exact hshort _ (by simp) (by simp [Call.target]; omega)
  rw [write_snapshot, hallocations, write_allocation_groups_append, write_allocation_groups]
  simp only [List.filter_cons, List.filter_append, hcall [] name (by simp), hcall [name] "views" (by simp),
    huint64, hhandle, Bool.false_eq_true, if_false, List.filter_nil, List.nil_append, List.append_nil,
    Nat.zero_add]
  rw [filter_write_allocation_groups machine hlocal before (by omega),
    filter_write_allocation_groups machine hlocal after (by omega), List.nil_append, List.append_nil]

/-- The calls which are relevant for what is read of the group of an allocation. -/
def read_relevant (group : Path) (call : Call) : Bool :=
  attr_relevant group "label" call || (attr_relevant group "space" call ||
    (attr_relevant group "p_data" call || (attr_relevant group "bytes_dumped" call ||
      dataset_relevant (group ++ ["bytes"]) call)))

theorem read_local (group : Path) : Local group (read_relevant group) :=
  (attr_local group _).or ((attr_local group _).or ((attr_local group _).or ((attr_local group _).or
    ((dataset_local (group ++ ["bytes"])).mono (List.prefix_append _ _)))))

/-- The two calls which create an attribute and give it its value. -/
def value_calls (group : Path) (attr : String × AttrType × AttrValue) : List Call :=
  [.H5Acreate2 group attr.1 attr.2.1, .H5Awrite group attr.1 attr.2.2]

/-- The calls for the group of an allocation which the replayer's reading of it depends on. -/
def read_calls (views_group : Path) (allocation : ActiveAllocation) (index : Nat) : List Call :=
  let group := views_group ++ [view_name allocation index]
  .H5Gcreate2 views_group (view_name allocation index) ::
    ((read_attributes machine allocation).flatMap (value_calls group) ++
      bytes_calls machine group allocation)

theorem filter_read_write_allocation_bytes (group : Path) (allocation : ActiveAllocation) :
    (write_allocation_bytes group (copy_allocation_bytes machine allocation).1
        (copy_allocation_bytes machine allocation).2).filter (read_relevant group) =
      bytes_calls machine group allocation := by
  unfold write_allocation_bytes bytes_calls
  by_cases hdumped : Dumped machine allocation
  · have hreason : (copy_allocation_bytes machine allocation).1 = "" := hdumped
    by_cases hempty : (copy_allocation_bytes machine allocation).2.length = 0 <;>
      simp [hreason, hdumped, write_dataset, elements_size, Hdf5Datatype, hempty, read_relevant,
        attr_relevant, dataset_relevant]
  · have hreason : (copy_allocation_bytes machine allocation).1 ≠ "" := hdumped
    simp [hreason, hdumped, write_string_attribute, read_relevant, attr_relevant, dataset_relevant]

/-- Of the calls for an allocation, the reading of it depends on those of its attributes and its
    bytes. -/
theorem filter_read_write_allocation_group (views_group : Path) (allocation : ActiveAllocation)
    (index : Nat) :
    (write_allocation_group machine views_group allocation index).filter
        (read_relevant (views_group ++ [view_name allocation index])) =
      read_calls machine views_group allocation index := by
  have hgroup : read_relevant (views_group ++ [view_name allocation index])
      (.H5Gcreate2 views_group (view_name allocation index)) = true := by
    simp [read_relevant, attr_relevant]
  have hflag : (if (copy_allocation_bytes machine allocation).1 = "" then (1 : Int32) else 0) =
      if Dumped machine allocation then 1 else 0 := by
    by_cases hdumped : (copy_allocation_bytes machine allocation).1 = "" <;> simp [Dumped, hdumped]
  unfold write_allocation_group read_calls
  simp only [List.filter_cons, hgroup, if_true, List.filter_append, filter_read_write_allocation_bytes]
  simp [write_allocation_attributes, write_string_attribute, write_uint64_attribute, write_int_attribute,
    read_relevant, attr_relevant, dataset_relevant, read_attributes, value_calls, hflag]

section

variable {machine} {name : String} {snapshot : AllocationSnapshot} {before after : List ActiveAllocation}
  {allocation : ActiveAllocation} {done : List Call} {file final : File}

/-- An attribute which is read, after some of the calls of a snapshot. -/
theorem attr?_of_done (hallocations : snapshot.allocations = before ++ allocation :: after)
    (hdone : done <+: write_snapshot machine name snapshot) (hexec : exec done file = some final)
    (hnew : ∀ path, [name] <+: path → file path = none) {attr : String} {type : AttrType}
    {value : AttrValue} (hattr : (attr, type, value) ∈ read_attributes machine allocation) :
    final.attr? (view_path name allocation before.length) attr =
      if .H5Awrite (view_path name allocation before.length) attr value ∈ done then some value
      else if .H5Acreate2 (view_path name allocation before.length) attr type ∈ done then some type.fill
      else none := by
  have hstart : file.attr? (view_path name allocation before.length) attr = none := by
    simp [File.attr?, File.group?, hnew (view_path name allocation before.length) ⟨_, rfl⟩]
  have hobserved := (attr_observation (view_path name allocation before.length) attr).of_exec hexec
  have hordered := hdone.filter (attr_relevant (view_path name allocation before.length) attr)
  rw [filter_write_snapshot machine hallocations (attr_local _ _)] at hordered
  have hcalls : _ = attribute_calls [name, "views"] (view_name allocation before.length) attr type value :=
    filter_attr_write_allocation_group machine [name, "views"] allocation before.length hattr
  have hpath : [name, "views"] ++ [view_name allocation before.length] =
      view_path name allocation before.length := rfl
  rw [hpath] at hcalls
  rw [hcalls, attribute_calls, hpath] at hordered
  have hfiltered : ∀ {call}, attr_relevant (view_path name allocation before.length) attr call = true →
      (call ∈ done.filter (attr_relevant (view_path name allocation before.length) attr) ↔ call ∈ done) :=
    fun hrelevant => mem_filter_iff hrelevant done
  have hwrite := @hfiltered (.H5Awrite (view_path name allocation before.length) attr value)
    (by simp [attr_relevant])
  have hcreate := @hfiltered (.H5Acreate2 (view_path name allocation before.length) attr type)
    (by simp [attr_relevant])
  simp only [attr_observation, hstart] at hobserved
  rw [hobserved]
  simp only [← hwrite, ← hcreate]
  simp only [List.prefix_cons_iff, List.prefix_nil] at hordered
  rcases hordered with heq | ⟨_, heq, rfl | ⟨_, rfl, rfl | ⟨_, rfl, rfl⟩⟩⟩ <;>
    simp [heq, attr_effect]

/-- The calls of a snapshot which are relevant for a group come in their order. -/
theorem read_calls_of_done (hallocations : snapshot.allocations = before ++ allocation :: after)
    (hdone : done <+: write_snapshot machine name snapshot) :
    done.filter (read_relevant (view_path name allocation before.length)) <+:
      read_calls machine [name, "views"] allocation before.length := by
  have hordered := hdone.filter (read_relevant (view_path name allocation before.length))
  rw [filter_write_snapshot machine hallocations (read_local _)] at hordered
  exact filter_read_write_allocation_group machine [name, "views"] allocation before.length ▸ hordered

/-- What is read of a group is made after the group. -/
theorem group_of_read (hallocations : snapshot.allocations = before ++ allocation :: after)
    (hdone : done <+: write_snapshot machine name snapshot) {call : Call}
    (hrelevant : read_relevant (view_path name allocation before.length) call = true) (hcall : call ∈ done) :
    .H5Gcreate2 [name, "views"] (view_name allocation before.length) ∈ done :=
  mem_of_first (read_calls_of_done hallocations hdone) hrelevant hcall

/-- Once there is an attribute for the flag, the attributes before it are written. -/
theorem written_of_flag (hallocations : snapshot.allocations = before ++ allocation :: after)
    (hdone : done <+: write_snapshot machine name snapshot)
    (hflag : .H5Acreate2 (view_path name allocation before.length) "bytes_dumped" .int ∈ done)
    {attr : String} {type : AttrType} {value : AttrValue}
    (hattr : (attr, type, value) ∈ read_attributes machine allocation) (hne : attr ≠ "bytes_dumped") :
    .H5Awrite (view_path name allocation before.length) attr value ∈ done := by
  have hrelevant : read_relevant (view_path name allocation before.length)
      (.H5Acreate2 (view_path name allocation before.length) "bytes_dumped" .int) = true := by
    simp [read_relevant, attr_relevant]
  have hcalls : read_calls machine [name, "views"] allocation before.length =
      (.H5Gcreate2 [name, "views"] (view_name allocation before.length) ::
        ((read_attributes machine allocation).take 3).flatMap
          (value_calls (view_path name allocation before.length))) ++
        .H5Acreate2 (view_path name allocation before.length) "bytes_dumped" .int ::
        (.H5Awrite (view_path name allocation before.length) "bytes_dumped"
          (.int (if Dumped machine allocation then 1 else 0)) ::
        bytes_calls machine (view_path name allocation before.length) allocation) := rfl
  have hbefore := mem_of_before hcalls (read_calls_of_done hallocations hdone)
    (by simp [read_attributes, value_calls]) ((mem_filter_iff hrelevant done).mpr hflag)
  refine (List.mem_filter.mp (hbefore (List.mem_cons_of_mem _ (List.mem_flatMap.mpr
    ⟨(attr, type, value), ?_, by simp [value_calls]⟩)))).1
  simp only [read_attributes, List.mem_cons, List.not_mem_nil, or_false, Prod.mk.injEq, List.take_succ_cons,
    List.take_zero] at hattr ⊢
  tauto

/-- The attribute for the flag is there before it is written. -/
theorem created_of_flag (hallocations : snapshot.allocations = before ++ allocation :: after)
    (hdone : done <+: write_snapshot machine name snapshot)
    (hflag : .H5Awrite (view_path name allocation before.length) "bytes_dumped"
      (.int (if Dumped machine allocation then 1 else 0)) ∈ done) :
    .H5Acreate2 (view_path name allocation before.length) "bytes_dumped" .int ∈ done := by
  have hrelevant : read_relevant (view_path name allocation before.length)
      (.H5Awrite (view_path name allocation before.length) "bytes_dumped"
        (.int (if Dumped machine allocation then 1 else 0))) = true := by
    simp [read_relevant, attr_relevant]
  have hcalls : read_calls machine [name, "views"] allocation before.length =
      (.H5Gcreate2 [name, "views"] (view_name allocation before.length) ::
        (((read_attributes machine allocation).take 3).flatMap
          (value_calls (view_path name allocation before.length)) ++
        [.H5Acreate2 (view_path name allocation before.length) "bytes_dumped" .int])) ++
        .H5Awrite (view_path name allocation before.length) "bytes_dumped"
          (.int (if Dumped machine allocation then 1 else 0)) ::
        bytes_calls machine (view_path name allocation before.length) allocation := rfl
  have hbefore := mem_of_before hcalls (read_calls_of_done hallocations hdone)
    (by simp [read_attributes, value_calls]) ((mem_filter_iff hrelevant done).mpr hflag)
  exact (List.mem_filter.mp (hbefore (List.mem_cons_of_mem _ (List.mem_append_right _
    (List.mem_singleton_self _))))).1

/-- Once there is a dataset for the bytes, the flag is written. -/
theorem flag_of_bytes (hallocations : snapshot.allocations = before ++ allocation :: after)
    (hdone : done <+: write_snapshot machine name snapshot)
    (hbytes : .H5Dcreate2 (view_path name allocation before.length) "bytes" .uchar
      [(copy_allocation_bytes machine allocation).2.length] ∈ done) :
    Dumped machine allocation ∧
      .H5Awrite (view_path name allocation before.length) "bytes_dumped" (.int 1) ∈ done := by
  have hrelevant : read_relevant (view_path name allocation before.length)
      (.H5Dcreate2 (view_path name allocation before.length) "bytes" .uchar
        [(copy_allocation_bytes machine allocation).2.length]) = true := by
    simp [read_relevant, dataset_relevant]
  have hmem := (mem_filter_iff hrelevant done).mpr hbytes
  have hordered := read_calls_of_done hallocations hdone
  have hdumped : Dumped machine allocation := by
    by_contra hskipped
    have := hordered.subset hmem
    simp [read_calls, read_attributes, value_calls, bytes_calls, hskipped] at this
  refine ⟨hdumped, ?_⟩
  have hcalls : read_calls machine [name, "views"] allocation before.length =
      (.H5Gcreate2 [name, "views"] (view_name allocation before.length) ::
        (read_attributes machine allocation).flatMap
          (value_calls (view_path name allocation before.length))) ++
        .H5Dcreate2 (view_path name allocation before.length) "bytes" .uchar
          [(copy_allocation_bytes machine allocation).2.length] ::
        (if (copy_allocation_bytes machine allocation).2.length = 0 then [] else
          [.H5Dwrite (view_path name allocation before.length) "bytes"
            (.uchar (copy_allocation_bytes machine allocation).2)]) := by
    simp only [read_calls, bytes_calls, hdumped, if_true]
    rfl
  have hbefore := mem_of_before hcalls hordered (by simp [read_attributes, value_calls]) hmem
  refine (List.mem_filter.mp (hbefore (List.mem_cons_of_mem _ (List.mem_flatMap.mpr
    ⟨("bytes_dumped", .int, .int 1), ?_, by simp [value_calls]⟩)))).1
  simp [read_attributes, hdumped]

/-- The dataset of the bytes, after some of the calls of a snapshot. -/
theorem dataset?_of_done (hallocations : snapshot.allocations = before ++ allocation :: after)
    (hdone : done <+: write_snapshot machine name snapshot) (hexec : exec done file = some final)
    (hnew : ∀ path, [name] <+: path → file path = none) :
    final.dataset? (view_path name allocation before.length ++ ["bytes"]) =
      if .H5Dcreate2 (view_path name allocation before.length) "bytes" .uchar
          [(copy_allocation_bytes machine allocation).2.length] ∈ done then
        some ⟨.uchar, [(copy_allocation_bytes machine allocation).2.length],
          if .H5Dwrite (view_path name allocation before.length) "bytes"
              (.uchar (copy_allocation_bytes machine allocation).2) ∈ done then
            some (.uchar (copy_allocation_bytes machine allocation).2)
          else none⟩
      else none := by
  have hstart : file.dataset? (view_path name allocation before.length ++ ["bytes"]) = none := by
    simp [File.dataset?, hnew (view_path name allocation before.length ++ ["bytes"]) ⟨_, rfl⟩]
  have hobserved :=
    (dataset_observation (view_path name allocation before.length ++ ["bytes"])).of_exec hexec
  have hordered := hdone.filter (dataset_relevant (view_path name allocation before.length ++ ["bytes"]))
  rw [filter_write_snapshot machine hallocations ((dataset_local _).mono (List.prefix_append _ _))]
    at hordered
  have hcalls : _ = bytes_calls machine (view_path name allocation before.length) allocation :=
    filter_dataset_write_allocation_group machine [name, "views"] allocation before.length
  have hpath : [name, "views"] ++ [view_name allocation before.length] =
      view_path name allocation before.length := rfl
  rw [hpath] at hcalls
  rw [hcalls, bytes_calls] at hordered
  have hfiltered : ∀ {call},
      dataset_relevant (view_path name allocation before.length ++ ["bytes"]) call = true →
      (call ∈ done.filter (dataset_relevant (view_path name allocation before.length ++ ["bytes"])) ↔
        call ∈ done) := fun hrelevant => mem_filter_iff hrelevant done
  have hcreate := @hfiltered (.H5Dcreate2 (view_path name allocation before.length) "bytes" .uchar
    [(copy_allocation_bytes machine allocation).2.length]) (by simp [dataset_relevant])
  have hwrite := @hfiltered (.H5Dwrite (view_path name allocation before.length) "bytes"
    (.uchar (copy_allocation_bytes machine allocation).2)) (by simp [dataset_relevant])
  simp only [dataset_observation, hstart] at hobserved
  rw [hobserved]
  simp only [← hwrite, ← hcreate]
  split at hordered
  · dsimp only at hordered
    split at hordered
    · simp only [List.prefix_cons_iff, List.prefix_nil] at hordered
      rcases hordered with heq | ⟨_, heq, rfl⟩ <;> simp [heq, dataset_effect]
    · simp only [List.prefix_cons_iff, List.prefix_nil] at hordered
      rcases hordered with heq | ⟨_, heq, rfl | ⟨_, rfl, rfl⟩⟩ <;> simp [heq, dataset_effect]
  · rw [List.prefix_nil] at hordered
    simp [hordered]

/-- Of the calls for a snapshot, the names in it depend on the creation of the groups. -/
theorem filter_links_write_snapshot (machine : CaptureMachine) (name : String)
    (snapshot : AllocationSnapshot) :
    (write_snapshot machine name snapshot).filter (links_relevant [name, "views"]) =
      .H5Gcreate2 [name] "views" ::
        (view_names snapshot.allocations 0).map (Call.H5Gcreate2 [name, "views"]) := by
  have hroot : links_relevant [name, "views"] (.H5Gcreate2 [] name) = false := by simp [links_relevant]
  have hviews : links_relevant [name, "views"] (.H5Gcreate2 [name] "views") = true := by
    simp [links_relevant]
  have hclose : links_relevant [name, "views"] (.handle .H5Gclose) = false := rfl
  rw [write_snapshot]
  simp only [List.filter_cons, List.filter_append, hroot, hviews, hclose, Bool.false_eq_true, if_false,
    if_true, (only_write_uint64_attribute _ _ _).filter_links, filter_links_write_allocation_groups,
    List.filter_nil, List.append_nil, List.nil_append]

/-- The groups which were made are linked, in their order. -/
theorem links?_of_done (hdone : done <+: write_snapshot machine name snapshot)
    (hexec : exec done file = some final) (hnew : ∀ path, [name] <+: path → file path = none) :
    ∃ created, created <+: view_names snapshot.allocations 0 ∧
      (∀ child, .H5Gcreate2 [name, "views"] child ∈ done ↔ child ∈ created) ∧
      final.links? [name, "views"] =
        if .H5Gcreate2 [name] "views" ∈ done then some created else none := by
  have hstart : file.links? [name, "views"] = none := by
    simp [File.links?, File.group?, hnew [name, "views"] ⟨_, rfl⟩]
  have hobserved := (links_observation [name, "views"]).of_exec hexec
  have hordered := hdone.filter (links_relevant [name, "views"])
  rw [filter_links_write_snapshot] at hordered
  have hviewsRelevant : links_relevant [name, "views"] (.H5Gcreate2 [name] "views") = true := by
    simp [links_relevant]
  have hviews := mem_filter_iff hviewsRelevant done
  have hgroups : ∀ child, .H5Gcreate2 [name, "views"] child ∈ done.filter (links_relevant [name, "views"]) ↔
      .H5Gcreate2 [name, "views"] child ∈ done := fun child =>
    mem_filter_iff (by simp [links_relevant]) done
  simp only [links_observation, hstart] at hobserved
  rw [hobserved]
  simp only [← hviews, ← hgroups]
  rcases List.prefix_cons_iff.mp hordered with hnone | ⟨made, hmade, hrest⟩
  · exact ⟨[], List.nil_prefix, by simp [hnone], by simp [hnone]⟩
  · obtain ⟨created, hcreated, rfl⟩ : ∃ created, created <+: view_names snapshot.allocations 0 ∧
        made = created.map (Call.H5Gcreate2 [name, "views"]) := by
      refine ⟨(view_names snapshot.allocations 0).take made.length, List.take_prefix _ _, ?_⟩
      rw [List.map_take]
      exact List.prefix_iff_eq_take.mp hrest
    refine ⟨created, hcreated, fun child => by simp [hmade], ?_⟩
    have heffect : links_effect [name, "views"] none (.H5Gcreate2 [name] "views") = some [] := by
      simp [links_effect]
    rw [hmade, List.foldl_cons, heffect, foldl_links_effect, if_pos List.mem_cons_self, List.nil_append]

/-- The groups are made in a group which was made before. -/
theorem views_of_group (hdone : done <+: write_snapshot machine name snapshot) {child : String}
    (hchild : .H5Gcreate2 [name, "views"] child ∈ done) : .H5Gcreate2 [name] "views" ∈ done := by
  have hordered := hdone.filter (links_relevant [name, "views"])
  rw [filter_links_write_snapshot] at hordered
  exact mem_of_first hordered (by simp [links_relevant]) hchild

/-- After all the calls, every group is linked. -/
theorem links?_of_snapshot (hexec : exec (write_snapshot machine name snapshot) file = some final) :
    final.links? [name, "views"] = some (view_names snapshot.allocations 0) := by
  have hobserved := (links_observation [name, "views"]).of_exec hexec
  have heffect : ∀ old, links_effect [name, "views"] old (.H5Gcreate2 [name] "views") = some [] := by
    simp [links_effect]
  simp only [links_observation] at hobserved
  rw [hobserved, filter_links_write_snapshot, List.foldl_cons, heffect, foldl_links_effect,
    List.nil_append]

/-- The calls for an allocation are among those of its snapshot. -/
theorem write_allocation_group_subset (hallocations : snapshot.allocations = before ++ allocation :: after) :
    write_allocation_group machine [name, "views"] allocation before.length ⊆
      write_snapshot machine name snapshot := by
  intro call hcall
  rw [write_snapshot, hallocations, write_allocation_groups_append, write_allocation_groups, Nat.zero_add]
  simp [hcall]

end

/-- The calls for some groups make and change nothing but these groups. -/
theorem filter_write_allocation_groups_above (views_group : Path) (allocations : List ActiveAllocation)
    (index : Nat) {path : Path} (hpath : path.length < views_group.length) :
    (write_allocation_groups machine views_group allocations index).filter (links_relevant path) = [] := by
  induction allocations generalizing index with
  | nil => rfl
  | cons allocation rest ih =>
    rw [write_allocation_groups, List.filter_append, ih, List.append_nil]
    refine List.filter_eq_nil_iff.mpr fun call hcall hrelevant => ?_
    obtain ⟨hcreate, htargets⟩ :=
      below_write_allocation_group machine views_group allocation index call hcall
    have hlong : ∀ {loc : Path} {child : String},
        views_group ++ [view_name allocation index] <+: loc ++ [child] →
          ¬ (loc = path ∨ loc ++ [child] = path) := by
      intro loc child hinside hcases
      have hlength := hinside.length_le
      simp only [List.length_append, List.length_singleton] at hlength
      rcases hcases with rfl | rfl
      · omega
      · simp only [List.length_append, List.length_singleton] at hpath
        omega
    cases call with
    | H5Gcreate2 loc child => exact hlong (htargets _ rfl) (by simpa [links_relevant] using hrelevant)
    | H5Dcreate2 loc child => exact hlong (htargets _ rfl) (by simpa [links_relevant] using hrelevant)
    | H5Fcreate => exact hcreate rfl
    | _ => simp [links_relevant] at hrelevant

/-- The calls of a snapshot which are relevant for the links of its group and of
    the root. -/
theorem filter_links_write_snapshot_above (name : String) (snapshot : AllocationSnapshot) :
    (write_snapshot machine name snapshot).filter (links_relevant [name]) =
        [.H5Gcreate2 [] name, .H5Gcreate2 [name] "views"] ∧
      (write_snapshot machine name snapshot).filter (links_relevant []) = [.H5Gcreate2 [] name] := by
  have hclose : ∀ path, links_relevant path (.handle .H5Gclose) = false := fun _ => rfl
  rw [write_snapshot]
  constructor
  · have hgroup : links_relevant [name] (.H5Gcreate2 [] name) = true := by simp [links_relevant]
    have hviews : links_relevant [name] (.H5Gcreate2 [name] "views") = true := by simp [links_relevant]
    simp only [List.filter_cons, List.filter_append, hgroup, hviews, hclose, Bool.false_eq_true, if_false,
      if_true, (only_write_uint64_attribute _ _ _).filter_links, List.filter_nil, List.append_nil,
      List.nil_append]
    rw [filter_write_allocation_groups_above machine _ _ _ (by simp)]
  · have hgroup : links_relevant [] (.H5Gcreate2 [] name) = true := by simp [links_relevant]
    have hviews : links_relevant [] (.H5Gcreate2 [name] "views") = false := by simp [links_relevant]
    simp only [List.filter_cons, List.filter_append, hgroup, hviews, hclose, Bool.false_eq_true, if_false,
      if_true, (only_write_uint64_attribute _ _ _).filter_links, List.filter_nil, List.append_nil,
      List.nil_append]
    rw [filter_write_allocation_groups_above machine _ _ _ (by simp)]

end krepe
