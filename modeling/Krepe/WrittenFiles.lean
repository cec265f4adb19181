import Krepe.Hdf5.Typing
import Krepe.WellTypedLoad

open std hdf5 outcome

namespace krepe

open impl

/-- An attribute which the replayer may read has the type it is read as. -/
structure AttrFits (object : Path) (name : String) (value : AttrValue) : Prop where
  allocations : ∀ views ∈ [ScopeGuard.in_views, ScopeGuard.out_views], ∀ view, object = views ++ [view] →
    name ∈ ["label", "space", "p_data"] → is_string value = true
  bytes_dumped : ∀ view, object = ScopeGuard.out_views ++ [view] → name = "bytes_dumped" → is_int value = true
  metadata : object = ["metadata"] → is_string value = true
  policy_strings : object = policy_path → name ∈ ["type", "space", "schedule", "outer_dir", "inner_dir"] →
    is_string value = true
  policy_ints : object = policy_path → name ∈ ["index_type_signed", "index_type_size", "chunk_size", "rank",
    "team_size", "league_size", "vector_length", "team_scratch_0", "team_scratch_1", "thread_scratch_0",
    "thread_scratch_1"] → is_int value = true
  policy_uint64s : object = policy_path → name ∈ ["begin", "end"] → is_uint64 value = true

/-- A dataset which the replayer may read is one of bytes or of numbers, as it is read. -/
structure DatasetFits (object : Path) (dataset : Dataset) : Prop where
  bytes : ∀ views ∈ [ScopeGuard.in_views, ScopeGuard.out_views], ∀ view, object = views ++ [view] ++ ["bytes"] →
    BytesTyped dataset ∧ FitsInt (extent dataset.dims) ∧ Multipliable dataset.dims
  functor : ∀ name ∈ ["functor", "nvcc_inner_lambda"], object = ["functor", name] →
    BytesTyped dataset ∧ ∃ length, dataset.dims = [length]
  policy : ∀ name ∈ ["begin", "end", "tile"], object = ["policy", name] →
    (∃ length, dataset.dims = [length]) ∧ ∃ data, dataset.read_int64 = some data

/-- The typing which a dump keeps: every attribute and every dataset holds a value that fits its
    type. -/
def dump_typing : Typing := ⟨AttrFits, DatasetFits⟩

/-- A file in which every value fits is of the right types. -/
theorem wellTyped_of_holds {file : File} (hholds : dump_typing.Holds file) : WellTyped file where
  allocations views hviews view _ hattr _ hvalue :=
    (hholds.attr _ _ _ hvalue).allocations views hviews view rfl hattr
  bytes_dumped view _ hvalue := (hholds.attr _ _ _ hvalue).bytes_dumped view rfl rfl
  bytes views hviews view _ hdataset := (hholds.dataset _ _ hdataset).bytes views hviews view rfl
  metadata _ _ hvalue := (hholds.attr _ _ _ hvalue).metadata rfl
  functor name hname _ hdataset := (hholds.dataset _ _ hdataset).functor name hname rfl
  policy_strings _ hattr _ hvalue := (hholds.attr _ _ _ hvalue).policy_strings rfl hattr
  policy_ints _ hattr _ hvalue := (hholds.attr _ _ _ hvalue).policy_ints rfl hattr
  policy_uint64s _ hattr _ hvalue := (hholds.attr _ _ _ hvalue).policy_uint64s rfl hattr
  policy_datasets name hname _ hdataset := (hholds.dataset _ _ hdataset).policy name hname rfl

section

variable {object : Path} {name : String}

/-- A text with a character may be stored where no number is read. -/
theorem string_fits (hviews : object.length = 3 → name ≠ "bytes_dumped")
    (hpolicy : object = policy_path → name ∉ ["index_type_signed", "index_type_size", "chunk_size", "rank",
      "team_size", "league_size", "vector_length", "team_scratch_0", "team_scratch_1", "thread_scratch_0",
      "thread_scratch_1", "begin", "end"]) {text : String} (htext : text ≠ "") :
    AttrFits object name (.string text) where
  allocations _ _ _ _ _ := decide_eq_true htext
  bytes_dumped view hobject hname := absurd hname (hviews (hobject ▸ rfl))
  metadata _ := decide_eq_true htext
  policy_strings _ _ := decide_eq_true htext
  policy_ints hobject hname := absurd (List.mem_append_left ["begin", "end"] hname) (hpolicy hobject)
  policy_uint64s hobject hname := by
    refine absurd ?_ (hpolicy hobject)
    rcases List.mem_pair.mp hname with rfl | rfl <;> simp

theorem int_fits (hviews : name ∉ ["label", "space", "p_data"]) (hmetadata : object ≠ ["metadata"])
    (hpolicy : object = policy_path → name ∉ ["type", "space", "schedule", "outer_dir", "inner_dir", "begin",
      "end"]) (value : Int32) : AttrFits object name (.int value) where
  allocations _ _ _ _ hname := absurd hname hviews
  bytes_dumped _ _ _ := rfl
  metadata hobject := absurd hobject hmetadata
  policy_strings hobject hname := absurd (List.mem_append_left ["begin", "end"] hname) (hpolicy hobject)
  policy_ints _ _ := rfl
  policy_uint64s hobject hname := by
    refine absurd ?_ (hpolicy hobject)
    rcases List.mem_pair.mp hname with rfl | rfl <;> simp

theorem uint64_fits (hviews : name ∉ ["label", "space", "p_data", "bytes_dumped"]) (hmetadata : object ≠ ["metadata"])
    (hpolicy : object = policy_path → name ∈ ["begin", "end"]) (value : UInt64) :
    AttrFits object name (.uint64 value) where
  allocations _ _ _ _ hname := absurd (List.mem_append_left ["bytes_dumped"] hname) hviews
  bytes_dumped _ _ hname := absurd (by simp [hname]) hviews
  metadata hobject := absurd hobject hmetadata
  policy_strings hobject hname := by
    rcases List.mem_pair.mp (hpolicy hobject) with rfl | rfl <;> simp at hname
  policy_ints hobject hname := by
    rcases List.mem_pair.mp (hpolicy hobject) with rfl | rfl <;> simp at hname
  policy_uint64s _ _ := rfl

/-- A string attribute has room for the terminator, which is there before the text is. -/
theorem preserves_write_string_attribute (hfits : ∀ text, text ≠ "" → AttrFits object name (.string text))
    (text : String) : Preserves dump_typing.Holds (write_string_attribute object name text) := by
  have hfill : ∀ size, size ≠ 0 → String.ofList (List.replicate size '\x00') ≠ "" := by
    intro size hsize hempty
    have hnil := congrArg String.toList hempty
    rw [String.toList_ofList] at hnil
    exact hsize (List.length_replicate.symm.trans (congrArg List.length hnil))
  have hsize : (if text.isEmpty then 1 else text.length + 1) ≠ 0 := by
    split
    · exact Nat.one_ne_zero
    · exact Nat.succ_ne_zero _
  unfold write_string_attribute
  refine .cons (Typing.preserves_handle _) <| .cons (Typing.preserves_handle _) <|
    .cons (Typing.preserves_handle _) <| .cons (Typing.preserves_handle _) ?_
  refine (Typing.preserves_attribute (hfits _ (hfill _ hsize)) (hfits _ (terminated_ne_empty text))).append ?_
  exact .cons (Typing.preserves_handle _) <| .cons (Typing.preserves_handle _) (Typing.preserves_handle _)

theorem preserves_write_int_attribute (hfits : ∀ value, AttrFits object name (.int value)) (value : Int32) :
    Preserves dump_typing.Holds (write_int_attribute object name value) := by
  unfold write_int_attribute
  refine .cons (Typing.preserves_handle _) ?_
  refine (Typing.preserves_attribute (hfits _) (hfits _)).append ?_
  exact .cons (Typing.preserves_handle _) (Typing.preserves_handle _)

theorem preserves_write_uint64_attribute (hfits : ∀ value, AttrFits object name (.uint64 value)) (value : UInt64) :
    Preserves dump_typing.Holds (write_uint64_attribute object name value) := by
  unfold write_uint64_attribute
  refine .cons (Typing.preserves_handle _) ?_
  refine (Typing.preserves_attribute (hfits _) (hfits _)).append ?_
  exact .cons (Typing.preserves_handle _) (Typing.preserves_handle _)

theorem preserves_write_dataset {data : Elements}
    (hfits : ∀ stored ∈ [none, some data],
      DatasetFits (object ++ [name]) ⟨Hdf5Datatype data, [elements_size data], stored⟩) :
    Preserves dump_typing.Holds (write_dataset object name data) := by
  have hcreated := hfits none (by simp)
  have hwritten := hfits (some data) (by simp)
  have hclose : Preserves dump_typing.Holds [.handle .H5Dclose, .handle .H5Sclose] :=
    .cons (Typing.preserves_handle _) (Typing.preserves_handle _)
  unfold write_dataset
  refine .append ?_ hclose
  split
  · exact .cons (Typing.preserves_handle _) (Typing.preserves_create_dataset hcreated)
  · exact .cons (Typing.preserves_handle _) (Typing.preserves_dataset hcreated hwritten)

/-- Bytes are read as many as there are, also before they were written. -/
theorem bytes_typed {bytes : List UInt8} {stored : Option Elements} (hstored : stored ∈ [none, some (.uchar bytes)]) :
    BytesTyped ⟨.uchar, [bytes.length], stored⟩ where
  type := rfl
  read := by
    rcases List.mem_pair.mp hstored with rfl | rfl
    · exact ⟨_, rfl, List.length_replicate⟩
    · exact ⟨bytes, rfl, by simp [extent]⟩

end

section

variable (machine : CaptureMachine)

/-- The bytes which are dumped of each allocation are so many that their number, narrowed to an
    `int`, is no smaller positive one. -/
def SizesFit (allocations : List ActiveAllocation) : Prop :=
  ∀ allocation ∈ allocations, FitsInt (copy_allocation_bytes machine allocation).2.length

variable {views : Path} (hviews : views ∈ [ScopeGuard.in_views, ScopeGuard.out_views])

include hviews

theorem view_path_length (view : String) : (views ++ [view]).length = 3 := by
  rcases List.mem_pair.mp hviews with rfl | rfl <;> rfl

theorem view_path_ne (view other : String) : views ++ [view] ≠ [other] := by
  intro heq
  have hlength := congrArg List.length heq
  rw [view_path_length hviews] at hlength
  simp at hlength

theorem view_string_fits {name : String} (hname : name ≠ "bytes_dumped") (view text : String) (htext : text ≠ "") :
    AttrFits (views ++ [view]) name (.string text) :=
  string_fits (fun _ => hname) (fun heq => absurd heq (view_path_ne hviews view "policy")) htext

theorem view_uint64_fits {name : String} (hname : name ∉ ["label", "space", "p_data", "bytes_dumped"])
    (view : String) (value : UInt64) : AttrFits (views ++ [view]) name (.uint64 value) :=
  uint64_fits hname (view_path_ne hviews view "metadata")
    (fun heq => absurd heq (view_path_ne hviews view "policy")) value

theorem view_int_fits {name : String} (hname : name ∉ ["label", "space", "p_data"]) (view : String)
    (value : Int32) : AttrFits (views ++ [view]) name (.int value) :=
  int_fits hname (view_path_ne hviews view "metadata")
    (fun heq => absurd heq (view_path_ne hviews view "policy")) value

theorem preserves_write_allocation_attributes (view : String) (allocation : ActiveAllocation) (skip_reason : String) :
    Preserves dump_typing.Holds (write_allocation_attributes (views ++ [view]) allocation skip_reason) := by
  unfold write_allocation_attributes
  refine .append (.append (.append (.append (.append (.append ?_ ?_) ?_) ?_) ?_) ?_) ?_
  · exact preserves_write_string_attribute (view_string_fits hviews (by simp) view) _
  · exact preserves_write_string_attribute (view_string_fits hviews (by simp) view) _
  · exact preserves_write_string_attribute (view_string_fits hviews (by simp) view) _
  · exact preserves_write_string_attribute (view_string_fits hviews (by simp) view) _
  · exact preserves_write_uint64_attribute (view_uint64_fits hviews (by simp) view) _
  · exact preserves_write_uint64_attribute (view_uint64_fits hviews (by simp) view) _
  · exact preserves_write_int_attribute (view_int_fits hviews (by simp) view) _

theorem preserves_write_allocation_bytes (view skip_reason : String) {bytes : List UInt8}
    (hsize : FitsInt bytes.length) :
    Preserves dump_typing.Holds (write_allocation_bytes (views ++ [view]) skip_reason bytes) := by
  have hshort : ∀ first second, views ++ [view] ++ ["bytes"] ≠ [first, second] := by
    intro first second heq
    have hlength := congrArg List.length heq
    rw [List.length_append, view_path_length hviews] at hlength
    simp at hlength
  unfold write_allocation_bytes
  split
  · exact preserves_write_string_attribute (view_string_fits hviews (by simp) view) _
  · refine preserves_write_dataset fun stored hstored => ?_
    refine ⟨fun _ _ _ _ => ⟨bytes_typed hstored, ?_, Or.inl (by simp)⟩,
      fun name _ hobject => absurd hobject (hshort _ _),
      fun name _ hobject => absurd hobject (hshort _ _)⟩
    simpa [extent, elements_size] using hsize

/-- The group of an allocation whose size fits keeps the typing. -/
theorem preserves_write_allocation_group {allocation : ActiveAllocation}
    (hsize : FitsInt (copy_allocation_bytes machine allocation).2.length) (index : Nat) :
    Preserves dump_typing.Holds (write_allocation_group machine views allocation index) := by
  unfold write_allocation_group
  refine .cons (Typing.preserves_group _ _) (.append (.append ?_ ?_) (Typing.preserves_handle _))
  · exact preserves_write_allocation_attributes hviews _ _ _
  · exact preserves_write_allocation_bytes hviews _ _ hsize

theorem preserves_write_allocation_groups {allocations : List ActiveAllocation} (hsizes : SizesFit machine allocations)
    (index : Nat) : Preserves dump_typing.Holds (write_allocation_groups machine views allocations index) := by
  induction allocations generalizing index with
  | nil => exact preserves_nil
  | cons allocation rest ih =>
    rw [write_allocation_groups]
    refine (preserves_write_allocation_group machine hviews (hsizes _ List.mem_cons_self) index).append ?_
    exact ih (fun other hother => hsizes other (List.mem_cons_of_mem _ hother)) (index + 1)

end

section

variable {machine : CaptureMachine}

/-- A snapshot whose sizes fit keeps the typing. -/
theorem preserves_write_snapshot {name : String} (hname : name ∈ ["in", "out"]) {snapshot : AllocationSnapshot}
    (hsizes : SizesFit machine snapshot.allocations) :
    Preserves dump_typing.Holds (write_snapshot machine name snapshot) := by
  have hviews : [name, "views"] ∈ [ScopeGuard.in_views, ScopeGuard.out_views] := by
    rcases List.mem_pair.mp hname with rfl | rfl <;> simp [ScopeGuard.in_views, ScopeGuard.out_views]
  have huint64 : ∀ attr, attr ∉ ["label", "space", "p_data", "bytes_dumped"] → ∀ value,
      AttrFits [name] attr (.uint64 value) := by
    intro attr hattr
    rcases List.mem_pair.mp hname with rfl | rfl <;> exact uint64_fits hattr (by simp) (by simp [policy_path])
  unfold write_snapshot
  refine .cons (Typing.preserves_group _ _) (.append (.append ?_ ?_) ?_)
  · exact preserves_write_uint64_attribute (huint64 _ (by simp)) _
  · exact preserves_write_uint64_attribute (huint64 _ (by simp)) _
  · refine .cons (Typing.preserves_group _ _) (.append ?_ ?_)
    · exact preserves_write_allocation_groups machine hviews hsizes 0
    · exact .cons (Typing.preserves_handle _) (Typing.preserves_handle _)

theorem preserves_write_metadata (metadata : UnorderedMap String String) :
    Preserves dump_typing.Holds (write_metadata metadata) := by
  have hentries : ∀ entries : List (Sigma fun _ : String => String), Preserves dump_typing.Holds
      (entries.flatMap fun entry => write_string_attribute ["metadata"] (c_str entry.1) entry.2) := by
    intro entries
    induction entries with
    | nil => exact preserves_nil
    | cons entry rest ih =>
      rw [List.flatMap_cons]
      exact (preserves_write_string_attribute (fun _ => string_fits (by simp) (by simp [policy_path])) _).append ih
  unfold write_metadata
  exact .cons (Typing.preserves_group _ _) ((hentries _).append (Typing.preserves_handle _))

theorem preserves_write_policy (policy : PolicyDesc) :
    Preserves dump_typing.Holds (write_policy ["policy"] policy) := by
  have hstring : ∀ name ∈ ["type", "space", "schedule", "outer_dir", "inner_dir"], ∀ text,
      Preserves dump_typing.Holds (write_string_attribute ["policy"] name text) := by
    intro name hname
    refine preserves_write_string_attribute fun _ => string_fits (by simp) fun _ => ?_
    revert name
    decide
  have hint : ∀ name ∈ ["index_type_signed", "index_type_size", "chunk_size", "rank", "team_size",
      "league_size", "vector_length", "team_scratch_0", "team_scratch_1", "thread_scratch_0", "thread_scratch_1"],
      ∀ value, Preserves dump_typing.Holds (write_int_attribute ["policy"] name value) := by
    intro name hname
    refine preserves_write_int_attribute (int_fits ?_ (by simp) fun _ => ?_)
    · revert name
      decide
    · revert name
      decide
  have huint64 : ∀ name ∈ ["begin", "end"], ∀ value,
      Preserves dump_typing.Holds (write_uint64_attribute ["policy"] name value) := by
    intro name hname
    refine preserves_write_uint64_attribute (uint64_fits ?_ (by simp) fun _ => hname)
    revert name
    decide
  have hdataset : ∀ name data, Preserves dump_typing.Holds (write_dataset ["policy"] name (.int64 data)) := by
    intro name data
    refine preserves_write_dataset fun stored hstored => ⟨?_, ?_, fun _ _ _ => ⟨⟨_, rfl⟩, ?_⟩⟩
    · intro views hviews view hobject
      rcases List.mem_pair.mp hviews with rfl | rfl <;> simp [ScopeGuard.in_views, ScopeGuard.out_views] at hobject
    · intro other _ hobject
      simp at hobject
    · rcases List.mem_pair.mp hstored with rfl | rfl <;> exact ⟨_, rfl⟩
  cases policy with
  | no_policy => exact hstring _ (by simp) _
  | scalar policy => exact (hstring _ (by simp) _).append (huint64 _ (by simp) _)
  | range policy =>
    unfold write_policy write_range_policy
    repeat' apply Preserves.append
    all_goals first | exact hstring _ (by simp) _ | exact hint _ (by simp) _ | exact huint64 _ (by simp) _
  | mdrange policy =>
    unfold write_policy write_mdrange_policy
    refine .append (.append (.append ?_ (hdataset _ _)) (hdataset _ _)) (hdataset _ _)
    repeat' apply Preserves.append
    all_goals first | exact hstring _ (by simp) _ | exact hint _ (by simp) _
  | team policy =>
    unfold write_policy write_team_policy
    repeat' apply Preserves.append
    all_goals first | exact hstring _ (by simp) _ | exact hint _ (by simp) _

theorem preserves_write_functor (functor_data nvcc_inner_lambda_data : List UInt8) :
    Preserves dump_typing.Holds (write_functor functor_data nvcc_inner_lambda_data) := by
  have hdataset : ∀ name data, Preserves dump_typing.Holds (write_dataset ["functor"] name (.uchar data)) := by
    intro name data
    refine preserves_write_dataset fun stored hstored => ⟨?_, fun _ _ _ => ⟨bytes_typed hstored, _, rfl⟩, ?_⟩
    · intro views hviews view hobject
      rcases List.mem_pair.mp hviews with rfl | rfl <;> simp [ScopeGuard.in_views, ScopeGuard.out_views] at hobject
    · intro other _ hobject
      simp at hobject
  unfold write_functor
  exact .cons (Typing.preserves_group _ _)
    (.append (.append (hdataset _ _) (hdataset _ _)) (Typing.preserves_handle _))

/-- The calls of a dump whose sizes fit keep the typing. -/
theorem preserves_create_calls {dump : KernelDump} (hsizes : SizesFit machine dump.input_snapshot.allocations) :
    Preserves dump_typing.Holds (create_calls machine dump) := by
  have hroot : ∀ name text, Preserves dump_typing.Holds (write_string_attribute [] name text) := fun name =>
    preserves_write_string_attribute fun _ => string_fits (by simp) (by simp [policy_path])
  have hnumber : ∀ name ∉ ["label", "space", "p_data", "bytes_dumped"], ∀ value,
      Preserves dump_typing.Holds (write_uint64_attribute [] name value) := fun name hname =>
    preserves_write_uint64_attribute (uint64_fits hname (by simp) (by simp [policy_path]))
  unfold create_calls
  refine .cons Typing.preserves_create (.append (.append (.append (.append (.append ?_ ?_) ?_) ?_) ?_) ?_)
  · exact hroot _ _
  · exact hnumber _ (by simp) _
  · exact hnumber _ (by simp) _
  · exact preserves_write_snapshot (by simp) hsizes
  · exact preserves_write_metadata _
  · refine .cons (Typing.preserves_group _ _) (.append (preserves_write_policy _) ?_)
    exact .cons (Typing.preserves_handle _) ((preserves_write_functor _ _).append (Typing.preserves_handle _))

/-- The calls of an output whose sizes fit keep the typing. -/
theorem preserves_append_calls {snapshot : AllocationSnapshot} (hsizes : SizesFit machine snapshot.allocations) :
    Preserves dump_typing.Holds (append_calls machine snapshot) :=
  .cons Typing.preserves_open ((preserves_write_snapshot (by simp) hsizes).append (Typing.preserves_handle _))

end

/-- A write to the file at a path, of which any call may fail. -/
inductive DumpWrite where
  | create (machine : CaptureMachine) (fault : Option Nat) (dump : KernelDump)
  | append (machine : CaptureMachine) (fault : Option Nat) (output : KernelOutput)

namespace DumpWrite

/-- One write to a dump, whatever call of it fails. -/
def apply (system : DumpSystem) : DumpWrite → File → File
  | .create machine fault dump, file => (create_kernel_dump machine system fault dump file).2
  | .append machine fault output, file => (append_kernel_output machine system fault output file).2

/-- The sizes of the allocations fit which a write dumps. -/
def Fits : DumpWrite → Prop
  | .create machine _ dump => SizesFit machine dump.input_snapshot.allocations
  | .append machine _ output => SizesFit machine output.output_snapshot.allocations

/-- A write keeps the typing, whatever call of it fails. -/
theorem apply_holds {system : DumpSystem} {write : DumpWrite} (hfits : write.Fits) {file : File}
    (hholds : dump_typing.Holds file) : dump_typing.Holds (write.apply system file) := by
  have hresult : ∀ filename outcome, (dump_result system filename outcome).2 = outcome.file := by
    intro filename outcome
    unfold dump_result
    split <;> rfl
  cases write with
  | create machine fault dump =>
    unfold apply create_kernel_dump
    dsimp only
    split
    · exact hholds
    · rw [hresult]
      exact (preserves_create_calls hfits).run fault hholds
  | append machine fault output =>
    rw [apply, append_kernel_output, hresult]
    exact (preserves_append_calls hfits).run fault hholds

end DumpWrite

/-- The file at a path at which there was none, after some writes. -/
def written (system : DumpSystem) (writes : List DumpWrite) : File :=
  writes.foldl (fun file write => write.apply system file) fun _ => none

/-- Every file of a sequence of writes has the typing, by induction on the writes. -/
theorem written_holds (system : DumpSystem) {writes : List DumpWrite} (hfits : ∀ write ∈ writes, write.Fits) :
    dump_typing.Holds (written system writes) := by
  induction writes using List.reverseRecOn with
  | nil => exact Typing.holds_no_file
  | append_singleton writes write ih =>
    rw [written, List.foldl_append]
    refine DumpWrite.apply_holds (hfits write (by simp)) (ih fun other hother => ?_)
    exact hfits other (List.mem_append_left _ hother)

end krepe
