import Krepe.Capture.ViewDump.Prefix

open std hdf5

namespace krepe

variable (machine : CaptureMachine)

/-- The attributes of the root of a dump. -/
def kernel_attributes (dump : KernelDump) : List (String × AttrValue) :=
  [("kernel_label", string_data dump.label), ("kernel_id", .uint64 (UInt64.ofNat dump.kernel_id)),
    ("kernel_invocation", .uint64 (UInt64.ofNat dump.kernel_invocation))]

/-- The attributes of the metadata, whose names end at the first null character of their keys. -/
def metadata_attributes (metadata : UnorderedMap String String) : List (String × AttrValue) :=
  metadata.entries.map fun entry => (c_str entry.1, string_data entry.2)

/-- A file with a root which has nothing but its attributes. -/
def labelled_file (dump : KernelDump) : File :=
  Function.update (fun _ => none) [] (some (.group ⟨kernel_attributes dump, []⟩))

/-- The calls which create the group of the policy and fill it. -/
def policy_calls (policy : PolicyDesc) : List Call :=
  .H5Gcreate2 [] "policy" :: write_policy ["policy"] policy

/-- The first calls for a dump leave a file with nothing but the attributes of the root. -/
theorem exec_kernel_attributes (dump : KernelDump) (rest : List Call) (file : File) :
    exec (.H5Fcreate :: (write_string_attribute [] "kernel_label" dump.label ++
      (write_uint64_attribute [] "kernel_id" (UInt64.ofNat dump.kernel_id) ++
        (write_uint64_attribute [] "kernel_invocation" (UInt64.ofNat dump.kernel_invocation) ++ rest))))
      file = exec rest (labelled_file dump) := by
  have hroot : (Function.update (fun _ => none) [] (some (.group Group.empty)) : File) [] =
      some (.group Group.empty) := Function.update_self _ _ _
  have hnew : ∀ attr ∈ kernel_attributes dump, attr.1 ≠ "" ∧ Group.empty.attrs.lookup attr.1 = none := by
    simp [kernel_attributes, Group.empty]
  have hattrs := (File.add_attrs_eq_some hroot).mpr ⟨hnew, by simp [kernel_attributes], rfl⟩
  have hlabelled : File.set (Function.update (fun _ => none) [] (some (.group Group.empty))) []
      (.group { Group.empty with attrs := Group.empty.attrs ++ kernel_attributes dump }) =
        labelled_file dump := Function.update_idem _ _ _
  rw [hlabelled] at hattrs
  rw [exec_cons, Call.apply, Option.bind_some, exec_write_string_attribute]
  simp only [exec_write_uint64_attribute]
  have hthree := congrArg (Option.bind · (exec rest)) hattrs
  simpa only [kernel_attributes, File.add_attrs, Option.bind_assoc, Option.bind_some] using hthree

/-- The calls for a dump come in four parts. -/
theorem exec_create_calls (dump : KernelDump) (file : File) :
    exec (create_calls machine dump) file =
      (exec (write_snapshot machine "in" dump.input_snapshot) (labelled_file dump)).bind fun file =>
        (exec (write_metadata dump.metadata) file).bind fun file =>
          (exec (policy_calls dump.policy) file).bind
            (exec (write_functor dump.functor_data dump.nvcc_inner_lambda_data)) := by
  have hfunctor : exec (.handle .H5Gclose :: (write_functor dump.functor_data dump.nvcc_inner_lambda_data ++
      [.handle .H5Fclose])) = exec (write_functor dump.functor_data dump.nvcc_inner_lambda_data) := by
    funext file
    rw [exec_handle, exec_append, exec_handle]
    exact Option.bind_fun_some _
  rw [create_calls]
  simp only [List.append_assoc, exec_kernel_attributes]
  rw [exec_append]
  congr 1
  funext file
  rw [exec_append]
  congr 1
  funext file
  rw [← List.cons_append, exec_append, hfunctor, policy_calls]

/-- The calls for the metadata add their attributes, in the order of the entries. -/
theorem exec_metadata_entries (entries : List (Sigma fun _ : String => String)) (file : File) :
    exec (entries.flatMap fun entry => write_string_attribute ["metadata"] (c_str entry.1) entry.2) file =
      file.add_attrs ["metadata"] (entries.map fun entry => (c_str entry.1, string_data entry.2)) := by
  induction entries generalizing file with
  | nil => rfl
  | cons entry rest ih =>
    rw [List.flatMap_cons, exec_write_string_attribute, List.map_cons, File.add_attrs]
    exact congrArg (Option.bind _) (funext ih)

section

variable {file final : File} {root : Group}

/-- The metadata are stored when all keys are names of attributes, as they are
    written. -/
theorem write_metadata_eq_some {metadata : UnorderedMap String String}
    (hroot : file [] = some (.group root)) (hfree : "metadata" ∉ root.links) :
    exec (write_metadata metadata) file = some final ↔
      (∀ attr ∈ metadata_attributes metadata, attr.1 ≠ "") ∧
        ((metadata_attributes metadata).map Prod.fst).Nodup ∧
        final = (file.set [] (.group { root with links := root.links ++ ["metadata"] })).set ["metadata"]
          (.group ⟨metadata_attributes metadata, []⟩) := by
  have hlink := File.link_eq_some.mpr ⟨root, hroot, (by simp : "metadata" ≠ ""), hfree,
    @rfl _ ((file.set [] (.group { root with links := root.links ++ ["metadata"] })).set ["metadata"]
      (.group Group.empty))⟩
  rw [write_metadata, exec_cons, Call.apply, hlink, Option.bind_some, exec_append, exec_handle,
    exec_metadata_entries]
  refine (Option.bind_fun_some _).symm ▸ (File.add_attrs_eq_some (File.set_self _ _ _)).trans ?_
  rw [File.set_set]
  simp only [Group.empty, List.lookup_nil, and_true, List.nil_append]
  rfl

/-- A group is made under a free name, and is empty. -/
theorem exec_group {name : String} (hroot : file [] = some (.group root)) (hname : name ≠ "")
    (hfree : name ∉ root.links) (rest : List Call) :
    ∃ next, exec (.H5Gcreate2 [] name :: rest) file = exec rest next ∧
      next [] = some (.group { root with links := root.links ++ [name] }) ∧
      next [name] = some (.group Group.empty) ∧
      ∀ path, path ≠ [] → path ≠ [name] → next path = file path := by
  have hlink := File.link_eq_some.mpr ⟨root, hroot, hname, hfree,
    @rfl _ ((file.set [] (.group { root with links := root.links ++ [name] })).set [name]
      (.group Group.empty))⟩
  refine ⟨_, by rw [exec_cons, Call.apply, hlink, Option.bind_some], ?_, File.set_self _ _ _,
    fun path hpath hother => ?_⟩
  · rw [File.set_of_ne _ _ (by simp), File.set_self]
  · rw [File.set_of_ne _ _ hother, File.set_of_ne _ _ hpath]

/-- Where no policy is, one can be written, and is stored then. -/
theorem policy_calls_stored (policy : PolicyDesc) (hroot : file [] = some (.group root))
    (hfree : "policy" ∉ root.links) :
    ∃ final, exec (policy_calls policy) file = some final ∧ PolicyStored ["policy"] policy final ∧
      final [] = some (.group { root with links := root.links ++ ["policy"] }) ∧
      ∀ path, path ≠ [] → ¬ ["policy"] <+: path → final path = file path := by
  obtain ⟨next, hnext, hlinked, hgroup, hframe⟩ := exec_group hroot (by simp) hfree
    (write_policy ["policy"] policy)
  obtain ⟨final, hfinal, hstored, hrest⟩ := write_policy_stored policy hgroup
  refine ⟨final, hnext.trans hfinal, hstored, ?_, fun path hpath hbelow => ?_⟩
  · rw [hrest [] (by simp) (by simp), hlinked]
  · rw [hrest path (fun heq => hbelow (heq ▸ List.prefix_refl _)) fun name heq =>
      hbelow (heq ▸ List.prefix_append _ _), hframe path hpath fun heq => hbelow (heq ▸ List.prefix_refl _)]

/-- Where no functor is, one can be written, with both of its datasets. -/
theorem write_functor_stored (functor_data nvcc_inner_lambda_data : List UInt8)
    (hroot : file [] = some (.group root)) (hfree : "functor" ∉ root.links) :
    ∃ final, exec (write_functor functor_data nvcc_inner_lambda_data) file = some final ∧
      final ["functor", "functor"] = some (.dataset (stored_dataset (.uchar functor_data))) ∧
      final ["functor", "nvcc_inner_lambda"] =
        some (.dataset (stored_dataset (.uchar nvcc_inner_lambda_data))) ∧
      final [] = some (.group { root with links := root.links ++ ["functor"] }) ∧
      ∀ path, path ≠ [] → ¬ ["functor"] <+: path → final path = file path := by
  obtain ⟨next, hnext, hlinked, hgroup, hframe⟩ := exec_group hroot (by simp) hfree
    (write_dataset ["functor"] "functor" (.uchar functor_data) ++
      write_dataset ["functor"] "nvcc_inner_lambda" (.uchar nvcc_inner_lambda_data) ++ [.handle .H5Gclose])
  have hdatasets : ∀ dataset ∈ [("functor", stored_dataset (.uchar functor_data)),
      ("nvcc_inner_lambda", stored_dataset (.uchar nvcc_inner_lambda_data))],
      dataset.1 ≠ "" ∧ dataset.1 ∉ Group.empty.links := by simp [Group.empty]
  obtain ⟨final, hfinal, _, hstored, hrest⟩ := File.add_datasets_of_free hgroup hdatasets (by simp)
  refine ⟨final, ?_, hstored ("functor", stored_dataset (.uchar functor_data)) (by simp),
    hstored ("nvcc_inner_lambda", stored_dataset (.uchar nvcc_inner_lambda_data)) (by simp), ?_,
    fun path hpath hbelow => ?_⟩
  · rw [write_functor, hnext, List.append_assoc, exec_write_dataset]
    simp only [exec_write_dataset, exec_handle, exec_nil]
    exact hfinal
  · rw [hrest [] (by simp) (by simp), hlinked]
  · rw [hrest path (fun heq => hbelow (heq ▸ List.prefix_refl _)) fun dataset _ heq =>
      hbelow (heq ▸ List.prefix_append _ _), hframe path hpath fun heq => hbelow (heq ▸ List.prefix_refl _)]

end

/-- What a dump holds, by the parts which are read on their own. -/
structure DumpStored (dump : KernelDump) (final : File) : Prop where
  root : ∃ root, final [] = some (.group root) ∧ root.links = ["in", "metadata", "policy", "functor"]
  input : ∃ written,
    exec (write_snapshot machine "in" dump.input_snapshot) (labelled_file dump) = some written ∧
      ∀ path, ["in"] <+: path → final path = written path
  metadata : ((metadata_attributes dump.metadata).map Prod.fst).Nodup ∧
    final ["metadata"] = some (.group ⟨metadata_attributes dump.metadata, []⟩)
  policy : PolicyStored ["policy"] dump.policy final
  functor : final ["functor", "functor"] = some (.dataset (stored_dataset (.uchar dump.functor_data)))
  nvcc_inner_lambda : final ["functor", "nvcc_inner_lambda"] =
    some (.dataset (stored_dataset (.uchar dump.nvcc_inner_lambda_data)))
  free : ∀ path, ["out"] <+: path → final path = none

section

variable {machine} {dump : KernelDump} {file final : File}

theorem labelled_file_of_ne {path : Path} (hpath : path ≠ []) : labelled_file dump path = none :=
  Function.update_of_ne hpath _ _

/-- The snapshot of the inputs is the first part after the root. -/
theorem input_calls_stored (dump : KernelDump) :
    ∃ written, exec (write_snapshot machine "in" dump.input_snapshot) (labelled_file dump) = some written ∧
      (∃ root, written [] = some (.group root) ∧ root.links = ["in"]) ∧
      ∀ path, path ≠ [] → ¬ ["in"] <+: path → written path = none := by
  have hroot : (labelled_file dump).links? [] = some [] := File.links?_of_group (Function.update_self _ _ _)
  obtain ⟨written, hwritten⟩ := write_snapshot_success machine hroot (by simp : "in" ≠ "") (by simp)
  refine ⟨written, hwritten, ?_, fun path hpath hbelow => ?_⟩
  · have hobserved := (links_observation []).of_exec hwritten
    simp only [links_observation, (filter_links_write_snapshot_above machine "in" _).2, hroot] at hobserved
    obtain ⟨root, hgroup, hlinks⟩ := Option.map_eq_some_iff.mp hobserved
    exact ⟨root, File.group?_eq_some.mp hgroup, hlinks⟩
  · rw [exec_below_frame (below_write_snapshot machine "in" _) hwritten hbelow (by simpa using hpath),
      labelled_file_of_ne hpath]

/-- A dump is stored when the keys of its metadata are names of attributes. -/
theorem create_calls_stored (hnames : ∀ attr ∈ metadata_attributes dump.metadata, attr.1 ≠ "")
    (hnodup : ((metadata_attributes dump.metadata).map Prod.fst).Nodup) (file : File) :
    ∃ final, exec (create_calls machine dump) file = some final ∧ DumpStored machine dump final := by
  obtain ⟨written, hwritten, ⟨root, hroot, hlinks⟩, hnone⟩ := @input_calls_stored machine dump
  obtain ⟨described, hdescribed⟩ : ∃ described, described = (written.set [] (.group { root with
      links := root.links ++ ["metadata"] })).set ["metadata"]
        (.group ⟨metadata_attributes dump.metadata, []⟩) := ⟨_, rfl⟩
  have hmetadata : exec (write_metadata dump.metadata) written = some described :=
    (write_metadata_eq_some hroot (by simp [hlinks])).mpr ⟨hnames, hnodup, hdescribed⟩
  have hdescribedRoot : described [] = some (.group { root with links := root.links ++ ["metadata"] }) := by
    rw [hdescribed, File.set_of_ne _ _ (by simp), File.set_self]
  have hdescribedSelf : described ["metadata"] = some (.group ⟨metadata_attributes dump.metadata, []⟩) := by
    rw [hdescribed, File.set_self]
  have hdescribedRest : ∀ path, path ≠ [] → path ≠ ["metadata"] → described path = written path := by
    intro path hpath hother
    rw [hdescribed, File.set_of_ne _ _ hother, File.set_of_ne _ _ hpath]
  obtain ⟨bounded, hpolicy, hstored, hboundedRoot, hboundedRest⟩ :=
    policy_calls_stored dump.policy hdescribedRoot (by simp [hlinks])
  obtain ⟨final, hfunctor, hdata, hinner, hfinalRoot, hfinalRest⟩ :=
    write_functor_stored dump.functor_data dump.nvcc_inner_lambda_data hboundedRoot (by simp [hlinks])
  -- Each part is written below a link of its own, so the later parts keep it.
  have hkeep : ∀ first rest, first ≠ "policy" → first ≠ "functor" →
      final (first :: rest) = described (first :: rest) := by
    intro first rest hpolicyNe hfunctorNe
    rw [hfinalRest _ (by simp) (by simpa using Ne.symm hfunctorNe),
      hboundedRest _ (by simp) (by simpa using Ne.symm hpolicyNe)]
  refine ⟨final, ?_, ⟨⟨_, hfinalRoot, by simp [hlinks]⟩, ⟨written, hwritten, ?_⟩, ⟨hnodup, ?_⟩, ⟨?_, ?_⟩,
    hdata, hinner, ?_⟩⟩
  · rw [exec_create_calls, hwritten, Option.bind_some, hmetadata, Option.bind_some, hpolicy,
      Option.bind_some, hfunctor]
  · rintro path ⟨rest, rfl⟩
    rw [List.singleton_append, hkeep _ _ (by simp) (by simp), hdescribedRest _ (by simp) (by simp)]
  · rw [hkeep _ _ (by simp) (by simp), hdescribedSelf]
  · obtain ⟨links, hgroup⟩ := hstored.attributes
    exact ⟨links, by rw [hfinalRest _ (by simp) (by simp), hgroup]⟩
  · intro dataset hdataset
    rw [hfinalRest _ (by simp) (by simp), hstored.datasets dataset hdataset]
  · rintro path ⟨rest, rfl⟩
    rw [List.singleton_append, hkeep _ _ (by simp) (by simp), hdescribedRest _ (by simp) (by simp),
      hnone _ (by simp) (by simp)]

/-- A dump which was written is stored. -/
theorem DumpStored.of_exec (hexec : exec (create_calls machine dump) file = some final) :
    DumpStored machine dump final := by
  have hparts := hexec
  rw [exec_create_calls] at hparts
  obtain ⟨written, hwritten, hparts⟩ := Option.bind_eq_some_iff.mp hparts
  obtain ⟨described, hdescribed, _⟩ := Option.bind_eq_some_iff.mp hparts
  obtain ⟨other, hother, ⟨root, hroot, hlinks⟩, _⟩ := @input_calls_stored machine dump
  rw [hwritten, Option.some.injEq] at hother
  subst hother
  obtain ⟨hnames, hnodup, _⟩ := (write_metadata_eq_some hroot (by simp [hlinks])).mp hdescribed
  obtain ⟨stored, hstored, hdump⟩ := create_calls_stored hnames hnodup file
  rw [hexec, Option.some.injEq] at hstored
  exact hstored ▸ hdump

/-- Without a fault a dump is reported as written once all its calls take effect. -/
theorem create_kernel_dump_of_exec {system : DumpSystem} {dump_path : String}
    (hpath : system.absolute (dump_filename dump.label dump.kernel_id) = .ok dump_path)
    (hexec : exec (create_calls machine dump) file = some final) :
    create_kernel_dump machine system none dump file = (⟨true, dump_path, ""⟩, final) := by
  rw [create_kernel_dump, hpath]
  simp only [run_of_exec hexec, dump_result]

/-- All the calls which append outputs take effect on a dump without them. -/
theorem append_calls_success (hstored : DumpStored machine dump file) (after : CaptureMachine)
    (snapshot : AllocationSnapshot) : ∃ final, exec (append_calls after snapshot) file = some final := by
  obtain ⟨root, hroot, hlinks⟩ := hstored.root
  obtain ⟨final, hfinal⟩ := @write_snapshot_success after "out" snapshot file _
    (File.links?_of_group hroot) (by simp) (by simp [hlinks])
  refine ⟨final, ?_⟩
  rw [append_calls, exec_cons, Call.apply, File.group?_eq_some.mpr hroot, Option.map_some, Option.bind_some]
  exact exec_append_eq_some.mpr ⟨final, hfinal, rfl⟩

/-- A fault at one of the calls makes an append fail after the calls before it. -/
theorem append_calls_fault (hstored : DumpStored machine dump file) {after : CaptureMachine}
    {system : DumpSystem} {output : KernelOutput} {position : Nat}
    (hposition : position < (append_calls after output.output_snapshot).length) :
    (append_kernel_output after system (some position) output file).1.ok = false ∧
      exec ((write_snapshot after "out" output.output_snapshot).take (position - 1)) file =
        some (append_kernel_output after system (some position) output file).2 := by
  obtain ⟨final, hfinal⟩ := append_calls_success hstored after output.output_snapshot
  rw [← List.take_append_drop position (append_calls after output.output_snapshot)] at hfinal
  obtain ⟨partialFile, hpartial, _⟩ := exec_append_eq_some.mp hfinal
  rw [append_kernel_output, run_of_fault hposition hpartial]
  refine ⟨rfl, ?_⟩
  cases position with
  | zero => exact hpartial
  | succ done =>
    have hle : done ≤ (write_snapshot after "out" output.output_snapshot).length :=
      Nat.le_of_lt_succ (by simpa [append_calls] using hposition)
    rw [append_calls, List.take_succ_cons, List.take_append_of_le_length hle, exec_cons] at hpartial
    obtain ⟨opened, hopened, hdone⟩ := Option.bind_eq_some_iff.mp hpartial
    obtain ⟨_, _, rfl⟩ := Option.map_eq_some_iff.mp hopened
    exact hdone

/-- An append which fails leaves the calls before the one which failed. -/
theorem append_calls_failed (hstored : DumpStored machine dump file) {after : CaptureMachine}
    {system : DumpSystem} {output : KernelOutput} {position : Nat}
    (hfailed : (append_kernel_output after system (some position) output file).1.ok = false) :
    exec ((write_snapshot after "out" output.output_snapshot).take (position - 1)) file =
      some (append_kernel_output after system (some position) output file).2 := by
  by_cases hposition : position < (append_calls after output.output_snapshot).length
  · exact (append_calls_fault hstored hposition).2
  · obtain ⟨final, hfinal⟩ := append_calls_success hstored after output.output_snapshot
    rw [append_kernel_output, run_of_late_fault (Nat.not_lt.mp hposition) hfinal] at hfailed
    cases hfailed

/-- The calls around a snapshot of outputs have no effect. -/
theorem exec_append_calls {snapshot : AllocationSnapshot}
    (hexec : exec (append_calls machine snapshot) file = some final) :
    exec (write_snapshot machine "out" snapshot) file = some final := by
  rw [append_calls, exec_cons] at hexec
  obtain ⟨opened, hopened, hexec⟩ := Option.bind_eq_some_iff.mp hexec
  obtain ⟨_, _, rfl⟩ := Option.map_eq_some_iff.mp hopened
  obtain ⟨closed, hclosed, hlast⟩ := exec_append_eq_some.mp hexec
  cases hlast
  exact hclosed

end

end krepe
