import Krepe.RoundTrip.Append
import Krepe.RoundTrip.Host

open std hdf5 outcome

namespace krepe

open impl

section

variable (machine : CaptureMachine) (dump : KernelDump)

/-- The calls for a dump after the file was made and before those for its functor. -/
def leading_calls : List hdf5.Call :=
  write_string_attribute [] "kernel_label" dump.label ++
    (write_uint64_attribute [] "kernel_id" (UInt64.ofNat dump.kernel_id) ++
    (write_uint64_attribute [] "kernel_invocation" (UInt64.ofNat dump.kernel_invocation) ++
    (write_snapshot machine "in" dump.input_snapshot ++ (write_metadata dump.metadata ++
    (policy_calls dump.policy ++ [.handle .H5Gclose])))))

/-- The calls for a functor, which are the last ones. -/
def functor_calls : List hdf5.Call :=
  write_functor dump.functor_data dump.nvcc_inner_lambda_data ++ [.handle .H5Fclose]

/-- A dataset of the functor is there, with its bytes or with zeros as long as they
    were not written. -/
def ReadAs (done : List hdf5.Call) (name : String) (data read : List UInt8) : Prop :=
  hdf5.Call.H5Dcreate2 ["functor"] name .uchar [data.length] ∈ done ∧
    read = if hdf5.Call.H5Dwrite ["functor"] name (.uchar data) ∈ done then data
      else List.replicate data.length 0

/-- After some calls of a dump, what a replayer reads for the functor, and for its inner lambda
    where the workaround is in use. -/
def FunctorReadAs (replay : ReplayMachine) (done : List hdf5.Call)
    (functor : List UInt8 × List UInt8) : Prop :=
  ReadAs done "functor" dump.functor_data functor.1 ∧
    if replay.use_nvcc_hdl_workaround then
      ReadAs done "nvcc_inner_lambda" dump.nvcc_inner_lambda_data functor.2
    else functor.2 = []

/-- A dump makes its file, then all but the functor, then the functor. -/
theorem create_calls_eq :
    create_calls machine dump = .H5Fcreate :: (leading_calls machine dump ++ functor_calls dump) := by
  simp only [create_calls, leading_calls, functor_calls, policy_calls, List.append_assoc, List.cons_append,
    List.nil_append]

theorem only_metadata_entries (metadata : UnorderedMap String String) :
    OnlyAttributes (metadata.entries.flatMap fun entry =>
      write_string_attribute ["metadata"] (c_str entry.1) entry.2) := by
  intro call hcall
  obtain ⟨entry, _, hentry⟩ := List.mem_flatMap.mp hcall
  exact only_write_string_attribute _ _ _ call hentry

theorem below_write_policy (policy : PolicyDesc) : Below ["policy"] (write_policy ["policy"] policy) := by
  have happend : ∀ first second : List hdf5.Call,
      Below ["policy"] (first ++ second) ↔ Below ["policy"] first ∧ Below ["policy"] second :=
    fun _ _ => List.forall_mem_append
  cases policy <;>
    simp only [write_policy, write_no_policy, write_scalar_policy, write_range_policy, write_mdrange_policy,
      write_team_policy, happend, below_write_string_attribute, below_write_uint64_attribute,
      below_write_int_attribute, below_write_dataset, and_self]

/-- The datasets of a policy are in its group. -/
theorem filter_links_write_policy (policy : PolicyDesc) :
    (write_policy ["policy"] policy).filter (links_relevant []) = [] := by
  have hdataset : ∀ name data, (write_dataset ["policy"] name data).filter (links_relevant []) = [] := by
    intro name data
    unfold write_dataset
    split <;> simp [links_relevant]
  cases policy <;>
    simp only [write_policy, write_no_policy, write_scalar_policy, write_range_policy, write_mdrange_policy,
      write_team_policy, List.filter_append, hdataset, (only_write_string_attribute _ _ _).filter_links,
      (only_write_uint64_attribute _ _ _).filter_links, (only_write_int_attribute _ _ _).filter_links,
      List.append_nil]

/-- The groups of a dump are linked one after the other. -/
theorem filter_links_leading_calls :
    (leading_calls machine dump).filter (links_relevant []) =
      [.H5Gcreate2 [] "in", .H5Gcreate2 [] "metadata", .H5Gcreate2 [] "policy"] := by
  have hlink : ∀ name, links_relevant [] (.H5Gcreate2 [] name) = true := by simp [links_relevant]
  have hclose : links_relevant [] (.handle .H5Gclose) = false := rfl
  simp only [leading_calls, write_metadata, policy_calls, List.filter_append, List.filter_cons, hlink, hclose,
    (filter_links_write_snapshot_above machine "in" dump.input_snapshot).2,
    (only_write_string_attribute _ _ _).filter_links, (only_write_uint64_attribute _ _ _).filter_links,
    (only_metadata_entries _).filter_links, filter_links_write_policy, if_true, Bool.false_eq_true, if_false,
    List.filter_nil, List.nil_append, List.append_nil, List.cons_append]

/-- Nothing before the calls for a functor is relevant for its datasets. -/
theorem filter_dataset_leading_calls (name : String) :
    (leading_calls machine dump).filter (dataset_relevant ["functor", name]) = [] := by
  have hclose : dataset_relevant ["functor", name] (.handle .H5Gclose) = false := rfl
  have hgroup : ∀ part, dataset_relevant ["functor", name] (.H5Gcreate2 [] part) = false := by
    simp [dataset_relevant]
  have hinput := filter_relevant_below (dataset_local ["functor", name])
    (below_write_snapshot machine "in" dump.input_snapshot) (by simp) (by simp)
  have hpolicy : (write_policy ["policy"] dump.policy).filter (dataset_relevant ["functor", name]) = [] :=
    filter_relevant_below (dataset_local ["functor", name]) (below_write_policy dump.policy) (by simp) (by simp)
  simp only [leading_calls, write_metadata, policy_calls, List.filter_append, List.filter_cons, hgroup, hclose,
    hinput, hpolicy, (only_write_string_attribute _ _ _).filter_dataset,
    (only_write_uint64_attribute _ _ _).filter_dataset, (only_metadata_entries _).filter_dataset,
    Bool.false_eq_true, if_false, List.filter_nil, List.append_nil]

/-- The calls which make a dataset of the functor and write it. -/
def functor_dataset_calls (name : String) (data : List UInt8) : List hdf5.Call :=
  .H5Dcreate2 ["functor"] name .uchar [data.length] ::
    if data.length = 0 then [] else [.H5Dwrite ["functor"] name (.uchar data)]

theorem filter_dataset_write_dataset (name other : String) (data : List UInt8) :
    (write_dataset ["functor"] other (.uchar data)).filter (dataset_relevant ["functor", name]) =
      if other = name then functor_dataset_calls name data else [] := by
  unfold write_dataset functor_dataset_calls
  by_cases hname : other = name
  · subst hname
    simp only [elements_size, Hdf5Datatype]
    by_cases hempty : data.length = 0 <;> simp only [hempty, if_true, if_false] <;> simp [dataset_relevant]
  · simp only [elements_size, Hdf5Datatype]
    split <;> simp [dataset_relevant, hname]

/-- One of the two datasets of a functor, with the bytes that are written to it. -/
def FunctorDataset (dump : KernelDump) (name : String) (data : List UInt8) : Prop :=
  (name, data) ∈ [("functor", dump.functor_data), ("nvcc_inner_lambda", dump.nvcc_inner_lambda_data)]

/-- Of the calls of a dump, those which a dataset of the functor depends on make the file and
    that dataset. -/
theorem filter_dataset_create_calls {name : String} {data : List UInt8}
    (hdataset : FunctorDataset dump name data) :
    (create_calls machine dump).filter (dataset_relevant ["functor", name]) =
      .H5Fcreate :: functor_dataset_calls name data := by
  have hclose : ∀ call, dataset_relevant ["functor", name] (.handle call) = false := fun _ => rfl
  have hgroup : dataset_relevant ["functor", name] (.H5Gcreate2 [] "functor") = false := by
    simp [dataset_relevant]
  have hcreate : dataset_relevant ["functor", name] .H5Fcreate = true := rfl
  rw [create_calls_eq]
  simp only [functor_calls, write_functor, List.filter_cons, List.filter_append, hcreate, hgroup, hclose,
    filter_dataset_leading_calls, filter_dataset_write_dataset, if_true, Bool.false_eq_true, if_false,
    List.filter_nil, List.nil_append, List.append_nil]
  simp only [FunctorDataset, List.mem_cons, Prod.mk.injEq, List.not_mem_nil, or_false] at hdataset
  rcases hdataset with ⟨rfl, rfl⟩ | ⟨rfl, rfl⟩ <;> simp

end

section

variable {machine : CaptureMachine} {dump : KernelDump} {file left : File} {done : List hdf5.Call}

/-- A dataset of the functor, after some of the calls for a dump. -/
theorem dataset?_of_created {name : String} {data : List UInt8} (hdataset : FunctorDataset dump name data)
    (hdone : .H5Fcreate :: done <+: create_calls machine dump)
    (hexec : exec (.H5Fcreate :: done) file = some left) :
    left.dataset? ["functor", name] =
      if hdf5.Call.H5Dcreate2 ["functor"] name .uchar [data.length] ∈ hdf5.Call.H5Fcreate :: done then
        some ⟨.uchar, [data.length],
          if hdf5.Call.H5Dwrite ["functor"] name (.uchar data) ∈ hdf5.Call.H5Fcreate :: done then
            some (.uchar data)
          else none⟩
      else none := by
  have hobserved := (dataset_observation ["functor", name]).of_exec hexec
  have hordered := hdone.filter (dataset_relevant ["functor", name])
  rw [filter_dataset_create_calls machine dump hdataset, functor_dataset_calls] at hordered
  have hcreate := @mem_filter_iff (dataset_relevant ["functor", name])
    (.H5Dcreate2 ["functor"] name .uchar [data.length]) (by simp [dataset_relevant]) (.H5Fcreate :: done)
  have hwrite := @mem_filter_iff (dataset_relevant ["functor", name])
    (.H5Dwrite ["functor"] name (.uchar data)) (by simp [dataset_relevant]) (.H5Fcreate :: done)
  simp only [dataset_observation] at hobserved
  rw [hobserved]
  simp only [← hwrite, ← hcreate]
  have hfirst : (hdf5.Call.H5Fcreate :: done).filter (dataset_relevant ["functor", name]) =
      .H5Fcreate :: done.filter (dataset_relevant ["functor", name]) := rfl
  rw [hfirst] at hordered ⊢
  rw [List.cons_prefix_cons] at hordered
  split at hordered
  · simp only [List.prefix_cons_iff, List.prefix_nil] at hordered
    rcases hordered.2 with heq | ⟨_, heq, rfl⟩ <;> simp [heq, dataset_effect]
  · simp only [List.prefix_cons_iff, List.prefix_nil] at hordered
    rcases hordered.2 with heq | ⟨_, heq, rfl | ⟨_, rfl, rfl⟩⟩ <;> simp [heq, dataset_effect]

/-- An array of the functor is read once its dataset is there. -/
theorem read_functor_array_of_created {name : String} {data read : List UInt8}
    (hdataset : FunctorDataset dump name data)
    (hdone : .H5Fcreate :: done <+: create_calls machine dump)
    (hexec : exec (.H5Fcreate :: done) file = some left) (expr : String) :
    read_functor_array left ["functor", name] expr = .ok read ↔ ReadAs (.H5Fcreate :: done) name data read := by
  rw [read_functor_array, open_uchar_dataset, dataset?_of_created hdataset hdone hexec, ReadAs]
  by_cases hcreate : hdf5.Call.H5Dcreate2 ["functor"] name .uchar [data.length] ∈ hdf5.Call.H5Fcreate :: done
  · by_cases hwrite : hdf5.Call.H5Dwrite ["functor"] name (.uchar data) ∈ hdf5.Call.H5Fcreate :: done
    · simp [hcreate, hwrite, bind, Except.bind, pure, Except.pure, read_uchar, Dataset.read_uchar,
        eq_comm (a := read)]
    · simp [hcreate, hwrite, bind, Except.bind, pure, Except.pure, read_uchar, Dataset.read_uchar, extent,
        eq_comm (a := read)]
  · simp only [hcreate, if_false, false_and, iff_false]
    intro hread
    cases hread

theorem filter_links_functor_calls (dump : KernelDump) :
    (functor_calls dump).filter (links_relevant []) = [.H5Gcreate2 [] "functor"] := by
  have hdataset : ∀ name data, (write_dataset ["functor"] name data).filter (links_relevant []) = [] := by
    intro name data
    unfold write_dataset
    split <;> simp [links_relevant]
  have hlink : links_relevant [] (.H5Gcreate2 [] "functor") = true := by simp [links_relevant]
  have hclose : ∀ call, links_relevant [] (.handle call) = false := fun _ => rfl
  simp only [functor_calls, write_functor, List.filter_append, List.filter_cons, hlink, hclose, hdataset,
    if_true, Bool.false_eq_true, if_false, List.filter_nil, List.append_nil]

theorem below_functor_calls (dump : KernelDump) : Below ["functor"] (functor_calls dump) := by
  refine Below.append (Below.cons (by simp [Call.target]) ?_) (below_handle _ _)
  exact ((below_write_dataset _ _ _).append (below_write_dataset _ _ _)).append (below_handle _ _)

/-- Once there is a dataset for the functor, all that stands before its group was done. -/
theorem leading_of_functor (hdone : .H5Fcreate :: done <+: create_calls machine dump)
    (hcreated : hdf5.Call.H5Dcreate2 ["functor"] "functor" .uchar [dump.functor_data.length] ∈
      hdf5.Call.H5Fcreate :: done) :
    ∃ begun, begun <+: functor_calls dump ∧ done = leading_calls machine dump ++ begun := by
  rw [create_calls_eq, List.cons_prefix_cons] at hdone
  rcases List.prefix_or_prefix_of_prefix hdone.2 (List.prefix_append (leading_calls machine dump) _)
    with hshort | ⟨begun, rfl⟩
  · have hleading := hshort.subset ((List.mem_cons.mp hcreated).resolve_left (by simp))
    have hrelevant := (mem_filter_iff (by simp [dataset_relevant] : dataset_relevant ["functor", "functor"]
      (.H5Dcreate2 ["functor"] "functor" .uchar [dump.functor_data.length]) = true) _).mpr hleading
    rw [filter_dataset_leading_calls] at hrelevant
    cases hrelevant
  · exact ⟨begun, (List.prefix_append_right_inj _).mp hdone.2, rfl⟩

/-- With a dataset for the functor there are all the parts but the functor, and no outputs. -/
theorem completed_of_functor (hdone : .H5Fcreate :: done <+: create_calls machine dump)
    (hexec : exec (.H5Fcreate :: done) file = some left)
    (hcreated : hdf5.Call.H5Dcreate2 ["functor"] "functor" .uchar [dump.functor_data.length] ∈
      hdf5.Call.H5Fcreate :: done) :
    ∃ complete, exec (create_calls machine dump) file = some complete ∧
      (∀ path, path ≠ [] → ¬ ["functor"] <+: path → left path = complete path) ∧
      ScopeGuard.has_output left = .ok false := by
  obtain ⟨begun, hbegun, rfl⟩ := leading_of_functor hdone hcreated
  have hlinks := (links_observation []).of_exec hexec
  rw [← List.cons_append] at hexec
  obtain ⟨bounded, hbounded, hleft⟩ := exec_append_eq_some.mp hexec
  have hroot := (links_observation []).of_exec hbounded
  have hcreate : (hdf5.Call.H5Fcreate :: leading_calls machine dump).filter (links_relevant []) =
      [.H5Fcreate, .H5Gcreate2 [] "in", .H5Gcreate2 [] "metadata", .H5Gcreate2 [] "policy"] :=
    congrArg (List.cons _) (filter_links_leading_calls machine dump)
  have hfold : ∀ old, [hdf5.Call.H5Fcreate, .H5Gcreate2 [] "in", .H5Gcreate2 [] "metadata",
      .H5Gcreate2 [] "policy"].foldl (links_effect []) old = some ["in", "metadata", "policy"] := by
    simp [links_effect]
  simp only [links_observation, hcreate, hfold] at hroot
  obtain ⟨root, hgroup, hnames⟩ := Option.map_eq_some_iff.mp hroot
  obtain ⟨complete, hfunctor, -, -, -, -⟩ := write_functor_stored dump.functor_data dump.nvcc_inner_lambda_data
    (File.group?_eq_some.mp hgroup) (by simp [hnames])
  have hrest : exec (functor_calls dump) bounded = some complete := by
    rw [functor_calls, exec_append, hfunctor, Option.bind_some, exec_handle, exec_nil]
  refine ⟨complete, ?_, fun path hpath hother => ?_, ?_⟩
  · rw [create_calls_eq, ← List.cons_append]
    exact exec_append_eq_some.mpr ⟨bounded, hbounded, hrest⟩
  · have hbelow := below_functor_calls dump
    rw [exec_below_frame (hbelow.subset hbegun.subset) hleft hother (by simpa using hpath),
      exec_below_frame hbelow hrest hother (by simpa using hpath)]
  · have hordered := filter_links_functor_calls dump ▸ hbegun.filter (links_relevant [])
    simp only [links_observation, ← List.cons_append, List.filter_append, hcreate, List.foldl_append, hfold]
      at hlinks
    rcases List.prefix_cons_iff.mp hordered with hnone | ⟨made, hmade, hempty⟩
    · rw [hnone, List.foldl_nil] at hlinks
      exact has_output_of_links hlinks (by simp)
    · rw [hmade, List.prefix_nil.mp hempty] at hlinks
      exact has_output_of_links (hlinks.trans (by simp [links_effect] : _ =
        some ["in", "metadata", "policy", "functor"])) (by simp)

/-- What is read of the functor depends on the calls for its two datasets. -/
theorem read_functor_of_created {replay : ReplayMachine} {functor : List UInt8 × List UInt8}
    (hdone : .H5Fcreate :: done <+: create_calls machine dump)
    (hexec : exec (.H5Fcreate :: done) file = some left) :
    read_functor_from_hdf5 replay left = .ok functor ↔ FunctorReadAs dump replay (.H5Fcreate :: done) functor := by
  have hdata : ∀ {read}, _ ↔ ReadAs (.H5Fcreate :: done) "functor" dump.functor_data read :=
    read_functor_array_of_created (by simp [FunctorDataset]) hdone hexec
      "H5LTget_dataset_ndims(file, \"functor/functor\", &rank)"
  have hinner : ∀ {read}, _ ↔ ReadAs (.H5Fcreate :: done) "nvcc_inner_lambda" dump.nvcc_inner_lambda_data read :=
    read_functor_array_of_created (by simp [FunctorDataset]) hdone hexec
      "H5LTget_dataset_ndims(file, \"functor/nvcc_inner_lambda\", &rank)"
  obtain ⟨functor_data, nvcc_inner_lambda_data⟩ := functor
  rw [read_functor_from_hdf5, FunctorReadAs, ← hdata, bind_eq_ok]
  cases replay.use_nvcc_hdl_workaround with
  | false => simp [pure, Except.pure, eq_comm]
  | true =>
    simp only [if_true, ← hinner, bind_eq_ok]
    simp [pure, Except.pure]

/-- Inputs are not loaded without a functor. -/
theorem functor_of_load_input {replay : ReplayMachine} {guard : ScopeGuard}
    (hload : ScopeGuard.load_input replay file = .ok guard) :
    ∃ functor, read_functor_from_hdf5 replay file = .ok functor := by
  simp only [ScopeGuard.load_input, bind_eq_ok] at hload
  obtain ⟨_, _, _, _, _, _, _, _, _, _, functor, hfunctor, _⟩ := hload
  exact ⟨functor, hfunctor⟩

/-- A file which differs in the functor only is loaded with that functor. -/
theorem load_input_of_rest {replay : ReplayMachine} {complete : File} {guard : ScopeGuard}
    (hsame : ∀ path, path ≠ [] → ¬ ["functor"] <+: path → left path = complete path)
    (hfunctor : ∃ functor, read_functor_from_hdf5 replay complete = .ok functor) :
    ScopeGuard.load_input replay left = .ok guard ↔
      ∃ original functor, ScopeGuard.load_input replay complete = .ok original ∧
        read_functor_from_hdf5 replay left = .ok functor ∧
        guard = { original with functor_data := functor.1, nvcc_inner_lambda_data := functor.2 } := by
  have hviews : ∀ path, ScopeGuard.in_views <+: path → left path = complete path := by
    rintro path ⟨rest, rfl⟩
    exact hsame _ (by simp [ScopeGuard.in_views]) (by simp [ScopeGuard.in_views])
  have hgroup := hviews ScopeGuard.in_views (List.prefix_refl _)
  have hpolicy := read_policy_from_hdf5_congr replay.build (hsame policy_path (by simp [policy_path])
    (by simp [policy_path])) fun name => hsame _ (by simp) (by simp)
  have hreserve : ∀ memory_space callback allocation_locs guard,
      ScopeGuard.reserve replay left memory_space callback allocation_locs guard =
        ScopeGuard.reserve replay complete memory_space callback allocation_locs guard := by
    intro memory_space callback allocation_locs guard
    rw [ScopeGuard.reserve, ScopeGuard.reserve, literate_congr hgroup,
      get_hdf5_dataset_alloc_info_congr hviews]
  simp only [ScopeGuard.load_input, hreserve, literate_congr hgroup, allocate_hdf5_dataset_congr hviews,
    read_metadata_congr (hsame ["metadata"] (by simp) (by simp)), hpolicy, bind_eq_ok]
  obtain ⟨stored, hstored⟩ := hfunctor
  constructor
  · rintro ⟨reserved, hhost, init, hinit, mapped, hdevice, copied, hcopied, metadata, hmetadata, functor, hread,
      policy, hpolicyRead, hguard⟩
    refine ⟨_, functor, ⟨reserved, hhost, init, hinit, mapped, hdevice, copied, hcopied, metadata, hmetadata,
      stored, hstored, policy, hpolicyRead, rfl⟩, hread, ?_⟩
    exact (Except.ok.inj hguard).symm
  · rintro ⟨original, functor, ⟨reserved, hhost, init, hinit, mapped, hdevice, copied, hcopied, metadata,
      hmetadata, other, _, policy, hpolicyRead, horiginal⟩, hread, rfl⟩
    obtain rfl := Except.ok.inj horiginal
    exact ⟨reserved, hhost, init, hinit, mapped, hdevice, copied, hcopied, metadata, hmetadata, functor, hread,
      policy, hpolicyRead, rfl⟩

/-- A part of a dump is loaded once there is a dataset for its functor, like the whole dump
    but for the bytes of the functor which were not written. -/
theorem load_of_created {replay : ReplayMachine} (hdone : .H5Fcreate :: done <+: create_calls machine dump)
    (hexec : exec (.H5Fcreate :: done) file = some left) (guard : ScopeGuard) :
    ScopeGuard.load replay left = .ok guard ↔
      ∃ complete original functor, exec (create_calls machine dump) file = some complete ∧
        ScopeGuard.load replay complete = .ok original ∧
        FunctorReadAs dump replay (.H5Fcreate :: done) functor ∧
        guard = { original with functor_data := functor.1, nvcc_inner_lambda_data := functor.2 } := by
  have hread := @read_functor_of_created machine dump file left done replay
  constructor
  · intro hload
    obtain ⟨loaded, hinput, houtput⟩ := bind_eq_ok.mp hload
    have hcreated := (hread hdone hexec).mp (functor_of_load_input hinput).choose_spec
    obtain ⟨complete, hcomplete, hsame, hnone⟩ := completed_of_functor hdone hexec hcreated.1.1
    have hstored := DumpStored.of_exec hcomplete
    rw [load_output_of_none hnone, Except.ok.injEq] at houtput
    obtain ⟨original, functor, horiginal, hfunctor, rfl⟩ :=
      (load_input_of_rest hsame ⟨_, hstored.read_functor replay⟩).mp hinput
    exact ⟨complete, original, functor, hcomplete, (hstored.load replay).trans horiginal,
      (hread hdone hexec).mp hfunctor, houtput.symm⟩
  · rintro ⟨complete, original, functor, hcomplete, horiginal, hreadAs, rfl⟩
    obtain ⟨other, hother, hsame, hnone⟩ := completed_of_functor hdone hexec hreadAs.1.1
    obtain rfl := Option.some.inj (hcomplete.symm.trans hother)
    have hstored := DumpStored.of_exec hcomplete
    rw [hstored.load] at horiginal
    refine bind_eq_ok.mpr ⟨_, (load_input_of_rest hsame ⟨_, hstored.read_functor replay⟩).mpr
      ⟨original, functor, horiginal, (hread hdone hexec).mpr hreadAs, rfl⟩, ?_⟩
    exact load_output_of_none hnone _

/-- If the creation of a dump reports a failure, whichever call failed, either the file is what
    it was before, or it is what the calls before the failed one made. In the second case a
    replayer loads it if and only if it would load the complete dump and every part it takes is
    there, except that bytes of the functor which were not written read as zeros; what it then
    has differs from the complete dump in nothing else. -/
theorem failed_create_loads {system : DumpSystem} {fault : Option Nat} {replay : ReplayMachine}
    (hfailed : (create_kernel_dump machine system fault dump file).1.ok = false) :
    (create_kernel_dump machine system fault dump file).2 = file ∨
      ∃ done failed rest, create_calls machine dump = done ++ failed :: rest ∧
        exec done file = some (create_kernel_dump machine system fault dump file).2 ∧
        ∀ guard, ScopeGuard.load replay (create_kernel_dump machine system fault dump file).2 = .ok guard ↔
          ∃ complete original functor, exec (create_calls machine dump) file = some complete ∧
            ScopeGuard.load replay complete = .ok original ∧ FunctorReadAs dump replay done functor ∧
            guard = { original with functor_data := functor.1, nvcc_inner_lambda_data := functor.2 } := by
  unfold create_kernel_dump at hfailed ⊢
  cases hpath : system.absolute (dump_filename dump.label dump.kernel_id) with
  | error message =>
    simp only [hpath]
    exact Or.inl trivial
  | ok dump_path =>
    simp only [hpath] at hfailed ⊢
    obtain ⟨hrun, hfile⟩ := dump_result_failed system hfailed
    rw [hfile]
    obtain ⟨done, failed, rest, hcalls, hexec⟩ := exec_of_run_failed hrun
    cases done with
    | nil => exact Or.inl (Option.some.inj hexec).symm
    | cons first done =>
      have hfirst := hcalls
      rw [create_calls, List.cons_append, List.cons.injEq] at hfirst
      obtain rfl := hfirst.1
      exact Or.inr ⟨_, failed, rest, hcalls, hexec, load_of_created (hcalls ▸ List.prefix_append _ _) hexec⟩

end

/-- The fault comes when the bytes of a functor are written, so that two zeros are loaded for
    them. -/
theorem failed_create_loads_example :
    let capture := host_capture fun _ => 7
    let dump := { plain_dump [] with functor_data := [1, 2] }
    let left := (create_kernel_dump capture plain_system (some 50) dump no_file).2
    left = no_file ∨
      ∃ done failed rest, create_calls capture dump = done ++ failed :: rest ∧ exec done no_file = some left ∧
        ∀ guard, ScopeGuard.load host_replay left = .ok guard ↔
          ∃ complete original functor, exec (create_calls capture dump) no_file = some complete ∧
            ScopeGuard.load host_replay complete = .ok original ∧ FunctorReadAs dump host_replay done functor ∧
            guard = { original with functor_data := functor.1, nvcc_inner_lambda_data := functor.2 } :=
  failed_create_loads (by decide)

end krepe
