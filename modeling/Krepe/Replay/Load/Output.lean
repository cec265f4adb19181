import Krepe.Replay.Load.Copy

open std hdf5 outcome

namespace krepe.impl

/-- What the group of one allocation tells the replayer when it looks for outputs. -/
inductive Output where
  | missing
  | skipped
  | dumped (entry : Entry)

/-- The group at a path says what the output says. -/
def ReadsOutput (file : File) (object : Path) : Output → Prop
  | .missing =>
    get_hdf5_int_attribute file object "bytes_dumped" = .error (check_failure H5Aopen_by_name)
  | .skipped => get_hdf5_int_attribute file object "bytes_dumped" = .ok 0
  | .dumped entry => (∃ bytes_dumped, bytes_dumped ≠ 0 ∧
      get_hdf5_int_attribute file object "bytes_dumped" = .ok bytes_dumped) ∧ Reads file object entry

/-- The groups of the output, in the order in which the library visits them, say what the
    outputs say. -/
def VisitsOutputs (machine : ReplayMachine) (file : File) (outputs : List Output) : Prop :=
  ∃ node, file ScopeGuard.out_views = some (.group node) ∧
    List.Forall₂ (fun name output => ReadsOutput file (ScopeGuard.out_views ++ [name]) output)
      (machine.iteration_order node.links) outputs

variable (machine : ReplayMachine)

/-- An output which does not stop the pass over the outputs. -/
def Output.Allocatable : Output → Prop
  | .missing => False
  | .skipped => True
  | .dumped entry => (∃ bytes, entry.bytes = some bytes ∧ Readable bytes.length) ∧
      (entry.memory_space = .DEVICE → machine.has_device_space = true)

/-- The entries which are dumped. -/
def dumped_entries (outputs : List Output) : List Entry :=
  outputs.filterMap fun output =>
    match output with
    | .dumped entry => some entry
    | _ => none

/-- The guard with the label of an output, and its bytes if there are any. -/
def allocate_entry (guard : ScopeGuard) (entry : Entry) : ScopeGuard :=
  let space := entry.memory_space
  let labels := insert entry.label (guard.output_labels space)
  let guard := { guard with output_labels := Function.update guard.output_labels space labels }
  if entry.data = [] then guard
  else
    let entries := (guard.output_allocations space).insert entry.label entry.data
    { guard with output_allocations := Function.update guard.output_allocations space entries }

/-- The guard with the outputs of several entries, in their order. -/
def allocate_entries (guard : ScopeGuard) (entries : List Entry) : ScopeGuard :=
  entries.foldl allocate_entry guard

section

variable (guard : ScopeGuard) (entries : List Entry)

theorem allocate_entries_append (entry : Entry) :
    allocate_entries guard (entries ++ [entry]) = allocate_entry (allocate_entries guard entries) entry := by
  rw [allocate_entries, allocate_entries, List.foldl_append, List.foldl_cons, List.foldl_nil]

/-- An output is known by its label in its memory space. -/
theorem allocate_entry_labels (entry : Entry) (memory_space : MemorySpaceType) (label : String) :
    label ∈ (allocate_entry guard entry).output_labels memory_space ↔
      (entry.memory_space = memory_space ∧ entry.label = label) ∨
        label ∈ guard.output_labels memory_space := by
  have hlabels : (allocate_entry guard entry).output_labels = Function.update guard.output_labels
      entry.memory_space (insert entry.label (guard.output_labels entry.memory_space)) := by
    unfold allocate_entry
    split <;> rfl
  rw [hlabels]
  by_cases hspace : memory_space = entry.memory_space
  · subst hspace
    simp [eq_comm]
  · simp [hspace, Ne.symm hspace]

/-- There is an output for every label of a dumped entry. -/
theorem allocate_entries_labels (memory_space : MemorySpaceType) (label : String) :
    label ∈ (allocate_entries guard entries).output_labels memory_space ↔
      (∃ entry ∈ entries, entry.memory_space = memory_space ∧ entry.label = label) ∨
        label ∈ guard.output_labels memory_space := by
  induction entries using List.reverseRecOn with
  | nil => simp [allocate_entries]
  | append_singleton entries entry ih =>
    rw [allocate_entries_append, allocate_entry_labels, ih]
    simp only [List.mem_append, List.mem_singleton, or_and_right, exists_or, exists_eq_left]
    rw [or_left_comm, or_assoc]

/-- An output with bytes is found under its label, an empty one leaves what was there. -/
theorem allocate_entry_lookup (entry : Entry) (memory_space : MemorySpaceType) (label : String) :
    ((allocate_entry guard entry).output_allocations memory_space).lookup label =
      if (entry.memory_space = memory_space ∧ entry.label = label) ∧ entry.data ≠ [] then
        some entry.data
      else (guard.output_allocations memory_space).lookup label := by
  unfold allocate_entry
  by_cases hempty : entry.data = []
  · simp [hempty]
  · by_cases hspace : memory_space = entry.memory_space
    · subst hspace
      by_cases hlabel : entry.label = label
      · subst hlabel
        simp [hempty]
      · simp [hempty, hlabel, AList.lookup_insert_ne (Ne.symm hlabel)]
    · simp [hempty, hspace, Ne.symm hspace]

/-- The table has the last entry of each label which is not empty. -/
theorem allocate_entries_lookup (memory_space : MemorySpaceType) (label : String) :
    ((allocate_entries guard entries).output_allocations memory_space).lookup label =
      ((last_entry memory_space label (entries.filter fun entry => entry.data ≠ [])).map Entry.data).or
        ((guard.output_allocations memory_space).lookup label) := by
  induction entries using List.reverseRecOn with
  | nil => rfl
  | append_singleton entries entry ih =>
    rw [allocate_entries_append, allocate_entry_lookup, ih, List.filter_append]
    by_cases hempty : entry.data = []
    · simp [hempty]
    · have hlast : [entry].filter (fun entry => entry.data ≠ []) = [entry] := by simp [hempty]
      rw [hlast, last_entry_append]
      by_cases hkey : entry.memory_space = memory_space ∧ entry.label = label <;> simp [hkey, hempty]

theorem allocate_entries_rest :
    allocate_entries guard entries = { guard with
      output_labels := (allocate_entries guard entries).output_labels
      output_allocations := (allocate_entries guard entries).output_allocations } := by
  induction entries using List.reverseRecOn with
  | nil => rfl
  | append_singleton entries entry ih =>
    have hstep : ∀ guard, allocate_entry guard entry = { guard with
        output_labels := (allocate_entry guard entry).output_labels
        output_allocations := (allocate_entry guard entry).output_allocations } := by
      intro guard
      unfold allocate_entry
      split <;> rfl
    rw [allocate_entries_append, hstep, ih]

end

variable {machine} {E : Failure → Prop}

theorem allocate_output_ends {guard : ScopeGuard} {entry : Entry}
    (hdevice : ¬ (entry.memory_space = .DEVICE → machine.has_device_space = true) →
      ∀ failure, E failure)
    (hallocate : ∀ memory_space size failure,
      machine.regular_allocate_error memory_space size = some failure → E failure) :
    Ends E (fun result => (entry.memory_space = .DEVICE → machine.has_device_space = true) ∧
        result = allocate_entry guard entry)
      (guard.allocate_output machine entry.label entry.space entry.data) := by
  have hspace : memory_space_type_from_string entry.space = entry.memory_space := rfl
  unfold ScopeGuard.allocate_output allocate_entry
  simp only [hspace]
  by_cases hno : entry.memory_space = .DEVICE ∧ !machine.has_device_space
  · rw [if_pos hno]
    refine hdevice (fun hgood => ?_) _
    simp [hgood hno.1] at hno
  · rw [if_neg hno]
    have hhas : entry.memory_space = .DEVICE → machine.has_device_space = true := fun htype => by
      simpa [htype] using hno
    by_cases hempty : entry.data = []
    · simp only [hempty, List.length_nil, if_true]
      exact ⟨hhas, rfl⟩
    · have hlength : entry.data.length ≠ 0 := fun hzero => hempty (List.length_eq_zero_iff.mp hzero)
      simp only [hempty, hlength, if_false]
      cases herror : machine.regular_allocate_error entry.memory_space entry.data.length with
      | some failure => exact hallocate _ _ _ herror
      | none => exact ⟨hhas, rfl⟩

/-- The pass sees no more of a group than its output. -/
theorem output_step_ends {file : File} {name : String} {output : Output}
    (hreads : ReadsOutput file (ScopeGuard.out_views ++ [name]) output) {guard : ScopeGuard}
    (hE : ¬ output.Allocatable machine → ∀ failure, E failure)
    (hbuffer : ∀ memory_space size, size < 2 ^ 31 → machine.host_buffer memory_space size = none →
      E .bad_alloc)
    (hallocate : ∀ memory_space size failure,
      machine.regular_allocate_error memory_space size = some failure → E failure) :
    Ends E (fun result => output.Allocatable machine ∧
        result = allocate_entries guard (dumped_entries [output]))
      (allocate_hdf5_output_dataset machine file ScopeGuard.out_views
        (fun label memory_space _ data guard => guard.allocate_output machine label memory_space data)
        name guard) := by
  unfold allocate_hdf5_output_dataset
  cases output with
  | missing =>
    have hmissing : get_hdf5_int_attribute file (ScopeGuard.out_views ++ [name]) "bytes_dumped" =
        .error (check_failure H5Aopen_by_name) := hreads
    rw [hmissing]
    exact hE (fun hgood => hgood) _
  | skipped =>
    have hskipped : get_hdf5_int_attribute file (ScopeGuard.out_views ++ [name]) "bytes_dumped" = .ok 0 :=
      hreads
    rw [hskipped]
    exact ⟨trivial, rfl⟩
  | dumped entry =>
    obtain ⟨⟨bytes_dumped, hflag, hattr⟩, hentry⟩ := hreads
    rw [hattr]
    change Ends E _ (if bytes_dumped = 0 then _ else _)
    rw [if_neg hflag, allocate_hdf5_dataset_of_reads machine hentry]
    by_cases hreadable : ∃ bytes, entry.bytes = some bytes ∧ Readable bytes.length
    · obtain ⟨bytes, hbytes, hsize⟩ := hreadable
      refine (Entry.stage_ends machine hbytes hsize (hbuffer _)).bind fun staged hstaged => ?_
      subst hstaged
      refine (allocate_output_ends (fun hbad => hE fun hgood => hbad hgood.2) hallocate).mono ?_
        fun _ hfailure => hfailure
      rintro result ⟨hdevice, rfl⟩
      exact ⟨⟨⟨bytes, hbytes, hsize⟩, hdevice⟩, rfl⟩
    · have hall := hE fun hgood => hreadable hgood.1
      cases hresult : entry.stage machine with
      | error failure => exact hall failure
      | ok staged => exact absurd (Entry.stage_eq_ok machine hresult).1 hreadable

/-- The pass over the outputs allocates the dumped ones, unless one of them stops it. -/
theorem output_pass_ends {file : File} {outputs : List Output} (guard : ScopeGuard) (expr : String)
    (hvisits : VisitsOutputs machine file outputs)
    (hE : (∃ output ∈ outputs, ¬ output.Allocatable machine) → ∀ failure, E failure)
    (hbuffer : ∀ memory_space size, size < 2 ^ 31 → machine.host_buffer memory_space size = none →
      E .bad_alloc)
    (hallocate : ∀ memory_space size failure,
      machine.regular_allocate_error memory_space size = some failure → E failure) :
    Ends E (fun result => (∀ output ∈ outputs, output.Allocatable machine) ∧
        result = allocate_entries guard (dumped_entries outputs))
      (literate machine file ScopeGuard.out_views expr
        (allocate_hdf5_output_dataset machine file ScopeGuard.out_views
          fun label memory_space _ data guard =>
            guard.allocate_output machine label memory_space data) guard) := by
  obtain ⟨node, hnode, hreads⟩ := hvisits
  simp only [literate, File.group?_eq_some.mpr hnode]
  refine @ends_foldlM_of_related _ _ _ _ _ _ (fun visited result =>
    (∀ output ∈ visited, output.Allocatable machine) ∧
      result = allocate_entries guard (dumped_entries visited)) _ _ _ _ hreads ⟨by simp, rfl⟩
    fun visited name output rest state houtputs hread hinv => ?_
  obtain ⟨hall, rfl⟩ := hinv
  have hmem : output ∈ outputs := houtputs ▸ by simp
  refine (output_step_ends hread (fun hbad => hE ⟨output, hmem, hbad⟩) hbuffer hallocate).mono ?_
    fun _ hfailure => hfailure
  rintro result ⟨hgood, rfl⟩
  refine ⟨fun other hother => ?_, ?_⟩
  · rcases List.mem_append.mp hother with hvisited | hlast
    · exact hall other hvisited
    · exact List.mem_singleton.mp hlast ▸ hgood
  · rw [dumped_entries, dumped_entries, dumped_entries, List.filterMap_append, allocate_entries,
      allocate_entries, allocate_entries, List.foldl_append]

/-- The outputs of a file are these: the second part of the constructor allocates the
    dumped ones, unless one of them stops it or there is no memory for it. -/
def LoadsOutputs (machine : ReplayMachine) (file : File) (outputs : List Output) : Prop :=
  ∀ (guard : ScopeGuard) {E : Failure → Prop},
    ((∃ output ∈ outputs, ¬ output.Allocatable machine) → ∀ failure, E failure) →
    (∀ memory_space size, size < 2 ^ 31 → machine.host_buffer memory_space size = none → E .bad_alloc) →
    (∀ memory_space size failure,
      machine.regular_allocate_error memory_space size = some failure → E failure) →
    Ends E (fun result => (∀ output ∈ outputs, output.Allocatable machine) ∧
        result = allocate_entries guard (dumped_entries outputs))
      (ScopeGuard.load_output machine file guard)

variable {file : File} {outputs : List Output}

/-- A file whose outputs are visited is loaded with them. -/
theorem VisitsOutputs.loads (hvisits : VisitsOutputs machine file outputs)
    (houtput : ScopeGuard.has_output file = .ok true) : LoadsOutputs machine file outputs := by
  intro guard E hE hbuffer hallocate
  rw [ScopeGuard.load_output, houtput]
  exact output_pass_ends guard _ hvisits hE hbuffer hallocate

/-- Without a group of outputs the second part of the constructor does nothing. -/
theorem load_output_of_none (houtput : ScopeGuard.has_output file = .ok false)
    (guard : ScopeGuard) : ScopeGuard.load_output machine file guard = .ok guard := by
  rw [ScopeGuard.load_output, houtput]
  rfl

/-- A file without outputs is loaded without any. -/
theorem loads_no_outputs (houtput : ScopeGuard.has_output file = .ok false) :
    LoadsOutputs machine file [] := by
  intro guard E _ _ _
  rw [load_output_of_none houtput]
  exact ⟨fun _ hmem => absurd hmem List.not_mem_nil, rfl⟩

/-- What a guard which was loaded says about the outputs. -/
theorem LoadsOutputs.of_ok (hloads : LoadsOutputs machine file outputs) {guard result : ScopeGuard}
    (hload : ScopeGuard.load_output machine file guard = .ok result) :
    (∀ output ∈ outputs, output.Allocatable machine) ∧
      result = allocate_entries guard (dumped_entries outputs) :=
  (@hloads guard (fun _ => True) (fun _ _ => trivial) (fun _ _ _ _ => trivial)
    fun _ _ _ _ => trivial).of_ok hload

end krepe.impl
