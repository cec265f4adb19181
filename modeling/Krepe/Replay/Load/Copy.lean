import Krepe.Replay.Load.Reserve

open std hdf5 memory outcome

namespace krepe.impl

/-- The last entry with a label in a memory space. -/
def last_entry (memory_space : MemorySpaceType) (label : String) (entries : List Entry) : Option Entry :=
  entries.reverse.find? fun entry => entry.memory_space = memory_space ∧ entry.label = label

/-- The copy which is made for an entry in a memory space, if there is one. -/
def Entry.copy (memory_space : MemorySpaceType) (entry : Entry) : Option (Nat × List UInt8) :=
  if entry.memory_space = memory_space ∧ entry.data ≠ [] then some (entry.address, entry.data) else none

/-- The copies to a memory space, the last one first. -/
def copies (memory_space : MemorySpaceType) (entries : List Entry) : List (Nat × List UInt8) :=
  (entries.filterMap (Entry.copy memory_space)).reverse

theorem last_entry_append (memory_space : MemorySpaceType) (label : String) (entries : List Entry)
    (entry : Entry) :
    last_entry memory_space label (entries ++ [entry]) =
      if entry.memory_space = memory_space ∧ entry.label = label then some entry
      else last_entry memory_space label entries := by
  unfold last_entry
  rw [List.reverse_append, List.reverse_singleton, List.singleton_append, List.find?_cons]
  by_cases hkey : entry.memory_space = memory_space ∧ entry.label = label <;> simp [hkey]

/-- A last entry is one of the entries with its label. -/
theorem last_entry_mem {memory_space : MemorySpaceType} {label : String} {entries : List Entry} {entry : Entry}
    (hlast : last_entry memory_space label entries = some entry) :
    entry ∈ entries ∧ entry.memory_space = memory_space ∧ entry.label = label :=
  ⟨List.mem_reverse.mp (List.mem_of_find?_eq_some hlast), by simpa using List.find?_some hlast⟩

theorem last_entry_isSome {memory_space : MemorySpaceType} {label : String} {entries : List Entry} :
    (last_entry memory_space label entries).isSome ↔
      ∃ entry ∈ entries, entry.memory_space = memory_space ∧ entry.label = label := by
  simp [last_entry]

/-- An entry stays the last one when others are left out. -/
theorem last_entry_filter {memory_space : MemorySpaceType} {label : String} {entries : List Entry}
    {entry : Entry} {kept : Entry → Bool} (hlast : last_entry memory_space label entries = some entry)
    (hkept : kept entry = true) : last_entry memory_space label (entries.filter kept) = some entry := by
  induction entries using List.reverseRecOn with
  | nil => cases hlast
  | append_singleton entries other ih =>
    rw [last_entry_append] at hlast
    rw [List.filter_append]
    by_cases hkey : other.memory_space = memory_space ∧ other.label = label
    · rw [if_pos hkey, Option.some.injEq] at hlast
      subst hlast
      rw [List.filter_cons_of_pos hkept, List.filter_nil, last_entry_append, if_pos hkey]
    · rw [if_neg hkey] at hlast
      cases hother : kept other with
      | true => rw [List.filter_cons_of_pos hother, List.filter_nil, last_entry_append, if_neg hkey, ih hlast]
      | false => rw [List.filter_cons_of_neg (by simp [hother]), List.filter_nil, List.append_nil, ih hlast]

theorem copies_append (memory_space : MemorySpaceType) (entries : List Entry) (entry : Entry) :
    copies memory_space (entries ++ [entry]) =
      (entry.copy memory_space).toList ++ copies memory_space entries := by
  unfold copies
  rw [List.filterMap_append, List.reverse_append]
  cases hcopy : entry.copy memory_space <;> simp [hcopy]

variable (machine : ReplayMachine)

/-- An entry which does not stop the pass that copies the bytes. -/
structure Entry.Copyable (guard : ScopeGuard) (entry : Entry) : Prop where
  readable : ∃ bytes, entry.bytes = some bytes ∧ Readable bytes.length
  device : entry.data ≠ [] → entry.memory_space = .DEVICE → machine.has_device_space = true
  mapped : ∀ offset < entry.data.length,
    (guard.memory entry.memory_space).Mapped (entry.address + offset)

/-- The guard with an entry in its memory. -/
def copy_entry (guard : ScopeGuard) (entry : Entry) : ScopeGuard :=
  if entry.data = [] then guard
  else
    let memory := guard.memory entry.memory_space
    { guard with
      memory := Function.update guard.memory entry.memory_space
        { memory with copies := (entry.address, entry.data) :: memory.copies } }

/-- The guard with an entry in its memory and in its table. -/
def restore_entry (guard : ScopeGuard) (entry : Entry) : ScopeGuard :=
  (copy_entry guard entry).set_allocation machine entry.memory_space entry.label entry.start

variable {machine} {E : Failure → Prop}

/-- An empty entry is registered at null, and nothing is copied. -/
theorem copy_data_wrapper_empty {guard : ScopeGuard} {entry : Entry} (hempty : entry.data = []) :
    guard.copy_data_wrapper machine entry.label entry.space entry.start entry.data =
      .ok (restore_entry machine guard entry) := by
  have hspace : memory_space_type_from_string entry.space = entry.memory_space := rfl
  simp only [ScopeGuard.copy_data_wrapper, hempty, List.length_nil, if_true, restore_entry,
    copy_entry, hspace, Entry.start]
  rfl

/-- An entry which is not empty is copied, unless its memory is not there. -/
theorem copy_data_wrapper_ends {guard : ScopeGuard} {entry : Entry} (hne : entry.data ≠ [])
    (hE : ¬ ((entry.memory_space = .DEVICE → machine.has_device_space = true) ∧
      ∀ offset < entry.data.length, (guard.memory entry.memory_space).Mapped (entry.address + offset)) →
      ∀ failure, E failure) :
    Ends E (fun result => ((entry.memory_space = .DEVICE → machine.has_device_space = true) ∧
        ∀ offset < entry.data.length,
          (guard.memory entry.memory_space).Mapped (entry.address + offset)) ∧
        result = restore_entry machine guard entry)
      (guard.copy_data_wrapper machine entry.label entry.space entry.start entry.data) := by
  have hspace : memory_space_type_from_string entry.space = entry.memory_space := rfl
  have hstart : entry.start = entry.address := if_neg hne
  have hlength : entry.data.length ≠ 0 := fun hzero => hne (List.length_eq_zero_iff.mp hzero)
  simp only [ScopeGuard.copy_data_wrapper, hspace, hlength, if_false, hstart]
  rw [copy_data]
  by_cases hdevice : entry.memory_space = .DEVICE ∧ !machine.has_device_space
  · rw [if_pos hdevice]
    refine hE (fun hgood => ?_) _
    have hhas := hgood.1 hdevice.1
    simp [hhas] at hdevice
  · rw [if_neg hdevice]
    cases hwrite : (guard.memory entry.memory_space).write entry.address entry.data with
    | none =>
      refine hE (fun hgood => ?_) _
      rw [Memory.write_eq_some.mpr ⟨hgood.2, rfl⟩] at hwrite
      cases hwrite
    | some next =>
      obtain ⟨hmapped, rfl⟩ := Memory.write_eq_some.mp hwrite
      refine ⟨⟨fun htype => by simpa [htype] using hdevice, hmapped⟩, ?_⟩
      rw [restore_entry, copy_entry, if_neg hne, hstart]

/-- One step of the pass restores an entry, or its entry stops the pass. -/
theorem restore_step_ends {guard : ScopeGuard} {entry : Entry}
    (hE : ¬ entry.Copyable machine guard → ∀ failure, E failure)
    (hbuffer : ∀ memory_space size, size < 2 ^ 31 → machine.host_buffer memory_space size = none →
      E .bad_alloc) :
    Ends E (fun result => entry.Copyable machine guard ∧ result = restore_entry machine guard entry)
      (entry.stage machine >>= fun staged =>
        guard.copy_data_wrapper machine entry.label entry.space staged.1 staged.2) := by
  by_cases hreadable : ∃ bytes, entry.bytes = some bytes ∧ Readable bytes.length
  · obtain ⟨bytes, hbytes, hsize⟩ := hreadable
    refine (Entry.stage_ends machine hbytes hsize (hbuffer _)).bind fun staged hstaged => ?_
    subst hstaged
    by_cases hempty : entry.data = []
    · dsimp only
      rw [copy_data_wrapper_empty hempty]
      exact ⟨⟨⟨bytes, hbytes, hsize⟩, fun hne => absurd hempty hne, by simp [hempty]⟩, rfl⟩
    · refine (copy_data_wrapper_ends hempty fun hbad => hE fun hcopyable =>
        hbad ⟨hcopyable.device hempty, hcopyable.mapped⟩).mono ?_ fun _ hfailure => hfailure
      rintro result ⟨⟨hdevice, hmapped⟩, rfl⟩
      exact ⟨⟨⟨bytes, hbytes, hsize⟩, fun _ => hdevice, hmapped⟩, rfl⟩
  · have hall := hE fun hcopyable => hreadable hcopyable.readable
    cases hresult : entry.stage machine with
    | error failure => exact hall failure
    | ok staged => exact absurd (Entry.stage_eq_ok machine hresult).1 hreadable

section

variable (guard : ScopeGuard) (entries : List Entry)

/-- The guard with all the entries restored, one after the other. -/
def restore_entries (machine : ReplayMachine) : ScopeGuard := entries.foldl (restore_entry machine) guard

theorem restore_entries_append (entry : Entry) :
    restore_entries guard (entries ++ [entry]) machine =
      restore_entry machine (restore_entries guard entries machine) entry := by
  rw [restore_entries, restore_entries, List.foldl_append, List.foldl_cons, List.foldl_nil]

theorem restore_entry_memory (entry : Entry) (memory_space : MemorySpaceType) :
    (restore_entry machine guard entry).memory memory_space = { guard.memory memory_space with
      copies := (entry.copy memory_space).toList ++ (guard.memory memory_space).copies } := by
  rw [restore_entry, ScopeGuard.set_allocation_rest, copy_entry]
  by_cases hempty : entry.data = []
  · simp [hempty, Entry.copy]
  · by_cases hspace : memory_space = entry.memory_space
    · subst hspace
      simp [hempty, Entry.copy]
    · simp [hempty, Entry.copy, hspace, Ne.symm hspace]

/-- The restored memory has the copies of the entries, the last one on top. -/
theorem restore_entries_memory (memory_space : MemorySpaceType) :
    (restore_entries guard entries machine).memory memory_space = { guard.memory memory_space with
      copies := copies memory_space entries ++ (guard.memory memory_space).copies } := by
  induction entries using List.reverseRecOn with
  | nil => rfl
  | append_singleton entries entry ih =>
    rw [restore_entries_append, restore_entry_memory, ih, copies_append, List.append_assoc]

/-- The table has the last entry of each label. -/
theorem restore_entries_allocations {memory_space : MemorySpaceType}
    (hdevice : memory_space = .DEVICE → machine.has_device_space = true) (label : String) :
    ((restore_entries guard entries machine).allocations memory_space).lookup label =
      ((last_entry memory_space label entries).map Entry.start).or
        ((guard.allocations memory_space).lookup label) := by
  induction entries using List.reverseRecOn with
  | nil => rfl
  | append_singleton entries entry ih =>
    have hcopied : ∀ guard, (copy_entry guard entry).allocations = guard.allocations := by
      intro guard
      rw [copy_entry]
      split <;> rfl
    rw [restore_entries_append, restore_entry, ScopeGuard.set_allocation_lookup hdevice, hcopied, ih,
      last_entry_append]
    split <;> rfl

/-- The restored inputs change nothing in the outputs. -/
theorem restore_entries_outputs :
    (restore_entries guard entries machine).output_labels = guard.output_labels ∧
      (restore_entries guard entries machine).output_allocations = guard.output_allocations := by
  induction entries using List.reverseRecOn with
  | nil => exact ⟨rfl, rfl⟩
  | append_singleton entries entry ih =>
    rw [restore_entries_append, restore_entry, ScopeGuard.set_allocation_rest, copy_entry]
    split <;> exact ih

end

/-- The pass which copies the bytes restores every entry, unless one of them stops it. -/
theorem restore_pass_ends {guard : ScopeGuard} {entries : List Entry}
    (hE : (∃ entry ∈ entries, ¬ entry.Copyable machine guard) → ∀ failure, E failure)
    (hbuffer : ∀ memory_space size, size < 2 ^ 31 → machine.host_buffer memory_space size = none →
      E .bad_alloc) :
    Ends E (fun result => (∀ entry ∈ entries, entry.Copyable machine guard) ∧
        result = restore_entries guard entries machine)
      (entries.foldlM (fun guard entry => entry.stage machine >>= fun staged =>
        guard.copy_data_wrapper machine entry.label entry.space staged.1 staged.2) guard) := by
  refine @ends_foldlM _ _ _ _ (fun visited result =>
    (∀ entry ∈ visited, entry.Copyable machine guard) ∧
      result = restore_entries guard visited machine) _ _ _ ⟨by simp, rfl⟩
    fun visited entry rest state hentries hinv => ?_
  obtain ⟨hall, rfl⟩ := hinv
  -- The copies made so far do not change which addresses are mapped.
  have hsame : entry.Copyable machine (restore_entries guard visited machine) ↔
      entry.Copyable machine guard := by
    have hmapped : ∀ address, ((restore_entries guard visited machine).memory entry.memory_space).Mapped
        address ↔ (guard.memory entry.memory_space).Mapped address := by
      intro address
      rw [restore_entries_memory]
      exact Iff.rfl
    constructor
    · intro hcopyable
      exact ⟨hcopyable.readable, hcopyable.device, fun offset hoffset =>
        (hmapped _).mp (hcopyable.mapped offset hoffset)⟩
    · intro hcopyable
      exact ⟨hcopyable.readable, hcopyable.device, fun offset hoffset =>
        (hmapped _).mpr (hcopyable.mapped offset hoffset)⟩
  have hentry : entry ∈ entries := hentries ▸ by simp
  refine (restore_step_ends (fun hbad => hE ⟨entry, hentry, fun hcopyable => hbad (hsame.mpr hcopyable)⟩)
    hbuffer).mono ?_ fun _ hfailure => hfailure
  rintro result ⟨hcopyable, rfl⟩
  refine ⟨fun other hother => ?_, (restore_entries_append guard visited entry).symm⟩
  rcases List.mem_append.mp hother with hvisited | hlast
  · exact hall other hvisited
  · exact List.mem_singleton.mp hlast ▸ hsame.mp hcopyable

end krepe.impl
