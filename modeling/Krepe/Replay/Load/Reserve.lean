import Krepe.Replay.Allocation.Reserved
import Krepe.Replay.Entry

open std hdf5 memory outcome ordered_set

namespace krepe.impl

/-- The range which is reserved for an entry in a memory space, if there is one. -/
def Entry.request (memory_space : MemorySpaceType) (entry : Entry) : Option (Nat × Nat) :=
  match entry.bytes with
  | none => none
  | some bytes =>
    if entry.memory_space = memory_space ∧ read_size bytes.length ≠ 0 then
      some (entry.address, read_size bytes.length)
    else none

/-- The ranges which several entries ask for in a memory space. -/
def requests (memory_space : MemorySpaceType) (entries : List Entry) : List (Nat × Nat) :=
  entries.filterMap (Entry.request memory_space)

variable (machine : ReplayMachine)

/-- An entry which does not stop the pass that collects the ranges of a memory space. -/
def Entry.Reservable (memory_space : MemorySpaceType) (entry : Entry) : Prop :=
  (entry.memory_space = memory_space → entry.bytes ≠ none) ∧
    (entry.request memory_space ≠ none → memory_space = .DEVICE → machine.has_device_space = true)

variable {machine} {E : Failure → Prop} {memory_space : MemorySpaceType}

/-- The visit of an entry adds its range, or throws if the entry cannot be reserved. -/
theorem Entry.alloc_info_ends {entry : Entry} (allocation_set : AllocationSet)
    (hE : ¬ entry.Reservable machine memory_space → ∀ what, E (.runtime_error what)) :
    Ends E (fun result => entry.Reservable machine memory_space ∧ result =
        ((entry.request memory_space).toList.foldl (fun allocations request => allocations.insert
          (toLex (get_allocation_address (machine.allocation_granularity memory_space)
            request.1 request.2))) allocation_set))
      (entry.alloc_info machine memory_space allocation_set) := by
  unfold Entry.alloc_info
  by_cases hspace : entry.memory_space = memory_space
  · simp only [hspace, ne_eq, not_true_eq_false, if_false]
    cases hbytes : entry.bytes with
    | none => exact hE (fun hreservable => hreservable.1 hspace hbytes) _
    | some bytes =>
      by_cases hempty : read_size bytes.length = 0
      · have hrequest : entry.request memory_space = none := by simp [Entry.request, hbytes, hempty]
        simp [Entry.Reservable, hbytes, hempty, hrequest]
      · have hrequest : entry.request memory_space = some (entry.address, read_size bytes.length) := by
          simp [Entry.request, hbytes, hempty, hspace]
        simp only [hempty, if_false, get_space_allocation_address]
        by_cases hdevice : memory_space = .DEVICE ∧ !machine.has_device_space
        · rw [if_pos hdevice]
          refine hE (fun hreservable => ?_) _
          have hhas := hreservable.2 (by simp [hrequest]) hdevice.1
          simp [hhas] at hdevice
        · rw [if_neg hdevice]
          refine ⟨⟨fun _ => by simp [hbytes], fun _ htype => ?_⟩, by simp [hrequest]⟩
          simpa [htype] using hdevice
  · have hrequest : entry.request memory_space = none := by
      unfold Entry.request
      split <;> simp [hspace]
    simp [hspace, hrequest, Entry.Reservable]

/-- The first pass over the entries collects the ranges of all of them, unless one
    of them stops it. -/
theorem alloc_info_pass_ends {entries : List Entry}
    (hE : (∃ entry ∈ entries, ¬ entry.Reservable machine memory_space) → ∀ what, E (.runtime_error what)) :
    Ends E (fun result => (∀ entry ∈ entries, entry.Reservable machine memory_space) ∧
        result = reservation_set (machine.allocation_granularity memory_space)
          (requests memory_space entries))
      (entries.foldlM (fun allocations entry => entry.alloc_info machine memory_space allocations)
        OrderedSet.empty) := by
  refine @ends_foldlM _ _ _ _ (fun visited result =>
    (∀ entry ∈ visited, entry.Reservable machine memory_space) ∧
      result = reservation_set (machine.allocation_granularity memory_space)
        (requests memory_space visited)) _ _ _ ⟨by simp, rfl⟩
    fun visited entry rest state hentries hinv => ?_
  have hentry : entry ∈ entries := hentries ▸ by simp
  refine (Entry.alloc_info_ends state fun hbad => hE ⟨entry, hentry, hbad⟩).mono (fun result hresult => ?_)
    fun _ hfailure => hfailure
  obtain ⟨hall, rfl⟩ := hinv
  obtain ⟨hreservable, rfl⟩ := hresult
  refine ⟨fun other hother => ?_, ?_⟩
  · rcases List.mem_append.mp hother with hvisited | hlast
    · exact hall other hvisited
    · exact List.mem_singleton.mp hlast ▸ hreservable
  · have hrequests : requests memory_space (visited ++ [entry]) =
        requests memory_space visited ++ (entry.request memory_space).toList := by
      rw [requests, requests, List.filterMap_append]
      cases hrequest : entry.request memory_space <;> simp [hrequest]
    rw [hrequests, reservation_set, reservation_set, List.foldl_append]

theorem compute_allocations_nil (granularity : Nat) :
    compute_allocations (reservation_set granularity []) = [] := rfl

end krepe.impl

namespace krepe.ScopeGuard

open impl

variable {machine : ReplayMachine} {E : Failure → Prop} {memory_space : MemorySpaceType}

/-- The regions are reserved one after the other. -/
theorem allocate_ends {regions : List (Nat × Nat)} (guard : ScopeGuard)
    (hdevice : regions ≠ [] → memory_space = .DEVICE → machine.has_device_space = true)
    (hE : ∀ reserved region later what, regions = reserved ++ region :: later →
      machine.reserve_error memory_space ((guard.memory memory_space).regions ++ reserved) region =
        some what → E (.runtime_error what)) :
    Ends E (fun result => result = { guard with
        memory := Function.update guard.memory memory_space ((guard.memory memory_space).map_all regions) })
      (regions.foldlM (fun guard range => guard.allocate machine memory_space range) guard) := by
  refine @ends_foldlM _ _ _ _ (fun reserved result => result = { guard with
      memory := Function.update guard.memory memory_space ((guard.memory memory_space).map_all reserved) })
    _ _ _ ?_ fun reserved region later state hregions hinv => ?_
  · rw [Memory.map_all_nil, Function.update_eq_self]
  · subst hinv
    have hno : ¬ (memory_space = .DEVICE ∧ !machine.has_device_space) := by
      rintro ⟨htype, hhas⟩
      have := hdevice (by simp [hregions]) htype
      simp [this] at hhas
    rw [ScopeGuard.allocate, if_neg hno]
    simp only [Function.update_self, Memory.map_map_all, Function.update_idem]
    cases herror : machine.reserve_error memory_space
        ((guard.memory memory_space).map_all reserved).regions region with
    | none => rfl
    | some what => exact hE reserved region later what hregions herror

/-- What a pass over the inputs reserves for them in a memory space. -/
def reserved_regions (machine : ReplayMachine) (memory_space : MemorySpaceType) (entries : List Entry) :
    List (Nat × Nat) :=
  compute_allocations (reservation_set (machine.allocation_granularity memory_space)
    (requests memory_space entries))

/-- The reservation for a memory space maps the merged ranges of its entries, or throws. -/
theorem reserve_ends {file : File} {entries : List Entry}
    (hvisits : Visits machine file in_views entries) (callback allocation_locs : String)
    {guard : ScopeGuard} (hfree : (guard.memory memory_space).regions = [])
    (hreservable : (∃ entry ∈ entries, ¬ entry.Reservable machine memory_space) →
      ∀ what, E (.runtime_error what))
    (hE : ∀ reserved region later what,
      reserved_regions machine memory_space entries = reserved ++ region :: later →
      machine.reserve_error memory_space reserved region = some what → E (.runtime_error what)) :
    Ends E (fun result => (∀ entry ∈ entries, entry.Reservable machine memory_space) ∧
        result = { guard with
          memory := Function.update guard.memory memory_space
            ((guard.memory memory_space).map_all (reserved_regions machine memory_space entries)) })
      (reserve machine file memory_space callback allocation_locs guard) := by
  rw [reserve, literate_of_visits machine hvisits fun name entry hreads allocations =>
    get_hdf5_dataset_alloc_info_of_reads machine hreads memory_space allocations]
  refine (alloc_info_pass_ends hreservable).bind fun allocations hpass => ?_
  obtain ⟨hall, rfl⟩ := hpass
  refine (allocate_ends guard (fun hregions htype => ?_) fun reserved region later what hregions herror =>
    hE reserved region later what hregions (by simpa [hfree] using herror)).mono
      (fun result hresult => ⟨hall, hresult⟩) fun _ hfailure => hfailure
  -- Regions come from a request, and the pass let none through without a device.
  obtain ⟨request, hrequest⟩ : ∃ request, request ∈ requests memory_space entries := by
    by_contra hnone
    have hnil : requests memory_space entries = [] :=
      List.eq_nil_iff_forall_not_mem.mpr fun request hrequest => hnone ⟨request, hrequest⟩
    rw [reserved_regions, hnil, compute_allocations_nil] at hregions
    exact hregions rfl
  obtain ⟨entry, hentry, hsome⟩ := List.mem_filterMap.mp hrequest
  exact (hall entry hentry).2 (by simp [hsome]) htype

end krepe.ScopeGuard
