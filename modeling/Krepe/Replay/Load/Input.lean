import Krepe.Replay.Load.Copy

open std hdf5 memory outcome interval

namespace krepe.impl

variable (machine : ReplayMachine)

/-- The guard with all the ranges reserved, and nothing copied to them yet. -/
def reserved_guard (entries : List Entry) : ScopeGuard :=
  { ScopeGuard.initial machine with
    memory := fun memory_space => (Memory.unmapped (machine.fresh_byte memory_space)).map_all
      (ScopeGuard.reserved_regions machine memory_space entries) }

/-- An entry which stops no pass over the inputs. -/
structure Entry.Loadable (entries : List Entry) (entry : Entry) : Prop where
  reservable : ∀ memory_space, entry.Reservable machine memory_space
  copyable : entry.Copyable machine (reserved_guard machine entries)

variable {machine} {E : Failure → Prop} {file : File} {entries : List Entry}

/-- What the first part of the constructor does with the entries which it visits,
    the other parts of the file being read from there. -/
theorem load_input_ends (hvisits : Visits machine file ScopeGuard.in_views entries)
    (hreservable : ∀ memory_space, (∃ entry ∈ entries, ¬ entry.Reservable machine memory_space) →
      ∀ what, E (.runtime_error what))
    (hcopyable : (∀ memory_space, ∀ entry ∈ entries, entry.Reservable machine memory_space) →
      (∃ entry ∈ entries, ¬ entry.Copyable machine (reserved_guard machine entries)) →
      ∀ failure, E failure)
    (hreserve : ∀ memory_space reserved region later what,
      ScopeGuard.reserved_regions machine memory_space entries = reserved ++ region :: later →
      machine.reserve_error memory_space reserved region = some what → E (.runtime_error what))
    (hinit : ∀ what, machine.device_init_error = some what → E (.runtime_error what))
    (hbuffer : ∀ memory_space size, size < 2 ^ 31 → machine.host_buffer memory_space size = none →
      E .bad_alloc)
    (hmetadata : Ends E (fun _ => True) (read_metadata machine file))
    (hfunctor : Ends E (fun _ => True) (read_functor_from_hdf5 machine file))
    (hpolicy : Ends E (fun _ => True) (read_policy_from_hdf5 machine.build file)) :
    Ends E (fun result => (∀ entry ∈ entries, entry.Loadable machine entries) ∧
        ∃ metadata functor policy, read_metadata machine file = .ok metadata ∧
          read_functor_from_hdf5 machine file = .ok functor ∧
          read_policy_from_hdf5 machine.build file = .ok policy ∧
          result = { restore_entries (reserved_guard machine entries) entries machine with
            metadata := metadata
            functor_data := functor.1
            nvcc_inner_lambda_data := functor.2
            replay_policy := policy })
      (ScopeGuard.load_input machine file) := by
  rw [ScopeGuard.load_input]
  refine (ScopeGuard.reserve_ends hvisits _ _ rfl (hreservable .HOST) (hreserve .HOST)).bind ?_
  rintro guard ⟨hhost, rfl⟩
  have hready : Ends E (fun _ => True) (device_init machine) := by
    unfold device_init check_error
    cases herror : machine.device_init_error with
    | none => exact trivial
    | some what => exact hinit what herror
  refine hready.bind fun _ _ => ?_
  refine (ScopeGuard.reserve_ends hvisits _ _ rfl (hreservable .DEVICE) (hreserve .DEVICE)).bind ?_
  rintro guard ⟨hdevice, rfl⟩
  have hmemory : Function.update (Function.update (ScopeGuard.initial machine).memory .HOST
        (((ScopeGuard.initial machine).memory .HOST).map_all
          (ScopeGuard.reserved_regions machine .HOST entries))) .DEVICE
        ((Function.update (ScopeGuard.initial machine).memory .HOST
          (((ScopeGuard.initial machine).memory .HOST).map_all
            (ScopeGuard.reserved_regions machine .HOST entries)) .DEVICE).map_all
          (ScopeGuard.reserved_regions machine .DEVICE entries)) =
      (reserved_guard machine entries).memory := by
    funext memory_space
    cases memory_space <;> rfl
  rw [hmemory, literate_of_visits machine hvisits fun name entry hreads guard =>
    allocate_hdf5_dataset_of_reads machine hreads _ guard]
  have hreserved : ∀ memory_space, ∀ entry ∈ entries, entry.Reservable machine memory_space := by
    intro memory_space
    cases memory_space with
    | HOST => exact hhost
    | DEVICE => exact hdevice
  refine (restore_pass_ends (hcopyable hreserved) hbuffer).bind ?_
  rintro guard ⟨hcopied, rfl⟩
  have hall : ∀ entry ∈ entries, entry.Loadable machine entries := fun entry hentry =>
    ⟨fun memory_space => hreserved memory_space entry hentry, hcopied entry hentry⟩
  cases hmetadataRead : read_metadata machine file with
  | error failure => exact hmetadata.of_error hmetadataRead
  | ok metadata =>
    cases hfunctorRead : read_functor_from_hdf5 machine file with
    | error failure => exact hfunctor.of_error hfunctorRead
    | ok functor =>
      cases hpolicyRead : read_policy_from_hdf5 machine.build file with
      | error failure => exact hpolicy.of_error hpolicyRead
      | ok policy => exact ⟨hall, metadata, functor, policy, rfl, rfl, rfl, rfl⟩

/-- Every range which is reserved for an entry can be rounded to whole granules. -/
def Rounded (machine : ReplayMachine) (entries : List Entry) : Prop :=
  ∀ memory_space, ∀ request ∈ requests memory_space entries,
    0 < request.2 ∧ Addressable (machine.allocation_granularity memory_space) request

/-- All the bytes of an entry are read, and its range can be rounded. -/
def Entry.Small (machine : ReplayMachine) (entry : Entry) : Prop :=
  ∃ bytes, entry.bytes = some bytes ∧ bytes.length < 2 ^ 31 ∧
    (bytes ≠ [] → entry.address + bytes.length +
      machine.allocation_granularity entry.memory_space < 2 ^ 64)

/-- Small entries stay in the address space when they are rounded up. -/
theorem rounded_of_small (hsmall : ∀ entry ∈ entries, entry.Small machine) : Rounded machine entries := by
  intro memory_space request hrequest
  obtain ⟨entry, hentry, hsome⟩ := List.mem_filterMap.mp hrequest
  obtain ⟨bytes, hbytes, hlength, haddress⟩ := hsmall entry hentry
  simp only [Entry.request, hbytes, Option.ite_none_right_eq_some, Option.some.injEq] at hsome
  obtain ⟨⟨hspace, hsize⟩, rfl⟩ := hsome
  rw [read_size_of_lt hlength] at hsize ⊢
  refine ⟨Nat.pos_of_ne_zero hsize, ?_⟩
  rw [← hspace]
  exact haddress fun hnil => hsize (by simp [hnil])

/-- The reserved regions contain every range of fewer than `2^31` bytes. -/
theorem reserved_guard_mapped (hsmall : ∀ entry ∈ entries, entry.Small machine) :
    ∀ entry ∈ entries, ∀ offset < entry.data.length,
      ((reserved_guard machine entries).memory entry.memory_space).Mapped (entry.address + offset) := by
  intro entry hentry offset hoffset
  obtain ⟨bytes, hbytes, hlength, _⟩ := hsmall entry hentry
  rw [Entry.data_of_lt hbytes hlength] at hoffset
  have hrounded := rounded_of_small hsmall entry.memory_space
  have hrequest : (entry.address, bytes.length) ∈ requests entry.memory_space entries := by
    refine List.mem_filterMap.mpr ⟨entry, hentry, ?_⟩
    have hsize : bytes.length ≠ 0 := by omega
    simp [Entry.request, hbytes, read_size_of_lt hlength, hsize]
  obtain ⟨region, hregion, hinside⟩ := compute_allocations_covers
    (machine.allocation_granularity_pos entry.memory_space) (fun request hmem => (hrounded request hmem).1)
    (fun request hmem => (hrounded request hmem).2) _ hrequest
  have hcell : entry.address + offset ∈ cells region := hinside (by simpa using hoffset)
  exact Memory.mapped_of_mem (by simpa [reserved_guard, Memory.map_all, Memory.unmapped, ScopeGuard.reserved_regions]
    using hregion) hcell

/-- A small entry which may be reserved is copied. -/
theorem Entry.Small.copyable (hsmall : ∀ entry ∈ entries, entry.Small machine)
    (hreservable : ∀ memory_space, ∀ entry ∈ entries, entry.Reservable machine memory_space) :
    ∀ entry ∈ entries, entry.Copyable machine (reserved_guard machine entries) := by
  intro entry hentry
  obtain ⟨bytes, hbytes, hlength, _⟩ := hsmall entry hentry
  refine ⟨⟨bytes, hbytes, Or.inl hlength⟩, fun hne => (hreservable _ entry hentry).2 ?_,
    reserved_guard_mapped hsmall entry hentry⟩
  rw [Entry.data_of_lt hbytes hlength] at hne
  have hsize : bytes.length ≠ 0 := fun hzero => hne (List.length_eq_zero_iff.mp hzero)
  simp [Entry.request, hbytes, read_size_of_lt hlength, hsize]

end krepe.impl
