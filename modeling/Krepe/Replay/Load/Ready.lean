import Krepe.Replay.Load.Input
import Krepe.Replay.Load.Output

open std hdf5 memory outcome interval

namespace krepe

/-- Nothing fails which the machine is asked for in reason: memory, and ranges
    apart from those which are reserved. -/
structure ReplayMachine.Ready (machine : ReplayMachine) : Prop where
  device_init : machine.device_init_error = none
  reserve : ∀ type reserved region, (∀ other ∈ reserved, Disjoint (cells other) (cells region)) →
    machine.reserve_error type reserved region = none
  host_buffer : ∀ type size, size < 2 ^ 63 → machine.host_buffer type size ≠ none
  regular_allocate : ∀ type size, machine.regular_allocate_error type size = none

namespace impl

variable {machine : ReplayMachine} {file : File} {entries : List Entry}

/-- Regions which are reserved later do not overlap those before them. -/
theorem reserved_regions_disjoint (hrounded : Rounded machine entries) {memory_space : MemorySpaceType}
    {reserved later : List (Nat × Nat)} {region : Nat × Nat}
    (hregions : ScopeGuard.reserved_regions machine memory_space entries = reserved ++ region :: later) :
    ∀ other ∈ reserved, Disjoint (cells other) (cells region) := by
  have hpositive := machine.allocation_granularity_pos memory_space
  have hdisjoint := (compute_allocations_merges (reservation_set_bounded hpositive
    (fun request hrequest => (hrounded memory_space request hrequest).1)
    fun request hrequest => (hrounded memory_space request hrequest).2)).separated.disjoint
  rw [ScopeGuard.reserved_regions] at hregions
  rw [hregions] at hdisjoint
  exact fun other hother => (List.pairwise_append.mp hdisjoint).2.2 other hother region List.mem_cons_self

/-- On a machine which is ready, the inputs are loaded when no entry stops a pass. -/
theorem load_input_ready (hready : machine.Ready) (hrounded : Rounded machine entries)
    (hvisits : Visits machine file ScopeGuard.in_views entries)
    (hloadable : ∀ entry ∈ entries, entry.Loadable machine entries)
    (hmetadata : ∃ metadata, read_metadata machine file = .ok metadata)
    (hfunctor : ∃ functor, read_functor_from_hdf5 machine file = .ok functor)
    (hpolicy : ∃ policy, read_policy_from_hdf5 machine.build file = .ok policy) :
    ∃ guard, ScopeGuard.load_input machine file = .ok guard := by
  obtain ⟨metadata, hmetadata⟩ := hmetadata
  obtain ⟨functor, hfunctor⟩ := hfunctor
  obtain ⟨policy, hpolicy⟩ := hpolicy
  have hends := @load_input_ends machine (fun _ => False) file entries hvisits
    (fun memory_space ⟨entry, hentry, hbad⟩ => absurd ((hloadable entry hentry).reservable memory_space) hbad)
    (fun _ ⟨entry, hentry, hbad⟩ => absurd (hloadable entry hentry).copyable hbad)
    (fun memory_space reserved region later what hregions herror => by
      rw [hready.reserve memory_space reserved region (reserved_regions_disjoint hrounded hregions)] at herror
      cases herror)
    (fun what herror => by
      rw [hready.device_init] at herror
      cases herror)
    (fun memory_space size hsize => hready.host_buffer memory_space size (by omega))
    (hmetadata ▸ trivial) (hfunctor ▸ trivial) (hpolicy ▸ trivial)
  obtain ⟨guard, hguard, _⟩ := hends.eq_ok
  exact ⟨guard, hguard⟩

/-- On a machine which is ready, the outputs are allocated when none of them stops the pass. -/
theorem LoadsOutputs.ready {outputs : List Output} (hloads : LoadsOutputs machine file outputs)
    (hready : machine.Ready) (hallocatable : ∀ output ∈ outputs, output.Allocatable machine)
    (guard : ScopeGuard) :
    ScopeGuard.load_output machine file guard = .ok (allocate_entries guard (dumped_entries outputs)) := by
  have hends := @hloads guard (fun _ => False)
    (fun ⟨output, hmem, hbad⟩ => absurd (hallocatable output hmem) hbad)
    (fun memory_space size hsize => hready.host_buffer memory_space size (by omega))
    (fun memory_space size failure herror => by
      rw [hready.regular_allocate] at herror
      cases herror)
  obtain ⟨result, hresult, _, rfl⟩ := hends.eq_ok
  exact hresult

end impl

end krepe
