import Krepe.Capture.Host
import Krepe.Replay.Load.Ready
import Krepe.RoundTrip.Dump
import Krepe.RoundTrip.Policy

open std hdf5 memory outcome

namespace krepe

open impl

/-- A replayer for the host with one page size, which visits groups in the order
    of their links. -/
def host_replay : ReplayMachine where
  build := ⟨fun space => space = .Serial, false⟩
  has_device_space := false
  use_nvcc_hdl_workaround := false
  allocation_granularity _ := 4096
  allocation_granularity_pos _ := by simp
  fresh_byte _ _ := 0
  iteration_order names := names
  iteration_order_perm names := List.Perm.refl names
  device_init_error := none
  reserve_error _ _ _ := none
  host_buffer _ size := if size < 2 ^ 63 then some (List.replicate size 0) else none
  host_buffer_length _ size buffer hbuffer := by
    rw [Option.ite_none_right_eq_some, Option.some.injEq] at hbuffer
    rw [← hbuffer.2, List.length_replicate]
  host_buffer_max _ size hlarge := if_neg (Nat.not_lt.mpr hlarge)
  regular_allocate_error _ _ := none

theorem host_replay_ready : host_replay.Ready where
  device_init := rfl
  reserve _ _ _ _ := rfl
  host_buffer type size hsize := by
    have hbuffer : host_replay.host_buffer type size = some (List.replicate size 0) := if_pos hsize
    rw [hbuffer]
    exact Option.some_ne_none _
  regular_allocate _ _ := rfl

/-- A dump without a policy is read but for its allocations. -/
theorem host_dump_rest {capture : CaptureMachine} {dump : KernelDump} {file : File}
    (hstored : DumpStored capture dump file) (hnone : dump.policy = .no_policy) :
    (∃ metadata, read_metadata host_replay file = .ok metadata) ∧
      (∃ functor, read_functor_from_hdf5 host_replay file = .ok functor) ∧
      ∃ policy, read_policy_from_hdf5 host_replay.build file = .ok policy := by
  exact ⟨hstored.read_metadata host_replay, ⟨_, hstored.read_functor host_replay⟩, .monostate,
    read_no_policy (hnone ▸ hstored.policy)⟩

/-- A dump without allocations and without a policy is loaded. -/
theorem host_dump_loads {capture : CaptureMachine} {dump : KernelDump} {file : File}
    (hstored : DumpStored capture dump file) (hempty : dump.input_snapshot.allocations = [])
    (hnone : dump.policy = .no_policy) : ∃ guard, ScopeGuard.load_input host_replay file = .ok guard := by
  obtain ⟨hmetadata, hfunctor, hpolicy⟩ := host_dump_rest hstored hnone
  have hvisits : Visits host_replay file ScopeGuard.in_views [] := by
    have hvisits := hstored.visits host_replay
    rw [input_entries, hempty] at hvisits
    exact hvisits
  exact load_input_ready host_replay_ready (fun _ _ hrequest => absurd hrequest List.not_mem_nil) hvisits
    (fun _ hentry => absurd hentry List.not_mem_nil) hmetadata hfunctor hpolicy

end krepe
