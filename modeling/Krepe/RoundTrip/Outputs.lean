import Krepe.RoundTrip.Append
import Krepe.RoundTrip.Written

open std hdf5 outcome

namespace krepe

open impl

/-- The type of the memory space which an allocation is restored in. -/
def ActiveAllocation.memory_space (allocation : ActiveAllocation) : MemorySpaceType :=
  memory_space_type_from_string allocation.record.space

/-- A table of the replayer has one entry for all the allocations of a key. -/
def Keyed (memory_space : MemorySpaceType) (label : String) (allocation : ActiveAllocation) : Prop :=
  allocation.memory_space = memory_space ∧ allocation.record.label = label

/-- The allocations of the outputs, if there are outputs. -/
def output_allocations : Option KernelOutput → List ActiveAllocation
  | none => []
  | some output => output.output_snapshot.allocations

/-- The outputs of a file, as they are visited. -/
def written_outputs (after : CaptureMachine) (replay : ReplayMachine) (output : Option KernelOutput) :
    List Output :=
  (visited replay (output_allocations output)).map fun position => stored_output after position.1

section

variable {before after : CaptureMachine} {replay : ReplayMachine} {system : DumpSystem} {dump : KernelDump}
  {output : Option KernelOutput} {file : File}

theorem mem_written_outputs {stored : Output} :
    stored ∈ written_outputs after replay output ↔
      ∃ allocation ∈ output_allocations output, stored_output after allocation = stored :=
  mem_map_visited

/-- The outputs which are allocated are those whose bytes were dumped. -/
theorem mem_dumped_outputs {entry : Entry} :
    entry ∈ dumped_entries (written_outputs after replay output) ↔
      ∃ allocation ∈ output_allocations output, Dumped after allocation ∧
        stored_entry after allocation = entry := by
  simp only [dumped_entries, List.mem_filterMap, mem_written_outputs]
  constructor
  · rintro ⟨stored, ⟨allocation, hallocation, rfl⟩, hentry⟩
    by_cases hdumped : Dumped after allocation
    · simp only [stored_output, hdumped, if_true, Option.some.injEq] at hentry
      exact ⟨allocation, hallocation, hdumped, hentry⟩
    · simp [stored_output, hdumped] at hentry
  · rintro ⟨allocation, hallocation, hdumped, rfl⟩
    exact ⟨_, ⟨allocation, hallocation, rfl⟩, by simp [stored_output, hdumped]⟩

/-- The inputs are loaded as if no outputs had been appended. -/
theorem Written.load_input (hwritten : Written before after system dump output file) :
    ∃ created, DumpStored before dump created ∧ (∀ replay, ScopeGuard.load_input replay file =
        ScopeGuard.load_input replay created) ∧
      ∀ path, path ≠ [] → ¬ ["out"] <+: path → file path = created path := by
  obtain ⟨created, hstored, hframe⟩ := hwritten.created_file
  exact ⟨created, hstored, fun replay => load_input_congr hframe, hframe⟩

/-- What a guard which was loaded says about the inputs of its dump. -/
theorem Written.load_input_ok (hwritten : Written before after system dump output file)
    {guard : ScopeGuard} (hload : ScopeGuard.load_input replay file = .ok guard) :
    (∀ entry ∈ input_entries before replay dump, entry.Loadable replay (input_entries before replay dump)) ∧
      ∃ (created : File) (metadata : UnorderedMap String String) (functor : List UInt8 × List UInt8)
          (policy : PolicyVar), DumpStored before dump created ∧
        read_policy_from_hdf5 replay.build created = .ok policy ∧
        guard = { restore_entries (reserved_guard replay (input_entries before replay dump))
            (input_entries before replay dump) replay with
          metadata := metadata
          functor_data := functor.1
          nvcc_inner_lambda_data := functor.2
          replay_policy := policy } := by
  obtain ⟨created, hstored, hsame, _⟩ := hwritten.load_input
  rw [hsame] at hload
  have hends := @load_input_ends replay (fun _ => True) _ _ (hstored.visits replay)
    (fun _ _ _ => trivial) (fun _ _ _ => trivial) (fun _ _ _ _ _ _ _ => trivial) (fun _ _ => trivial)
    (fun _ _ _ _ => trivial) (ends_any _) (ends_any _) (ends_any _)
  obtain ⟨hall, metadata, functor, policy, _, _, hpolicy, hguard⟩ := hends.of_ok hload
  exact ⟨hall, created, metadata, functor, policy, hstored, hpolicy, hguard⟩

/-- The group of an input, whether outputs were appended or not. -/
theorem Written.reads_input (hwritten : Written before after system dump output file)
    {position : ActiveAllocation × Nat} (hposition : position ∈ dump.input_snapshot.allocations.zipIdx) :
    Reads file (position_path "in" position) (stored_entry before position.1) := by
  obtain ⟨created, hstored, _, hframe⟩ := hwritten.load_input
  refine (hstored.reads hposition).congr fun path hpath => hframe path ?_ ?_
  · rintro rfl
    simp [position_path, view_path] at hpath
  · rintro ⟨rest, rfl⟩
    simp [position_path, view_path] at hpath

/-- The group of an output which was dumped. -/
theorem Written.reads_output (hwritten : Written before after system dump output file)
    {position : ActiveAllocation × Nat} (hposition : position ∈ (output_allocations output).zipIdx) :
    Reads file (position_path "out" position) (stored_entry after position.1) := by
  cases hwritten with
  | created => simp [output_allocations] at hposition
  | appended hcreated happend =>
    exact reads_of_snapshot hposition (exec_append_calls (append_kernel_output_ok after system happend))
      hcreated.stored.free

/-- The outputs of a file which was written are loaded from it. -/
theorem Written.loads_outputs (hwritten : Written before after system dump output file)
    (replay : ReplayMachine) : LoadsOutputs replay file (written_outputs after replay output) := by
  cases hwritten with
  | created hcreate =>
    have hstored := (@Written.created before after system dump _ _ hcreate).stored
    have hnone : written_outputs after replay none = [] :=
      List.eq_nil_iff_forall_not_mem.mpr fun stored hmem => by
        obtain ⟨allocation, hallocation, _⟩ := mem_written_outputs.mp hmem
        cases hallocation
    rw [hnone]
    exact loads_no_outputs hstored.has_output
  | @appended _ created appended hcreated happend =>
    have hstored := hcreated.stored
    have hexec := exec_append_calls (append_kernel_output_ok after system happend)
    obtain ⟨root, hroot, hlinks⟩ := hstored.root
    have houtput := has_output_of_done (List.prefix_refl _) hexec (File.links?_of_group hroot)
      (by simp [hlinks]) hstored.free
    rw [decide_eq_true (by simp [write_snapshot])] at houtput
    exact (visits_outputs_of_snapshot hexec hstored.free replay).loads houtput

end

end krepe
