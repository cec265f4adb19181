import Krepe.RoundTrip.Dump

open std hdf5 outcome

namespace krepe

open impl

section

variable (before after : CaptureMachine) (system : DumpSystem) (dump : KernelDump)

/-- The file after a begin hook which reports its dump as written and, if there are
    outputs, an end hook which reports them as appended. The memory may have changed
    in between. -/
inductive Written : Option KernelOutput → File → Prop
  | created {fault : Option Nat} {file : File}
      (hcreate : (create_kernel_dump before system fault dump file).1.ok = true) :
      Written none (create_kernel_dump before system fault dump file).2
  | appended {fault : Option Nat} {file : File} {output : KernelOutput} (hcreated : Written none file)
      (happend : (append_kernel_output after system fault output file).1.ok = true) :
      Written (some output) (append_kernel_output after system fault output file).2

end

section

variable {machine : CaptureMachine} {snapshot : AllocationSnapshot} {file final : File}

/-- Outputs are appended beside the inputs. -/
theorem append_calls_frame (hexec : exec (append_calls machine snapshot) file = some final) {path : Path}
    (hpath : path ≠ []) (hother : ¬ ["out"] <+: path) : final path = file path :=
  exec_below_frame (below_write_snapshot machine "out" snapshot) (exec_append_calls hexec) hother
    (by simpa using hpath)

end

section

variable {before after : CaptureMachine} {system : DumpSystem} {dump : KernelDump}
  {output : Option KernelOutput} {file : File}

/-- A dump which was written is stored. -/
theorem Written.stored (hwritten : Written before after system dump none file) :
    DumpStored before dump file := by
  cases hwritten with
  | created hcreate => exact DumpStored.of_exec (create_kernel_dump_ok before system hcreate)

/-- Whether outputs were appended or not, the rest of the file is that of the dump. -/
theorem Written.created_file (hwritten : Written before after system dump output file) :
    ∃ created, DumpStored before dump created ∧
      ∀ path, path ≠ [] → ¬ ["out"] <+: path → file path = created path := by
  cases hwritten with
  | created hcreate => exact ⟨_, (@Written.created before after system dump _ _ hcreate).stored, fun _ _ _ => rfl⟩
  | appended hcreated happend =>
    exact ⟨_, hcreated.stored, fun path => append_calls_frame (append_kernel_output_ok after system happend)⟩

end

end krepe
