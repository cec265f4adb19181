import Krepe.RoundTrip.Dump
import Krepe.Transition.Run

open std hdf5 outcome transition

namespace krepe.replayer

open impl

/-- The variables of the replayer which its guards share. -/
structure Statics where
  metadata : UnorderedMap String String
  functor_data : List UInt8
  nvcc_inner_lambda_data : List UInt8
  /-- Null until a policy is read. -/
  replay_policy : Option PolicyVar
  /-- The guard to whose tables the pointers for the look-ups point. -/
  tables : Option Nat

/-- The members of a guard. -/
structure Members where
  memory : MemorySpaceType → memory.Memory UInt8
  allocations : MemorySpaceType → UnorderedMap String Nat
  output_allocations : MemorySpaceType → UnorderedMap String (List UInt8)
  output_labels : MemorySpaceType → Finset String

/-- The guards which were constructed and not yet destroyed, by their numbers. -/
structure Process where
  statics : Statics
  guards : Nat → Option Members
  next : Nat

/-- A process in which no guard was made. -/
def Process.initial : Process := ⟨⟨∅, [], [], none, none⟩, fun _ => none, 0⟩

/-- A computation on the variables of the replayer, which keep what was done before an exception. -/
abbrev StaticsM := EStateM Failure Statics

/-- A computation that does not look at the variables. -/
def lift {A : Type} (x : Except Failure A) : StaticsM A := fun statics =>
  match x with
  | .ok result => .ok result statics
  | .error failure => .error failure statics

variable (machine : ReplayMachine)

/-- The members which the constructor fills before it reads anything else. -/
def load_allocations (file : File) : Except Failure ScopeGuard := do
  let guard ← ScopeGuard.reserve machine file .HOST
    "impl::get_hdf5_dataset_alloc_info<impl::MemorySpaceType::HOST>" "&host_allocation_locs"
    (ScopeGuard.initial machine)
  device_init machine
  let guard ← ScopeGuard.reserve machine file .DEVICE
    "impl::get_hdf5_dataset_alloc_info<impl::MemorySpaceType::DEVICE>" "&device_allocation_locs" guard
  literate machine file ScopeGuard.in_views
    (H5Literate_by_name "in/views" "impl::allocate_hdf5_dataset" "&copy_data_wrapper")
    (allocate_hdf5_dataset machine file ScopeGuard.in_views
      fun label memory_space address data guard =>
        guard.copy_data_wrapper machine label memory_space address data) guard

/-- `std::unordered_map::insert`, which keeps an entry that there is. -/
def insert_metadata (metadata : UnorderedMap String String) (entry : String × String) :
    UnorderedMap String String :=
  if (metadata.lookup entry.1).isSome then metadata else metadata.insert entry.1 entry.2

/-- The visit of one attribute of the metadata, which writes to the static map. -/
def read_hdf5_metadata (file : File) (name : String) : StaticsM Unit := do
  let attr ← lift (get_hdf5_string_attribute file ["metadata"] name)
  modify fun statics => { statics with metadata := insert_metadata statics.metadata (name, attr) }

/-- The visit of all attributes of the metadata, in the order of the library. -/
def read_metadata (file : File) : StaticsM Unit :=
  match file.group? ["metadata"] with
  | none => throw (check_failure "H5Aiterate_by_name(file.get(), \"metadata\", H5_INDEX_NAME, H5_ITER_NATIVE, &idx, impl::read_hdf5_metadata, nullptr, H5P_DEFAULT)")
  | some node => (machine.iteration_order (node.attrs.map Prod.fst)).forM (read_hdf5_metadata file)

/-- The static vectors are set one after the other, so that the first stays set when the second
    fails. -/
def read_functor_from_hdf5 (file : File) : StaticsM Unit := do
  let functor_data ← lift (read_functor_array file ["functor", "functor"]
    "H5LTget_dataset_ndims(file, \"functor/functor\", &rank)")
  modify fun statics => { statics with functor_data }
  if machine.use_nvcc_hdl_workaround then
    let nvcc_inner_lambda_data ← lift (read_functor_array file ["functor", "nvcc_inner_lambda"]
      "H5LTget_dataset_ndims(file, \"functor/nvcc_inner_lambda\", &rank)")
    modify fun statics => { statics with nvcc_inner_lambda_data }

/-- A policy of no type is there as soon as its type was read. What is read after it is
    assigned at the end. -/
def read_policy_from_hdf5 (file : File) : StaticsM Unit := do
  let _ ← lift (get_hdf5_string_attribute file policy_path "type")
  modify fun statics => { statics with replay_policy := some .monostate }
  let policy ← lift (impl.read_policy_from_hdf5 machine.build file)
  modify fun statics => { statics with replay_policy := some policy }

/-- What a guard holds itself, apart from the variables it shares with other guards. -/
def members_of (guard : ScopeGuard) : Members :=
  ⟨guard.memory, guard.allocations, guard.output_allocations, guard.output_labels⟩

/-- The constructor of the guard of a number, in a process which may have had others. The
    last thing it does is to have the look-ups use its tables. -/
def construct (id : Nat) (file : File) : StaticsM Members := do
  let guard ← lift (load_allocations machine file)
  read_metadata machine file
  read_functor_from_hdf5 machine file
  read_policy_from_hdf5 machine file
  let guard ← lift (ScopeGuard.load_output machine file guard)
  modify fun statics => { statics with tables := some id }
  return members_of guard

/-- What a process does with guards. Each construction has the answers which the libraries
    give it, for the memory which the other guards have taken. -/
inductive GuardAction where
  | construct (machine : ReplayMachine) (file : File)
  | destroy (id : Nat)

/-- A constructor which throws leaves no guard, and what it did to the variables. -/
inductive GuardStep : Process → GuardAction → Process → Prop
  | constructed {process : Process} {machine : ReplayMachine} {file : File} {members : Members} {statics : Statics}
      (hconstruct : construct machine process.next file process.statics = .ok members statics) :
      GuardStep process (.construct machine file)
        ⟨statics, Function.update process.guards process.next (some members), process.next + 1⟩
  | thrown {process : Process} {machine : ReplayMachine} {file : File} {failure : Failure} {statics : Statics}
      (hconstruct : construct machine process.next file process.statics = .error failure statics)
      (hfailure : ¬ Fault failure) :
      GuardStep process (.construct machine file) ⟨statics, process.guards, process.next + 1⟩
  | destroyed {process : Process} {id : Nat} {members : Members} (hguard : process.guards id = some members) :
      GuardStep process (.destroy id) { process with guards := Function.update process.guards id none }

/-- The tables of the look-ups. There are none before the first guard, and those of a guard
    which was destroyed may not be used. -/
def Process.members (process : Process) : Except Failure Members :=
  match process.statics.tables.bind process.guards with
  | some members => pure members
  | none => throw .undefined_behavior

/-- What the functions of the replayer see, as if it came from a guard on its own. -/
def Process.guard (process : Process) : Except Failure ScopeGuard := do
  let members ← process.members
  match process.statics.replay_policy with
  | none => throw .undefined_behavior
  | some replay_policy =>
    return { members with
      metadata := process.statics.metadata
      functor_data := process.statics.functor_data
      nvcc_inner_lambda_data := process.statics.nvcc_inner_lambda_data
      replay_policy }

end krepe.replayer
