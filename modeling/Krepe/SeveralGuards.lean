import Krepe.Replay.Process
import Krepe.RoundTrip.Host

open std hdf5 outcome transition

namespace krepe.replayer

open impl

section

variable (machine : ReplayMachine) (file : File)

/-- The values of attributes up to the first which is not there, and the failure at that one. -/
def read_values : List String → List (String × String) × Option Failure
  | [] => ([], none)
  | name :: rest =>
    match get_hdf5_string_attribute file ["metadata"] name with
    | .ok attr => ((name, attr) :: (read_values rest).1, (read_values rest).2)
    | .error failure => ([], some failure)

/-- The names of the metadata of a file, in the order in which the library visits them. -/
def metadata_names : List String :=
  (file.group? ["metadata"]).elim [] fun node => machine.iteration_order (node.attrs.map Prod.fst)

/-- A construction comes as far as the metadata, and as far as the functor. -/
def reads_metadata : Bool := (load_allocations machine file).toOption.isSome

/-- A construction comes as far as the functor. -/
def reads_functor : Bool := reads_metadata machine file && (impl.read_metadata machine file).toOption.isSome

/-- A construction comes as far as the policy. -/
def reads_policy : Bool := reads_functor machine file && (impl.read_functor_from_hdf5 machine file).toOption.isSome

/-- What the construction of a guard from a file gives to the variables, if it comes so far. -/
def offered_metadata : List (String × String) :=
  if reads_metadata machine file then (read_values file (metadata_names machine file)).1 else []

/-- The bytes of the functor which the construction of a guard reads, if it comes so far. -/
def offered_functor : Option (List UInt8) :=
  if reads_functor machine file then
    (read_functor_array file ["functor", "functor"]
      "H5LTget_dataset_ndims(file, \"functor/functor\", &rank)").toOption
  else none

/-- The bytes of the host lambda which the construction of a guard reads, if it comes so far. -/
def offered_inner_lambda : Option (List UInt8) :=
  if reads_functor machine file && machine.use_nvcc_hdl_workaround then
    (impl.read_functor_from_hdf5 machine file).toOption.map Prod.snd
  else none

/-- Where only the type of a policy is read, a policy of no type is left. -/
def offered_policy : Option PolicyVar :=
  if reads_policy machine file then
    (get_hdf5_string_attribute file policy_path "type").toOption.map fun _ =>
      (impl.read_policy_from_hdf5 machine.build file).toOption.getD .monostate
  else none

/-- The variables after the construction of a guard, whether or not it threw. -/
def left_statics (statics : Statics) : Statics where
  metadata := (offered_metadata machine file).foldl insert_metadata statics.metadata
  functor_data := (offered_functor machine file).getD statics.functor_data
  nvcc_inner_lambda_data := (offered_inner_lambda machine file).getD statics.nvcc_inner_lambda_data
  replay_policy := (offered_policy machine file).orElse fun _ => statics.replay_policy
  tables := statics.tables

end

section

variable {machine : ReplayMachine} {file : File} {statics : Statics}

theorem lift_ok_bind {A B : Type} (result : A) (f : A → StaticsM B) (statics : Statics) :
    (lift (.ok result) >>= f) statics = f result statics := rfl

theorem lift_error_bind {A B : Type} (failure : Failure) (f : A → StaticsM B) (statics : Statics) :
    (lift (.error failure) >>= f) statics = .error failure statics := rfl

/-- A part which ends like a computation is followed up by its result. -/
theorem bind_of_lift {A B : Type} {x : StaticsM A} {y : Except Failure A} {next : Statics}
    (hx : x statics = lift y next) (f : A → StaticsM B) : (x >>= f) statics = (lift y >>= f) next := by
  have hbind : (x >>= f) statics = EStateM.bind x f statics := rfl
  rw [hbind, EStateM.bind, hx]
  rfl

theorem modify_bind {B : Type} (change : Statics → Statics) (f : Unit → StaticsM B) :
    ((modify change : StaticsM Unit) >>= f) statics = f () (change statics) := rfl

/-- The names are read one after the other, and what was read stays when one is missing. -/
theorem forM_read_hdf5_metadata (names : List String) (statics : Statics) :
    names.forM (read_hdf5_metadata file) statics =
      (read_values file names).2.elim
        (.ok () { statics with metadata := (read_values file names).1.foldl insert_metadata statics.metadata })
        fun failure => .error failure
          { statics with metadata := (read_values file names).1.foldl insert_metadata statics.metadata } := by
  induction names generalizing statics with
  | nil => rfl
  | cons name rest ih =>
    have hcons : (name :: rest).forM (read_hdf5_metadata file) =
        (read_hdf5_metadata file name >>= fun _ => rest.forM (read_hdf5_metadata file)) := rfl
    rw [hcons, read_hdf5_metadata, bind_assoc]
    cases hattr : get_hdf5_string_attribute file ["metadata"] name with
    | error failure =>
      rw [lift_error_bind]
      simp only [read_values, hattr]
      rfl
    | ok attr =>
      rw [lift_ok_bind, modify_bind, ih]
      simp only [read_values, hattr, List.foldl_cons]

/-- A load on its own reads the same values. -/
theorem foldlM_read_hdf5_metadata (names : List String) (metadata : UnorderedMap String String) :
    names.foldlM (fun metadata name => impl.read_hdf5_metadata file ["metadata"] name metadata) metadata =
      (read_values file names).2.elim (.ok ((read_values file names).1.foldl insert_metadata metadata)) .error := by
  induction names generalizing metadata with
  | nil => rfl
  | cons name rest ih =>
    rw [List.foldlM_cons, impl.read_hdf5_metadata, bind_assoc]
    cases hattr : get_hdf5_string_attribute file ["metadata"] name with
    | error failure =>
      simp only [read_values, hattr]
      rfl
    | ok attr =>
      rw [ok_bind, pure_bind, ih]
      simp only [read_values, hattr, List.foldl_cons]
      rfl

/-- With or without an exception, the values which were read are there. -/
theorem read_metadata_eq (statics : Statics) :
    read_metadata machine file statics = lift ((impl.read_metadata machine file).map fun _ => ()) { statics with
      metadata := (read_values file (metadata_names machine file)).1.foldl insert_metadata statics.metadata } := by
  unfold read_metadata impl.read_metadata metadata_names
  cases file.group? ["metadata"] with
  | none => rfl
  | some node =>
    dsimp only [Option.elim_some]
    rw [forM_read_hdf5_metadata, foldlM_read_hdf5_metadata]
    cases (read_values file (machine.iteration_order (node.attrs.map Prod.fst))).2 <;> rfl

/-- The functor is there even if the inner lambda is not. -/
theorem read_functor_eq (statics : Statics) :
    read_functor_from_hdf5 machine file statics =
      lift ((impl.read_functor_from_hdf5 machine file).map fun _ => ()) { statics with
        functor_data := (read_functor_array file ["functor", "functor"]
          "H5LTget_dataset_ndims(file, \"functor/functor\", &rank)").toOption.getD statics.functor_data
        nvcc_inner_lambda_data := if machine.use_nvcc_hdl_workaround then
            ((impl.read_functor_from_hdf5 machine file).toOption.map Prod.snd).getD statics.nvcc_inner_lambda_data
          else statics.nvcc_inner_lambda_data } := by
  unfold read_functor_from_hdf5 impl.read_functor_from_hdf5
  cases hfunctor : read_functor_array file ["functor", "functor"]
      "H5LTget_dataset_ndims(file, \"functor/functor\", &rank)" with
  | error failure =>
    rw [lift_error_bind]
    cases machine.use_nvcc_hdl_workaround <;> rfl
  | ok functor_data =>
    rw [lift_ok_bind, modify_bind, ok_bind]
    cases machine.use_nvcc_hdl_workaround with
    | false => rfl
    | true =>
      simp only [if_true]
      cases read_functor_array file ["functor", "nvcc_inner_lambda"]
        "H5LTget_dataset_ndims(file, \"functor/nvcc_inner_lambda\", &rank)" <;> rfl

/-- A policy whose type cannot be read leaves the one there was. -/
theorem read_policy_eq (statics : Statics) :
    read_policy_from_hdf5 machine file statics =
      lift ((impl.read_policy_from_hdf5 machine.build file).map fun _ => ()) { statics with
        replay_policy := ((get_hdf5_string_attribute file policy_path "type").toOption.map fun _ =>
          (impl.read_policy_from_hdf5 machine.build file).toOption.getD .monostate).orElse
            fun _ => statics.replay_policy } := by
  unfold read_policy_from_hdf5
  cases htype : get_hdf5_string_attribute file policy_path "type" with
  | error failure =>
    rw [lift_error_bind]
    have hpolicy : impl.read_policy_from_hdf5 machine.build file = .error failure := by
      rw [impl.read_policy_from_hdf5, htype]
      rfl
    rw [hpolicy]
    rfl
  | ok type =>
    rw [lift_ok_bind, modify_bind]
    cases impl.read_policy_from_hdf5 machine.build file <;> rfl

/-- A dataset is handed on to a changed guard as to the guard itself. -/
theorem allocate_output_dataset_map {g : ScopeGuard → ScopeGuard}
    (hg : ∀ (guard : ScopeGuard) label space data, (g guard).allocate_output machine label space data =
      (guard.allocate_output machine label space data).map g) (group : Path) (name : String) (guard : ScopeGuard) :
    allocate_hdf5_output_dataset machine file group (fun label memory_space _ data (guard : ScopeGuard) =>
        guard.allocate_output machine label memory_space data) name (g guard) =
      (allocate_hdf5_output_dataset machine file group (fun label memory_space _ data (guard : ScopeGuard) =>
        guard.allocate_output machine label memory_space data) name guard).map g := by
  unfold allocate_hdf5_output_dataset allocate_hdf5_dataset
  cases get_hdf5_int_attribute file (group ++ [name]) "bytes_dumped" with
  | error failure => rfl
  | ok bytes_dumped =>
    simp only [ok_bind]
    split
    · rfl
    cases get_hdf5_string_attribute file (group ++ [name]) "label" with
    | error failure => rfl
    | ok label =>
    cases get_hdf5_string_attribute file (group ++ [name]) "space" with
    | error failure => rfl
    | ok space =>
    cases get_hdf5_string_attribute file (group ++ [name]) "p_data" with
    | error failure => rfl
    | ok p_data =>
    simp only [ok_bind]
    cases stoull_hex p_data with
    | error failure => rfl
    | ok address =>
    simp only [ok_bind]
    cases bytes_dataset file (group ++ [name]) with
    | error failure => rfl
    | ok dataset =>
    simp only [ok_bind]
    cases buffer_size dataset.dims with
    | error failure => rfl
    | ok size =>
    simp only [ok_bind]
    split
    · exact hg guard label space []
    cases allocate_host_buffer machine size (memory_space_type_from_string space) with
    | error failure => rfl
    | ok buffer =>
    simp only [ok_bind]
    cases read_uchar dataset with
    | error failure => rfl
    | ok bytes =>
    simp only [ok_bind]
    cases read_into buffer bytes with
    | error failure => rfl
    | ok buffer => exact hg guard label space buffer

theorem load_output_map {g : ScopeGuard → ScopeGuard}
    (hg : ∀ (guard : ScopeGuard) label space data, (g guard).allocate_output machine label space data =
      (guard.allocate_output machine label space data).map g) (guard : ScopeGuard) :
    ScopeGuard.load_output machine file (g guard) = (ScopeGuard.load_output machine file guard).map g := by
  unfold ScopeGuard.load_output literate
  cases ScopeGuard.has_output file with
  | error failure => rfl
  | ok has_output =>
    simp only [ok_bind]
    split
    · cases file.group? ScopeGuard.out_views with
      | none => rfl
      | some node =>
        dsimp only
        induction machine.iteration_order node.links generalizing guard with
        | nil => rfl
        | cons name rest ih =>
          rw [List.foldlM_cons, List.foldlM_cons, allocate_output_dataset_map hg]
          cases allocate_hdf5_output_dataset machine file ScopeGuard.out_views
            (fun label memory_space _ data (guard : ScopeGuard) =>
              guard.allocate_output machine label memory_space data) name guard with
          | error failure => rfl
          | ok next => exact ih next
    · rfl

/-- The variables are no part of what is allocated for the outputs. -/
theorem load_output_with (guard : ScopeGuard) (metadata : UnorderedMap String String)
    (functor_data nvcc_inner_lambda_data : List UInt8) (replay_policy : PolicyVar) :
    ScopeGuard.load_output machine file { guard with metadata, functor_data, nvcc_inner_lambda_data, replay_policy } =
      (ScopeGuard.load_output machine file guard).map fun loaded =>
        { loaded with metadata, functor_data, nvcc_inner_lambda_data, replay_policy } := by
  refine @load_output_map machine file (fun guard =>
    { guard with metadata, functor_data, nvcc_inner_lambda_data, replay_policy })
    (fun guard label space data => ?_) guard
  unfold ScopeGuard.allocate_output
  dsimp only
  split
  · rfl
  · split
    · rfl
    · cases machine.regular_allocate_error (memory_space_type_from_string space) data.length <;> rfl

/-- A load reads the allocations, the metadata, the functor and the policy, in this order. -/
theorem load_eq : ScopeGuard.load machine file = (do
    let guard ← load_allocations machine file
    let metadata ← impl.read_metadata machine file
    let functor ← impl.read_functor_from_hdf5 machine file
    let replay_policy ← impl.read_policy_from_hdf5 machine.build file
    ScopeGuard.load_output machine file { guard with
      metadata, functor_data := functor.1, nvcc_inner_lambda_data := functor.2, replay_policy }) := by
  simp only [ScopeGuard.load, ScopeGuard.load_input, load_allocations, bind_assoc, pure_bind]

theorem reads_metadata_eq_true :
    reads_metadata machine file = true ↔ ∃ guard, load_allocations machine file = .ok guard := by
  unfold reads_metadata
  cases load_allocations machine file <;> simp [Except.toOption]

theorem reads_functor_eq_true : reads_functor machine file = true ↔
    reads_metadata machine file = true ∧ ∃ metadata, impl.read_metadata machine file = .ok metadata := by
  unfold reads_functor
  cases impl.read_metadata machine file <;> simp [Except.toOption]

theorem reads_policy_eq_true : reads_policy machine file = true ↔
    reads_functor machine file = true ∧ ∃ functor, impl.read_functor_from_hdf5 machine file = .ok functor := by
  unfold reads_policy
  cases impl.read_functor_from_hdf5 machine file <;> simp [Except.toOption]

/-- What is left by the parts to which a construction came. -/
theorem left_statics_eq (statics : Statics) :
    left_statics machine file statics =
      { metadata := if reads_metadata machine file then
            (read_values file (metadata_names machine file)).1.foldl insert_metadata statics.metadata
          else statics.metadata
        functor_data := if reads_functor machine file then
            (read_functor_array file ["functor", "functor"]
              "H5LTget_dataset_ndims(file, \"functor/functor\", &rank)").toOption.getD statics.functor_data
          else statics.functor_data
        nvcc_inner_lambda_data := if reads_functor machine file then
            if machine.use_nvcc_hdl_workaround then
              ((impl.read_functor_from_hdf5 machine file).toOption.map Prod.snd).getD statics.nvcc_inner_lambda_data
            else statics.nvcc_inner_lambda_data
          else statics.nvcc_inner_lambda_data
        replay_policy := if reads_policy machine file then
            ((get_hdf5_string_attribute file policy_path "type").toOption.map fun _ =>
              (impl.read_policy_from_hdf5 machine.build file).toOption.getD .monostate).orElse
                fun _ => statics.replay_policy
          else statics.replay_policy
        tables := statics.tables } := by
  unfold left_statics offered_metadata offered_functor offered_inner_lambda offered_policy
  cases reads_metadata machine file <;> cases reads_functor machine file <;> cases reads_policy machine file <;>
    cases machine.use_nvcc_hdl_workaround <;> rfl

/-- A construction ends like a load on its own, whatever the variables held before, and gives
    them what it read. -/
theorem construct_eq (id : Nat) (statics : Statics) :
    construct machine id file statics =
      lift ((ScopeGuard.load machine file).map members_of) { left_statics machine file statics with
        tables := if (ScopeGuard.load machine file).toOption.isSome then some id else statics.tables } := by
  rw [left_statics_eq, load_eq]
  unfold construct
  cases hallocations : load_allocations machine file with
  | error failure =>
    have hnone : reads_metadata machine file = false := by simp [reads_metadata, hallocations, Except.toOption]
    have hfunctor : reads_functor machine file = false := by simp [reads_functor, hnone]
    have hpolicy : reads_policy machine file = false := by simp [reads_policy, hfunctor]
    simp only [hnone, hfunctor, hpolicy, Bool.false_eq_true, if_false]
    rfl
  | ok guard =>
  have hreads_metadata := reads_metadata_eq_true.mpr ⟨guard, hallocations⟩
  rw [lift_ok_bind, ok_bind, bind_of_lift (read_metadata_eq statics)]
  simp only [hreads_metadata, if_true]
  cases hmetadata : impl.read_metadata machine file with
  | error failure =>
    have hfunctor : reads_functor machine file = false := by simp [reads_functor, hmetadata, Except.toOption]
    have hpolicy : reads_policy machine file = false := by simp [reads_policy, hfunctor]
    simp only [hfunctor, hpolicy, Bool.false_eq_true, if_false]
    rfl
  | ok metadata =>
  have hreads_functor := reads_functor_eq_true.mpr ⟨hreads_metadata, metadata, hmetadata⟩
  rw [Except.map, lift_ok_bind, ok_bind, bind_of_lift (read_functor_eq _)]
  simp only [hreads_functor, if_true]
  cases hfunctor : impl.read_functor_from_hdf5 machine file with
  | error failure =>
    have hpolicy : reads_policy machine file = false := by simp [reads_policy, hfunctor, Except.toOption]
    simp only [hpolicy, Bool.false_eq_true, if_false]
    rfl
  | ok functor =>
  have hreads_policy := reads_policy_eq_true.mpr ⟨hreads_functor, functor, hfunctor⟩
  rw [Except.map, lift_ok_bind, ok_bind, bind_of_lift (read_policy_eq _)]
  simp only [hreads_policy, if_true]
  cases impl.read_policy_from_hdf5 machine.build file with
  | error failure => rfl
  | ok policy =>
  rw [Except.map, lift_ok_bind, ok_bind, load_output_with guard metadata functor.1 functor.2 policy]
  cases ScopeGuard.load_output machine file guard with
  | error failure => rfl
  | ok loaded => rfl

/-- What a load on its own has in the variables is what it offers to them. -/
theorem offered_of_load {guard : ScopeGuard} (hload : ScopeGuard.load machine file = .ok guard) :
    offered_functor machine file = some guard.functor_data ∧
      offered_inner_lambda machine file =
        (if machine.use_nvcc_hdl_workaround then some guard.nvcc_inner_lambda_data else none) ∧
      offered_policy machine file = some guard.replay_policy := by
  rw [load_eq] at hload
  obtain ⟨allocated, hallocations, hload⟩ := bind_eq_ok.mp hload
  obtain ⟨metadata, hmetadata, hload⟩ := bind_eq_ok.mp hload
  obtain ⟨functor, hfunctor, hload⟩ := bind_eq_ok.mp hload
  obtain ⟨policy, hpolicy, hload⟩ := bind_eq_ok.mp hload
  have hreads_functor : reads_functor machine file = true :=
    reads_functor_eq_true.mpr ⟨reads_metadata_eq_true.mpr ⟨allocated, hallocations⟩, metadata, hmetadata⟩
  have hreads_policy : reads_policy machine file = true := reads_policy_eq_true.mpr ⟨hreads_functor, functor, hfunctor⟩
  rw [load_output_with allocated metadata functor.1 functor.2 policy] at hload
  cases houtput : ScopeGuard.load_output machine file allocated with
  | error failure =>
    rw [houtput] at hload
    cases hload
  | ok loaded =>
  rw [houtput] at hload
  obtain rfl := Except.ok.inj hload
  refine ⟨?_, ?_, ?_⟩
  · rw [offered_functor, hreads_functor, if_pos rfl]
    obtain ⟨functor_data, harray, hrest⟩ := bind_eq_ok.mp hfunctor
    rw [harray]
    refine congrArg some ?_
    split at hrest
    · obtain ⟨inner, _, hfunctors⟩ := bind_eq_ok.mp hrest
      exact congrArg Prod.fst (Except.ok.inj hfunctors)
    · exact congrArg Prod.fst (Except.ok.inj hrest)
  · rw [offered_inner_lambda, hreads_functor, hfunctor, Bool.true_and]
    rfl
  · rw [offered_policy, hreads_policy, if_pos rfl, hpolicy]
    cases htype : get_hdf5_string_attribute file policy_path "type" with
    | ok type => rfl
    | error failure =>
      rw [impl.read_policy_from_hdf5, htype] at hpolicy
      cases hpolicy

/-- Of the values for a name the one that was there first is kept. -/
theorem lookup_insert_all (values : List (String × String)) (metadata : UnorderedMap String String) (key : String) :
    (values.foldl insert_metadata metadata).lookup key = (metadata.lookup key).or (values.lookup key) := by
  induction values generalizing metadata with
  | nil => simp
  | cons entry rest ih =>
    rw [List.foldl_cons, ih, insert_metadata, List.lookup_cons]
    by_cases hkey : key = entry.1
    · subst hkey
      cases hlookup : metadata.lookup entry.1 with
      | none => simp
      | some value => simp [hlookup]
    · have hne : (key == entry.1) = false := beq_eq_false_iff_ne.mpr hkey
      rw [hne]
      split
      · rfl
      · rw [AList.lookup_insert_ne hkey]

end

/-- The construction which an action attempts. -/
def GuardAction.attempt : GuardAction → Option (ReplayMachine × File)
  | .construct machine file => some (machine, file)
  | .destroy _ => none

/-- The constructions among some actions, with the machine and the file of each. -/
def attempts (actions : List GuardAction) : List (ReplayMachine × File) := actions.filterMap GuardAction.attempt

/-- What the last of some attempts which gives something gives. -/
def last_offered {A B : Type} (offered : A → Option B) (attempts : List A) : Option B :=
  (attempts.filterMap offered).getLast?

theorem last_offered_concat {A B : Type} (offered : A → Option B) (attempts : List A) (attempt : A) :
    last_offered offered (attempts ++ [attempt]) = (offered attempt).orElse fun _ => last_offered offered attempts := by
  unfold last_offered
  cases hoffered : offered attempt <;> simp [List.filterMap_append, hoffered]

/-- The construction of this number succeeded, and these are the members of its guard. -/
def Constructed (attempts : List (ReplayMachine × File)) (id : Nat) (members : Members) : Prop :=
  ∃ machine file guard, attempts[id]? = some (machine, file) ∧ ScopeGuard.load machine file = .ok guard ∧
    members = members_of guard

/-- The number of an attempt, if it constructs a guard. -/
def constructed_id (attempt : (ReplayMachine × File) × Nat) : Option Nat :=
  if (ScopeGuard.load attempt.1.1 attempt.1.2).toOption.isSome then some attempt.2 else none

/-- What the variables of a process hold after some constructions and destructions: the metadata
    of all constructions, where the first value for a name counts; of the functor, of the host
    lambda and of the policy what was offered last; the tables of the guard that was constructed
    last; and the guards which were constructed and not destroyed. -/
structure Shared (actions : List GuardAction) (process : Process) : Prop where
  next : process.next = (attempts actions).length
  metadata : ∀ key, process.statics.metadata.lookup key =
    ((attempts actions).flatMap fun attempt => offered_metadata attempt.1 attempt.2).lookup key
  functor_data : process.statics.functor_data =
    (last_offered (fun attempt => offered_functor attempt.1 attempt.2) (attempts actions)).getD []
  nvcc_inner_lambda_data : process.statics.nvcc_inner_lambda_data =
    (last_offered (fun attempt => offered_inner_lambda attempt.1 attempt.2) (attempts actions)).getD []
  replay_policy : process.statics.replay_policy =
    last_offered (fun attempt => offered_policy attempt.1 attempt.2) (attempts actions)
  tables : process.statics.tables = last_offered constructed_id (attempts actions).zipIdx
  guards : ∀ id members, process.guards id = some members ↔
    Constructed (attempts actions) id members ∧ .destroy id ∉ actions
  destroyed : ∀ id, .destroy id ∈ actions → id < process.next

section

variable {actions : List GuardAction} {process next : Process}

theorem shared_initial : Shared [] Process.initial where
  next := rfl
  metadata _ := rfl
  functor_data := rfl
  nvcc_inner_lambda_data := rfl
  replay_policy := rfl
  tables := rfl
  guards id members := by
    simp [Process.initial, Constructed, attempts]
  destroyed _ hdestroyed := absurd hdestroyed List.not_mem_nil

theorem attempts_construct (actions : List GuardAction) (machine : ReplayMachine) (file : File) :
    attempts (actions ++ [.construct machine file]) = attempts actions ++ [(machine, file)] := by
  simp [attempts, GuardAction.attempt]

theorem attempts_destroy (actions : List GuardAction) (id : Nat) :
    attempts (actions ++ [.destroy id]) = attempts actions := by
  simp [attempts, GuardAction.attempt]

/-- The variables after an attempt, whether or not it constructs a guard. -/
theorem Shared.left_statics (hshared : Shared actions process) (machine : ReplayMachine) (file : File)
    (guards : Nat → Option Members)
    (hguards : ∀ id members, guards id = some members ↔
      Constructed (attempts actions ++ [(machine, file)]) id members ∧ .destroy id ∉ actions) :
    Shared (actions ++ [.construct machine file])
      ⟨{ left_statics machine file process.statics with
          tables := if (ScopeGuard.load machine file).toOption.isSome then some process.next
            else process.statics.tables }, guards, process.next + 1⟩ where
  next := by rw [attempts_construct, hshared.next, List.length_append, List.length_singleton]
  metadata key := by
    rw [attempts_construct, List.flatMap_append, List.lookup_append, ← hshared.metadata, List.flatMap_singleton]
    exact lookup_insert_all _ _ _
  functor_data := by
    rw [attempts_construct, last_offered_concat]
    have hold := hshared.functor_data
    unfold replayer.left_statics
    cases offered_functor machine file with
    | none => exact hold
    | some functor_data => rfl
  nvcc_inner_lambda_data := by
    rw [attempts_construct, last_offered_concat]
    have hold := hshared.nvcc_inner_lambda_data
    unfold replayer.left_statics
    cases offered_inner_lambda machine file with
    | none => exact hold
    | some nvcc_inner_lambda_data => rfl
  replay_policy := by
    rw [attempts_construct, last_offered_concat, ← hshared.replay_policy]
    rfl
  tables := by
    rw [attempts_construct, List.zipIdx_append, List.zipIdx_singleton, last_offered_concat, ← hshared.tables,
      Nat.zero_add, ← hshared.next, constructed_id]
    split <;> rfl
  guards id members := by
    rw [attempts_construct, hguards]
    simp
  destroyed id hdestroyed := by
    have hold := hshared.destroyed id (by simpa using hdestroyed)
    exact Nat.lt_succ_of_lt hold

/-- A number below those of the attempts so far is that of one of them. -/
theorem constructed_concat {attempts : List (ReplayMachine × File)} {machine : ReplayMachine} {file : File} {id : Nat}
    {members : Members} : Constructed (attempts ++ [(machine, file)]) id members ↔
      Constructed attempts id members ∨
        id = attempts.length ∧ ∃ guard, ScopeGuard.load machine file = .ok guard ∧ members = members_of guard := by
  constructor
  · rintro ⟨other, dump, guard, hattempt, hload, hmembers⟩
    rw [List.getElem?_append] at hattempt
    split at hattempt
    · exact Or.inl ⟨other, dump, guard, hattempt, hload, hmembers⟩
    · obtain ⟨hindex, hlast⟩ := List.getElem?_eq_some_iff.mp hattempt
      rw [List.length_singleton] at hindex
      obtain ⟨rfl, rfl⟩ := Prod.mk.inj ((List.getElem_singleton hindex).symm.trans hlast)
      exact Or.inr ⟨by omega, guard, hload, hmembers⟩
  · rintro (⟨other, dump, guard, hattempt, hload, hmembers⟩ | ⟨rfl, guard, hload, hmembers⟩)
    · have hlt := (List.getElem?_eq_some_iff.mp hattempt).1
      exact ⟨other, dump, guard, by rw [List.getElem?_append_left hlt, hattempt], hload, hmembers⟩
    · exact ⟨machine, file, guard, List.getElem?_concat_length, hload, hmembers⟩

theorem Constructed.lt_length {attempts : List (ReplayMachine × File)} {id : Nat} {members : Members}
    (hconstructed : Constructed attempts id members) : id < attempts.length := by
  obtain ⟨_, _, _, hattempt, _⟩ := hconstructed
  exact (List.getElem?_eq_some_iff.mp hattempt).1

/-- Each construction or destruction keeps what is known of the variables. -/
theorem Shared.step (hshared : Shared actions process) {action : GuardAction}
    (hstep : GuardStep process action next) : Shared (actions ++ [action]) next := by
  cases hstep with
  | @constructed machine file members statics hconstruct =>
    rw [construct_eq] at hconstruct
    cases hload : ScopeGuard.load machine file with
    | error failure =>
      rw [hload] at hconstruct
      cases hconstruct
    | ok guard =>
    rw [hload] at hconstruct
    obtain ⟨rfl, hstatics⟩ := EStateM.Result.ok.inj hconstruct
    have hresult := hshared.left_statics machine file
      (Function.update process.guards process.next (some (members_of guard))) (fun id members => ?_)
    · rw [hload, hstatics] at hresult
      exact hresult
    · rw [constructed_concat, ← hshared.next]
      by_cases hid : id = process.next
      · subst hid
        have hnew : ∀ members, ¬ Constructed (attempts actions) process.next members := fun _ hconstructed =>
          absurd (hshared.next ▸ hconstructed.lt_length) (Nat.lt_irrefl _)
        have hfresh : .destroy process.next ∉ actions := fun hdestroyed =>
          absurd (hshared.destroyed _ hdestroyed) (Nat.lt_irrefl _)
        simp [hnew, hfresh, hload, eq_comm]
      · rw [Function.update_of_ne hid, hshared.guards]
        simp [hid]
  | @thrown machine file failure statics hconstruct hfailure =>
    rw [construct_eq] at hconstruct
    cases hload : ScopeGuard.load machine file with
    | ok guard =>
      rw [hload] at hconstruct
      cases hconstruct
    | error failure =>
    rw [hload] at hconstruct
    obtain ⟨-, hstatics⟩ := EStateM.Result.error.inj hconstruct
    have hresult := hshared.left_statics machine file process.guards (fun id members => ?_)
    · rw [hload, hstatics] at hresult
      exact hresult
    · rw [constructed_concat, hshared.guards]
      simp [hload]
  | @destroyed id members hguard =>
    refine ⟨?_, ?_, ?_, ?_, ?_, ?_, fun other otherMembers => ?_, fun other hother => ?_⟩
    · rw [attempts_destroy, hshared.next]
    · rw [attempts_destroy]
      exact hshared.metadata
    · rw [attempts_destroy]
      exact hshared.functor_data
    · rw [attempts_destroy]
      exact hshared.nvcc_inner_lambda_data
    · rw [attempts_destroy]
      exact hshared.replay_policy
    · rw [attempts_destroy]
      exact hshared.tables
    · rw [attempts_destroy]
      by_cases hid : other = id
      · subst hid
        simp
      · dsimp only
        rw [Function.update_of_ne hid, hshared.guards]
        simp [hid]
    · rcases List.mem_append.mp hother with hbefore | hlast
      · exact hshared.destroyed other hbefore
      · obtain rfl := GuardAction.destroy.inj (List.mem_singleton.mp hlast)
        have hconstructed := (hshared.guards _ members).mp hguard
        exact hshared.next ▸ hconstructed.1.lt_length

/-- What is known of the variables holds after every run, by induction on it. -/
theorem shared_of_run (hrun : Run GuardStep Process.initial actions process) : Shared actions process := by
  induction hrun with
  | start => exact shared_initial
  | step _ hstep ih => exact ih.step hstep

/-- After the last construction the tables are those of its guard. -/
theorem Shared.tables_of_last (hshared : Shared actions process) {before : List (ReplayMachine × File)}
    {machine : ReplayMachine} {file : File} {guard : ScopeGuard}
    (hlast : attempts actions = before ++ [(machine, file)]) (hload : ScopeGuard.load machine file = .ok guard) :
    process.statics.tables = some before.length := by
  have hid : constructed_id ((machine, file), before.length) = some before.length := by
    rw [constructed_id, hload]
    rfl
  rw [hshared.tables, hlast, List.zipIdx_append, List.zipIdx_singleton, last_offered_concat, Nat.zero_add, hid]
  rfl

/-- The members of the last guard are used, and not those of another. -/
theorem Shared.members_of_last (hshared : Shared actions process) {before : List (ReplayMachine × File)}
    {machine : ReplayMachine} {file : File} {guard : ScopeGuard}
    (hlast : attempts actions = before ++ [(machine, file)]) (hload : ScopeGuard.load machine file = .ok guard) :
    (.destroy before.length ∈ actions → process.members = .error .undefined_behavior) ∧
      (.destroy before.length ∉ actions → process.members = .ok (members_of guard)) := by
  unfold Process.members
  rw [hshared.tables_of_last hlast hload, Option.bind_some]
  constructor
  · intro hdestroyed
    have hnone : process.guards before.length = none := by
      refine Option.eq_none_iff_forall_not_mem.mpr fun members hmembers => ?_
      exact ((hshared.guards _ members).mp hmembers).2 hdestroyed
    rw [hnone]
    rfl
  · intro halive
    have hconstructed : Constructed (attempts actions) before.length (members_of guard) := by
      rw [hlast, constructed_concat]
      exact Or.inr ⟨rfl, guard, hload, rfl⟩
    rw [(hshared.guards _ _).mpr ⟨hconstructed, halive⟩]
    rfl

/-- Let guards be constructed and destroyed in any order in one process, where a construction
    may throw. The variables then hold what all constructions so far left in them, whether or
    not they threw. After the last construction, if it succeeded, the functions of the replayer
    find what its file holds as if it was the only one, but with the metadata of all of them,
    and with an older host lambda where its own is not read. Once this guard is destroyed every
    such function reads through a null pointer, even if an older guard is still there. -/
theorem guards_share_variables (hrun : Run GuardStep Process.initial actions process) :
    Shared actions process ∧
      ∀ before machine file guard, attempts actions = before ++ [(machine, file)] →
        ScopeGuard.load machine file = .ok guard →
        (.destroy before.length ∈ actions → process.guard = .error .undefined_behavior) ∧
        (.destroy before.length ∉ actions → process.guard = .ok { guard with
          metadata := process.statics.metadata
          nvcc_inner_lambda_data := if machine.use_nvcc_hdl_workaround then guard.nvcc_inner_lambda_data
            else process.statics.nvcc_inner_lambda_data }) := by
  have hshared := shared_of_run hrun
  refine ⟨hshared, fun before machine file guard hlast hload => ?_⟩
  obtain ⟨hfunctor, hinner, hpolicy⟩ := offered_of_load hload
  obtain ⟨hdangling, hmembers⟩ := hshared.members_of_last hlast hload
  refine ⟨fun hdestroyed => ?_, fun halive => ?_⟩
  · rw [Process.guard, hdangling hdestroyed]
    rfl
  · have hfunctor_data : process.statics.functor_data = guard.functor_data := by
      rw [hshared.functor_data, hlast, last_offered_concat, hfunctor]
      rfl
    have hreplay_policy : process.statics.replay_policy = some guard.replay_policy := by
      rw [hshared.replay_policy, hlast, last_offered_concat, hpolicy]
      rfl
    have hnvcc_inner_lambda_data : process.statics.nvcc_inner_lambda_data =
        if machine.use_nvcc_hdl_workaround then guard.nvcc_inner_lambda_data
        else process.statics.nvcc_inner_lambda_data := by
      split
      · rename_i hworkaround
        rw [hshared.nvcc_inner_lambda_data, hlast, last_offered_concat, hinner, if_pos hworkaround]
        rfl
      · rfl
    rw [Process.guard, hmembers halive, ok_bind, hreplay_policy, ← hfunctor_data, ← hnvcc_inner_lambda_data]
    rfl

end

/-- A file with nothing but one key of metadata, a functor and the type of a policy. -/
def functor_file (version : String) (functor_data : List UInt8) (type : String) : File := fun path =>
  if path = [] then some (.group ⟨[], ["in", "metadata", "functor", "policy"]⟩)
  else if path = ["in"] then some (.group ⟨[], ["views"]⟩)
  else if path = ["in", "views"] then some (.group ⟨[], []⟩)
  else if path = ["metadata"] then some (.group ⟨[("version", .string version)], []⟩)
  else if path = ["functor"] then some (.group ⟨[], ["functor"]⟩)
  else if path = ["functor", "functor"] then some (.dataset ⟨.uchar, [functor_data.length], some (.uchar functor_data)⟩)
  else if path = ["policy"] then some (.group ⟨[("type", .string type)], []⟩)
  else none

/-- The first guard is not constructed since its policy has only a type; the second one is, and
    has the metadata of the first. -/
theorem guards_share_variables_example :
    ∃ process guard, Run GuardStep Process.initial
        [.construct host_replay (functor_file "2\x00" [3] "range\x00"),
          .construct host_replay (functor_file "1\x00" [1, 2] "none\x00")] process ∧
      process.guard = .ok guard ∧ guard.metadata.lookup "version" = some "2" ∧ guard.functor_data = [1, 2] := by
  have hthrown : GuardStep Process.initial (.construct host_replay (functor_file "2\x00" [3] "range\x00")) _ :=
    .thrown rfl (by simp [check_failure])
  have hrun := (Run.start.step hthrown).step
    (.constructed (rfl : construct host_replay _ (functor_file "1\x00" [1, 2] "none\x00") _ = .ok _ _))
  obtain ⟨_, hlast⟩ := guards_share_variables hrun
  exact ⟨_, _, hrun, (hlast [_] _ _ _ rfl rfl).2 (by simp), rfl, rfl⟩

end krepe.replayer
