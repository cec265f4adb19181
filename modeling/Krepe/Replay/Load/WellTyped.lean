import Krepe.Replay.Allocation.UserSpace
import Krepe.RoundTrip.Dump

open std hdf5 outcome

namespace krepe

open impl

/-- A text with at least one character, be it the terminator alone. -/
def is_string : AttrValue → Bool
  | .string data => data ≠ ""
  | _ => false

/-- The value is an `int`. -/
def is_int : AttrValue → Bool
  | .int _ => true
  | _ => false

/-- The value is an unsigned 64-bit number. -/
def is_uint64 : AttrValue → Bool
  | .uint64 _ => true
  | _ => false

/-- An attribute has a type, if it is there. -/
def AttrTyped (file : File) (object : Path) (typed : AttrValue → Bool) (name : String) : Prop :=
  ∀ value, file.attr? object name = some value → typed value = true

/-- A number of elements which, narrowed to an `int`, is not fewer of them: it is
    the same, or zero, or negative. -/
def FitsInt (elements : Nat) : Prop :=
  elements < 2 ^ 32 ∨ 2 ^ 32 ∣ elements ∨ 2 ^ 31 ≤ elements % 2 ^ 32

/-- Dimensions whose product is computed without an overflow of `int`: at most three
    of them, or none of them 0 and fewer than `2^31` elements. -/
def Multipliable (dims : List Nat) : Prop := dims.length ≤ 3 ∨ (0 ∉ dims ∧ extent dims < 2 ^ 31)

/-- A dataset of bytes, as many as its dimensions say. -/
structure BytesTyped (dataset : Dataset) : Prop where
  type : dataset.type = .uchar
  read : ∃ data, dataset.read_uchar = some data ∧ data.length = extent dataset.dims

/-- What is in a file has the types which the replayer takes for granted. Nothing has to
    be there, and the values are arbitrary. -/
structure WellTyped (file : File) : Prop where
  allocations : ∀ views ∈ [ScopeGuard.in_views, ScopeGuard.out_views], ∀ name,
    ∀ attr ∈ ["label", "space", "p_data"], AttrTyped file (views ++ [name]) is_string attr
  bytes_dumped : ∀ name, AttrTyped file (ScopeGuard.out_views ++ [name]) is_int "bytes_dumped"
  bytes : ∀ views ∈ [ScopeGuard.in_views, ScopeGuard.out_views], ∀ name dataset,
    file.dataset? (views ++ [name] ++ ["bytes"]) = some dataset →
      BytesTyped dataset ∧ FitsInt (extent dataset.dims) ∧ Multipliable dataset.dims
  metadata : ∀ name, AttrTyped file ["metadata"] is_string name
  functor : ∀ name ∈ ["functor", "nvcc_inner_lambda"], ∀ dataset,
    file.dataset? ["functor", name] = some dataset →
      BytesTyped dataset ∧ ∃ length, dataset.dims = [length]
  policy_strings : ∀ attr ∈ ["type", "space", "schedule", "outer_dir", "inner_dir"],
    AttrTyped file policy_path is_string attr
  policy_ints : ∀ attr ∈ ["index_type_signed", "index_type_size", "chunk_size", "rank", "team_size",
    "league_size", "vector_length", "team_scratch_0", "team_scratch_1", "thread_scratch_0",
    "thread_scratch_1"], AttrTyped file policy_path is_int attr
  policy_uint64s : ∀ attr ∈ ["begin", "end"], AttrTyped file policy_path is_uint64 attr
  policy_datasets : ∀ name ∈ ["begin", "end", "tile"], ∀ dataset,
    file.dataset? ["policy", name] = some dataset →
      (∃ length, dataset.dims = [length]) ∧ ∃ data, dataset.read_int64 = some data

/-- An exception ends a computation, if anything does. -/
def Throws {A : Type} (P : A → Prop) (x : Except Failure A) : Prop := Ends (fun failure => ¬ Fault failure) P x

@[simp]
theorem not_fault_check_failure (expr : String) : ¬ Fault (check_failure expr) := by
  simp [check_failure]

section

variable {file : File} {object : Path} {name : String}

theorem string_attribute_throws (htyped : AttrTyped file object is_string name) :
    Throws (fun _ => True) (get_hdf5_string_attribute file object name) := by
  unfold Throws get_hdf5_string_attribute
  cases hattr : file.attr? object name with
  | none => simp
  | some value =>
    cases value with
    | string text =>
      have htext : text ≠ "" := of_decide_eq_true (htyped _ hattr)
      simp only [if_neg htext]
      trivial
    | _ => exact absurd (htyped _ hattr) Bool.false_ne_true

theorem int_attribute_throws (htyped : AttrTyped file object is_int name) :
    Throws (fun _ => True) (get_hdf5_int_attribute file object name) := by
  unfold Throws get_hdf5_int_attribute
  cases hattr : file.attr? object name with
  | none => simp
  | some value =>
    cases value with
    | int value => trivial
    | _ => exact absurd (htyped _ hattr) Bool.false_ne_true

theorem uint64_attribute_throws (htyped : AttrTyped file object is_uint64 name) :
    Throws (fun _ => True) (get_hdf5_uint64_attribute file object name) := by
  unfold Throws get_hdf5_uint64_attribute
  cases hattr : file.attr? object name with
  | none => simp
  | some value =>
    cases value with
    | uint64 value => trivial
    | _ => exact absurd (htyped _ hattr) Bool.false_ne_true

/-- A text which is no number is an exception. -/
theorem stoull_hex_throws (text : String) : Throws (fun _ => True) (stoull_hex text) := by
  unfold Throws stoull_hex
  dsimp only
  split_ifs <;> simp [Fault]

end

namespace WellTyped

variable {file : File} (htyped : WellTyped file)

include htyped

theorem read_metadata_throws (machine : ReplayMachine) : Throws (fun _ => True) (read_metadata machine file) := by
  unfold Throws read_metadata
  cases file.group? ["metadata"] with
  | none => simp
  | some node =>
    refine @ends_foldlM _ _ _ _ (fun _ _ => True) _ _ _ trivial fun _ name _ metadata _ _ => ?_
    exact (string_attribute_throws (htyped.metadata name)).bind fun _ _ => trivial

theorem read_functor_array_throws {name : String} (hname : name ∈ ["functor", "nvcc_inner_lambda"])
    (expr : String) : Throws (fun _ => True) (read_functor_array file ["functor", name] expr) := by
  unfold Throws read_functor_array open_uchar_dataset
  cases hdataset : file.dataset? ["functor", name] with
  | none => exact not_fault_check_failure expr
  | some dataset =>
    obtain ⟨hbytes, length, hdims⟩ := htyped.functor name hname dataset hdataset
    obtain ⟨data, hread, _⟩ := hbytes.read
    simp only [hbytes.type, if_true]
    rw [pure_bind, hdims]
    simp only [read_uchar, hread]
    trivial

/-- The functor of a file of the right types is read, or an exception is thrown. -/
theorem read_functor_throws (machine : ReplayMachine) :
    Throws (fun _ => True) (read_functor_from_hdf5 machine file) := by
  unfold Throws read_functor_from_hdf5
  refine (htyped.read_functor_array_throws (by simp) _).bind fun functor_data _ => ?_
  split
  · exact (htyped.read_functor_array_throws (by simp) _).bind fun _ _ => trivial
  · trivial

theorem read_int64_dataset_throws {name : String} (hname : name ∈ ["begin", "end", "tile"]) :
    Throws (fun _ => True) (read_hdf5_int64_dataset file ["policy", name]) := by
  unfold Throws read_hdf5_int64_dataset
  cases hdataset : file.dataset? ["policy", name] with
  | none => simp
  | some dataset =>
    obtain ⟨⟨length, hdims⟩, data, hread⟩ := htyped.policy_datasets name hname dataset hdataset
    simp only [hdims, hread]
    trivial

theorem read_range_policy_throws (index_type : kokkos.IndexType) (schedule : kokkos.Schedule)
    (exec_space : Option kokkos.ExecutionSpace) :
    Throws (fun _ => True) (read_range_policy file index_type schedule exec_space) := by
  unfold Throws read_range_policy
  refine (uint64_attribute_throws (htyped.policy_uint64s _ (by simp))).bind fun _ _ => ?_
  refine (uint64_attribute_throws (htyped.policy_uint64s _ (by simp))).bind fun _ _ => ?_
  exact (int_attribute_throws (htyped.policy_ints _ (by simp))).bind fun _ _ => trivial

theorem read_mdrange_policy_throws (build : ReplayBuild) (index_type : kokkos.IndexType)
    (schedule : kokkos.Schedule) (exec_space : Option kokkos.ExecutionSpace) :
    Throws (fun _ => True) (read_mdrange_policy build file index_type schedule exec_space) := by
  unfold Throws read_mdrange_policy
  refine (int_attribute_throws (htyped.policy_ints _ (by simp))).bind fun rank _ => ?_
  refine (mdrange_rank_ends build rank).bind fun _ _ => ?_
  refine (string_attribute_throws (htyped.policy_strings _ (by simp))).bind fun outer_dir _ => ?_
  refine (iteration_pattern_ends outer_dir).bind fun _ _ => ?_
  refine (string_attribute_throws (htyped.policy_strings _ (by simp))).bind fun inner_dir _ => ?_
  refine (iteration_pattern_ends inner_dir).bind fun _ _ => ?_
  refine (htyped.read_int64_dataset_throws (by simp)).bind fun _ _ => ?_
  refine (htyped.read_int64_dataset_throws (by simp)).bind fun _ _ => ?_
  exact (htyped.read_int64_dataset_throws (by simp)).bind fun _ _ => trivial

theorem read_team_policy_throws (index_type : kokkos.IndexType) (schedule : kokkos.Schedule)
    (exec_space : Option kokkos.ExecutionSpace) :
    Throws (fun _ => True) (read_team_policy file index_type schedule exec_space) := by
  unfold Throws read_team_policy
  refine (int_attribute_throws (htyped.policy_ints _ (by simp))).bind fun _ _ => ?_
  refine (int_attribute_throws (htyped.policy_ints _ (by simp))).bind fun _ _ => ?_
  refine (int_attribute_throws (htyped.policy_ints _ (by simp))).bind fun _ _ => ?_
  refine (int_attribute_throws (htyped.policy_ints _ (by simp))).bind fun _ _ => ?_
  refine (int_attribute_throws (htyped.policy_ints _ (by simp))).bind fun _ _ => ?_
  refine (int_attribute_throws (htyped.policy_ints _ (by simp))).bind fun _ _ => ?_
  refine (int_attribute_throws (htyped.policy_ints _ (by simp))).bind fun _ _ => ?_
  exact (int_attribute_throws (htyped.policy_ints _ (by simp))).bind fun _ _ => trivial

/-- The policy of a file of the right types is read, or an exception is thrown. -/
theorem read_policy_throws (build : ReplayBuild) : Throws (fun _ => True) (read_policy_from_hdf5 build file) := by
  unfold Throws read_policy_from_hdf5
  refine (string_attribute_throws (htyped.policy_strings _ (by simp))).bind fun type _ => ?_
  split
  · trivial
  split
  · exact (uint64_attribute_throws (htyped.policy_uint64s _ (by simp))).bind fun _ _ => trivial
  refine (int_attribute_throws (htyped.policy_ints _ (by simp))).bind fun index_type_signed _ => ?_
  refine (int_attribute_throws (htyped.policy_ints _ (by simp))).bind fun index_type_size _ => ?_
  refine (index_type_ends _ _).bind fun index_type _ => ?_
  refine (string_attribute_throws (htyped.policy_strings _ (by simp))).bind fun exec_space_name _ => ?_
  refine (exec_space_ends build exec_space_name).bind fun exec_space _ => ?_
  refine (string_attribute_throws (htyped.policy_strings _ (by simp))).bind fun schedule_name _ => ?_
  refine (schedule_ends schedule_name).bind fun schedule _ => ?_
  split
  · exact htyped.read_range_policy_throws index_type schedule exec_space
  split
  · exact htyped.read_mdrange_policy_throws build index_type schedule exec_space
  split
  · exact htyped.read_team_policy_throws index_type schedule exec_space
  · simp

end WellTyped

end krepe
