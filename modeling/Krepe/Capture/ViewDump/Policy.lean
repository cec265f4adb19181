import Krepe.Capture.ViewDump.Attribute
import Krepe.Capture.ViewDump.Types

open hdf5

namespace krepe

/-- A `std::size_t` or a `bool` which is given for an `int`. -/
def as_int (value : Nat) : Int32 := Int32.ofNat value

/-- No policy was registered for the launch. -/
def write_no_policy (policy_group : Path) : List Call :=
  write_string_attribute policy_group "type" "none"

/-- The upper bound of the indices. -/
def write_scalar_policy (policy_group : Path) (policy : ScalarPolicyDesc) : List Call :=
  write_string_attribute policy_group "type" "scalar" ++
    write_uint64_attribute policy_group "end" policy.end

/-- The bounds and the chunk size, with what all policies over an index type have. -/
def write_range_policy (policy_group : Path) (policy : RangePolicyDesc) : List Call :=
  write_string_attribute policy_group "type" "range" ++
    write_int_attribute policy_group "index_type_size" (as_int policy.index_type_desc.size) ++
    write_int_attribute policy_group "index_type_signed"
      (as_int policy.index_type_desc.is_signed.toNat) ++
    write_string_attribute policy_group "space" policy.space ++
    write_string_attribute policy_group "schedule" policy.schedule ++
    write_uint64_attribute policy_group "begin" policy.begin ++
    write_uint64_attribute policy_group "end" policy.end ++
    write_int_attribute policy_group "chunk_size" policy.chunk_size

/-- The rank and the directions of the iteration in attributes, the bounds and the tile in
    datasets. -/
def write_mdrange_policy (policy_group : Path) (policy : MDRangePolicyDesc) : List Call :=
  write_string_attribute policy_group "type" "mdrange" ++
    write_int_attribute policy_group "index_type_size" (as_int policy.index_type_desc.size) ++
    write_int_attribute policy_group "index_type_signed"
      (as_int policy.index_type_desc.is_signed.toNat) ++
    write_string_attribute policy_group "space" policy.space ++
    write_string_attribute policy_group "schedule" policy.schedule ++
    write_int_attribute policy_group "rank" (as_int policy.rank) ++
    write_string_attribute policy_group "outer_dir" policy.outer_dir ++
    write_string_attribute policy_group "inner_dir" policy.inner_dir ++
    write_dataset policy_group "begin" (.int64 policy.begin) ++
    write_dataset policy_group "end" (.int64 policy.end) ++
    write_dataset policy_group "tile" (.int64 policy.tile)

/-- The extents of the league and the teams, the four scratch sizes and the chunk size. -/
def write_team_policy (policy_group : Path) (policy : TeamPolicyDesc) : List Call :=
  write_string_attribute policy_group "type" "team" ++
    write_int_attribute policy_group "index_type_size" (as_int policy.index_type_desc.size) ++
    write_int_attribute policy_group "index_type_signed"
      (as_int policy.index_type_desc.is_signed.toNat) ++
    write_string_attribute policy_group "space" policy.space ++
    write_string_attribute policy_group "schedule" policy.schedule ++
    write_int_attribute policy_group "team_size" policy.team_size ++
    write_int_attribute policy_group "league_size" policy.league_size ++
    write_int_attribute policy_group "vector_length" policy.vector_length ++
    write_int_attribute policy_group "team_scratch_0" policy.team_scratch_0 ++
    write_int_attribute policy_group "team_scratch_1" policy.team_scratch_1 ++
    write_int_attribute policy_group "thread_scratch_0" policy.thread_scratch_0 ++
    write_int_attribute policy_group "thread_scratch_1" policy.thread_scratch_1 ++
    write_int_attribute policy_group "chunk_size" policy.chunk_size

/-- The writer for the alternative which the variant holds. -/
def write_policy (policy_group : Path) : PolicyDesc → List Call
  | .no_policy => write_no_policy policy_group
  | .scalar policy => write_scalar_policy policy_group policy
  | .range policy => write_range_policy policy_group policy
  | .mdrange policy => write_mdrange_policy policy_group policy
  | .team policy => write_team_policy policy_group policy

/-- The attributes which three of the policies share. -/
def common_attributes (type : String) (index_type_desc : IndexTypeDesc) (space schedule : String) :
    List (String × AttrValue) :=
  [("type", string_data type), ("index_type_size", .int (as_int index_type_desc.size)),
    ("index_type_signed", .int (as_int index_type_desc.is_signed.toNat)),
    ("space", string_data space), ("schedule", string_data schedule)]

/-- The attributes which the group of a policy has after a whole write. -/
def policy_attributes : PolicyDesc → List (String × AttrValue)
  | .no_policy => [("type", string_data "none")]
  | .scalar policy => [("type", string_data "scalar"), ("end", .uint64 policy.end)]
  | .range policy =>
    common_attributes "range" policy.index_type_desc policy.space policy.schedule ++
      [("begin", .uint64 policy.begin), ("end", .uint64 policy.end),
        ("chunk_size", .int policy.chunk_size)]
  | .mdrange policy =>
    common_attributes "mdrange" policy.index_type_desc policy.space policy.schedule ++
      [("rank", .int (as_int policy.rank)), ("outer_dir", string_data policy.outer_dir),
        ("inner_dir", string_data policy.inner_dir)]
  | .team policy =>
    common_attributes "team" policy.index_type_desc policy.space policy.schedule ++
      [("team_size", .int policy.team_size), ("league_size", .int policy.league_size),
        ("vector_length", .int policy.vector_length), ("team_scratch_0", .int policy.team_scratch_0),
        ("team_scratch_1", .int policy.team_scratch_1),
        ("thread_scratch_0", .int policy.thread_scratch_0),
        ("thread_scratch_1", .int policy.thread_scratch_1), ("chunk_size", .int policy.chunk_size)]

/-- The datasets which the group of a policy has after a whole write. -/
def policy_datasets : PolicyDesc → List (String × Dataset)
  | .mdrange policy =>
    [("begin", stored_dataset (.int64 policy.begin)), ("end", stored_dataset (.int64 policy.end)),
      ("tile", stored_dataset (.int64 policy.tile))]
  | _ => []

/-- The calls for a policy write its attributes and then its datasets. -/
theorem exec_write_policy (policy_group : Path) (policy : PolicyDesc) (rest : List Call) (file : File) :
    exec (write_policy policy_group policy ++ rest) file =
      ((file.add_attrs policy_group (policy_attributes policy)).bind
        fun file => file.add_datasets policy_group (policy_datasets policy)).bind (exec rest) := by
  cases policy with
  | no_policy =>
    simp only [write_policy, write_no_policy, exec_write_string_attribute, policy_attributes,
      policy_datasets, File.add_attrs, File.add_datasets, Option.bind_fun_some]
  | scalar policy =>
    simp only [write_policy, write_scalar_policy, List.append_assoc, exec_write_string_attribute,
      exec_write_uint64_attribute, policy_attributes, policy_datasets, File.add_attrs,
      File.add_datasets, Option.bind_assoc, Option.bind_some]
  | range policy =>
    simp only [write_policy, write_range_policy, List.append_assoc, exec_write_string_attribute,
      exec_write_uint64_attribute, exec_write_int_attribute, policy_attributes, common_attributes,
      List.cons_append, List.nil_append, policy_datasets, File.add_attrs, File.add_datasets,
      Option.bind_assoc, Option.bind_some]
  | mdrange policy =>
    simp only [write_policy, write_mdrange_policy, List.append_assoc, exec_write_string_attribute,
      exec_write_int_attribute, exec_write_dataset, policy_attributes, common_attributes,
      List.cons_append, List.nil_append, policy_datasets, File.add_attrs, File.add_datasets,
      Option.bind_assoc, Option.bind_some]
  | team policy =>
    simp only [write_policy, write_team_policy, List.append_assoc, exec_write_string_attribute,
      exec_write_int_attribute, policy_attributes, common_attributes, List.cons_append,
      List.nil_append, policy_datasets, File.add_attrs, File.add_datasets, Option.bind_assoc,
      Option.bind_some]

/-- The group of a policy holds the attributes and the datasets of the policy. -/
structure PolicyStored (policy_group : Path) (policy : PolicyDesc) (file : File) : Prop where
  attributes : ∃ links, file policy_group = some (.group ⟨policy_attributes policy, links⟩)
  datasets : ∀ dataset ∈ policy_datasets policy,
    file (policy_group ++ [dataset.1]) = some (.dataset dataset.2)

/-- No attribute of a policy is written twice. -/
theorem policy_attributes_nodup (policy : PolicyDesc) :
    ((policy_attributes policy).map Prod.fst).Nodup := by
  cases policy <;> simp [policy_attributes, common_attributes]

/-- Every attribute of a stored policy is read as it was written. -/
theorem PolicyStored.attr? {policy_group : Path} {policy : PolicyDesc} {file : File}
    (hstored : PolicyStored policy_group policy file) {name : String} {value : AttrValue}
    (hmem : (name, value) ∈ policy_attributes policy) : file.attr? policy_group name = some value := by
  obtain ⟨links, hgroup⟩ := hstored.attributes
  exact File.attr?_of_mem hgroup (policy_attributes_nodup policy) hmem

theorem policy_attributes_ne_empty (policy : PolicyDesc) :
    ∀ attr ∈ policy_attributes policy, attr.1 ≠ "" := by
  cases policy <;> simp [policy_attributes, common_attributes]

/-- A policy is stored by its calls in a new group, and they change no object
    outside of that group. -/
theorem write_policy_stored {policy_group : Path} (policy : PolicyDesc) {file : File}
    (hgroup : file policy_group = some (.group Group.empty)) :
    ∃ final, exec (write_policy policy_group policy) file = some final ∧
      PolicyStored policy_group policy final ∧
      ∀ path, path ≠ policy_group → (∀ name, path ≠ policy_group ++ [name]) →
        final path = file path := by
  have hadded := (File.add_attrs_eq_some hgroup).mpr
    ⟨fun attr hattr => ⟨policy_attributes_ne_empty policy attr hattr, rfl⟩,
      policy_attributes_nodup policy, rfl⟩
  rw [Group.empty, List.nil_append] at hadded
  have hfree : ∀ dataset ∈ policy_datasets policy, dataset.1 ≠ "" ∧ dataset.1 ∉ ([] : List String) := by
    cases policy <;> simp [policy_datasets]
  have hnodup : ((policy_datasets policy).map Prod.fst).Nodup := by
    cases policy <;> simp [policy_datasets]
  have hset := File.set_self file policy_group (.group ⟨policy_attributes policy, []⟩)
  obtain ⟨final, hfinal, hloc, hdatasets, hframe⟩ := File.add_datasets_of_free hset hfree hnodup
  refine ⟨final, ?_, ⟨⟨_, hloc⟩, hdatasets⟩, fun path hpath hchild => ?_⟩
  · rw [← List.append_nil (write_policy policy_group policy), exec_write_policy, hadded,
      Option.bind_some, hfinal, Option.bind_some, exec_nil]
  · rw [hframe path hpath fun dataset _ => hchild dataset.1, File.set_of_ne _ _ hpath]

end krepe
