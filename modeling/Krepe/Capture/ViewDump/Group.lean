import Krepe.Capture.ViewDump
import Krepe.Hdf5.Below

open std hdf5

namespace krepe

/-- The index can be read from the name of a group. -/
theorem takeWhile_digits (value : Nat) (rest : List Char) :
    ((to_string value).toList ++ '_' :: rest).takeWhile Char.isDigit = (to_string value).toList := by
  have hdigits : ∀ c ∈ (to_string value).toList, c.isDigit = true := by
    intro c hc
    rw [to_string, Nat.toString_eq_ofList_toDigits, String.toList_ofList] at hc
    exact Nat.isDigit_of_mem_toDigits (by omega) (by omega) hc
  rw [List.takeWhile_append_of_pos hdigits, List.takeWhile_cons]
  have hend : Char.isDigit '_' = false := rfl
  simp [hend]

/-- Groups with different indices have different names. -/
theorem view_name_index {left right : ActiveAllocation} {i j : Nat}
    (heq : view_name left i = view_name right j) : i = j := by
  have hlist := congrArg String.toList heq
  simp only [view_name, String.toList_append] at hlist
  have htail := List.append_cancel_left (by simpa only [List.append_assoc] using hlist)
  have hdigits := congrArg (List.takeWhile Char.isDigit) htail
  have hunderscore : "_".toList = ['_'] := rfl
  simp only [hunderscore, List.singleton_append, takeWhile_digits] at hdigits
  exact to_string_injective (String.toList_inj.mp hdigits)

theorem view_name_ne_empty (allocation : ActiveAllocation) (index : Nat) :
    view_name allocation index ≠ "" := by
  unfold view_name
  rw [String.append_assoc, String.append_assoc]
  exact append_ne_empty (by simp) _

section

variable (object : Path) (name : String)

theorem below_write_string_attribute (text : String) :
    Below object (write_string_attribute object name text) := by
  simp [Below, write_string_attribute, Call.target]

theorem below_write_uint64_attribute (value : UInt64) :
    Below object (write_uint64_attribute object name value) := by
  simp [Below, write_uint64_attribute, Call.target]

theorem below_write_int_attribute (value : Int32) :
    Below object (write_int_attribute object name value) := by
  simp [Below, write_int_attribute, Call.target]

theorem below_write_dataset (data : Elements) : Below object (write_dataset object name data) := by
  unfold write_dataset
  split <;> simp [Below, Call.target]

end

variable (machine : CaptureMachine)

/-- The attributes of an allocation change nothing outside of its group. -/
theorem below_write_allocation_attributes (group : Path) (allocation : ActiveAllocation)
    (skip_reason : String) : Below group (write_allocation_attributes group allocation skip_reason) :=
  ((((((below_write_string_attribute _ _ _).append (below_write_string_attribute _ _ _)).append
    (below_write_string_attribute _ _ _)).append (below_write_string_attribute _ _ _)).append
    (below_write_uint64_attribute _ _ _)).append (below_write_uint64_attribute _ _ _)).append
    (below_write_int_attribute _ _ _)

/-- The bytes of an allocation change nothing outside of its group. -/
theorem below_write_allocation_bytes (group : Path) (skip_reason : String) (bytes : List UInt8) :
    Below group (write_allocation_bytes group skip_reason bytes) := by
  unfold write_allocation_bytes
  split
  · exact below_write_string_attribute _ _ _
  · exact (below_write_dataset _ _ _).mono (List.prefix_refl _)

/-- The group of an allocation, and no other, is made by its calls. -/
theorem below_write_allocation_group (views_group : Path) (allocation : ActiveAllocation) (index : Nat) :
    Below (views_group ++ [view_name allocation index])
      (write_allocation_group machine views_group allocation index) :=
  Below.cons ⟨by simp, by simp [Call.target]⟩
    (((below_write_allocation_attributes _ _ _).append (below_write_allocation_bytes _ _ _)).append
      (below_handle _ _))

/-- The calls which are relevant for an attribute of a new group: those which make
    the group, the attribute and its value. -/
def attribute_calls (loc : Path) (name attr : String) (type : AttrType) (value : AttrValue) : List Call :=
  [.H5Gcreate2 loc name, .H5Acreate2 (loc ++ [name]) attr type, .H5Awrite (loc ++ [name]) attr value]

section

variable (loc : Path) (attr : String)

theorem filter_attr_write_string_attribute (name text : String) :
    (write_string_attribute loc name text).filter (attr_relevant loc attr) =
      if name = attr then
        [.H5Acreate2 loc name (.string (if text.isEmpty then 1 else text.length + 1)),
          .H5Awrite loc name (string_data text)]
      else [] := by
  by_cases hname : name = attr <;> simp [write_string_attribute, attr_relevant, hname]

theorem filter_attr_write_uint64_attribute (name : String) (value : UInt64) :
    (write_uint64_attribute loc name value).filter (attr_relevant loc attr) =
      if name = attr then [.H5Acreate2 loc name .uint64, .H5Awrite loc name (.uint64 value)] else [] := by
  by_cases hname : name = attr <;> simp [write_uint64_attribute, attr_relevant, hname]

theorem filter_attr_write_int_attribute (name : String) (value : Int32) :
    (write_int_attribute loc name value).filter (attr_relevant loc attr) =
      if name = attr then [.H5Acreate2 loc name .int, .H5Awrite loc name (.int value)] else [] := by
  by_cases hname : name = attr <;> simp [write_int_attribute, attr_relevant, hname]

theorem filter_attr_write_dataset (name : String) (data : Elements) :
    (write_dataset loc name data).filter (attr_relevant loc attr) = [] := by
  unfold write_dataset
  split <;> simp [attr_relevant]

theorem filter_attr_write_allocation_bytes (hattr : attr ≠ "skip_reason") (skip_reason : String)
    (bytes : List UInt8) :
    (write_allocation_bytes loc skip_reason bytes).filter (attr_relevant loc attr) = [] := by
  unfold write_allocation_bytes
  split
  · rw [filter_attr_write_string_attribute, if_neg (Ne.symm hattr)]
  · exact filter_attr_write_dataset _ _ _ _

end

/-- The attributes of a group which the replayer reads, with their types. -/
def read_attributes (allocation : ActiveAllocation) : List (String × AttrType × AttrValue) :=
  let string := fun text : String =>
    (AttrType.string (if text.isEmpty then 1 else text.length + 1), string_data text)
  [("label", string allocation.record.label), ("space", string allocation.record.space),
    ("p_data", string (pointer_to_string allocation.record.p_data)),
    ("bytes_dumped", .int, .int (if Dumped machine allocation then 1 else 0))]

/-- Of the calls for an allocation, those which an attribute depends on create it and give it
    its value. -/
theorem filter_attr_write_allocation_group (views_group : Path) (allocation : ActiveAllocation)
    (index : Nat) {attr : String} {type : AttrType} {value : AttrValue}
    (hattr : (attr, type, value) ∈ read_attributes machine allocation) :
    (write_allocation_group machine views_group allocation index).filter
        (attr_relevant (views_group ++ [view_name allocation index]) attr) =
      attribute_calls views_group (view_name allocation index) attr type value := by
  have hgroup : attr_relevant (views_group ++ [view_name allocation index]) attr
      (.H5Gcreate2 views_group (view_name allocation index)) = true := by simp [attr_relevant]
  have hclose : [Call.handle .H5Gclose].filter
      (attr_relevant (views_group ++ [view_name allocation index]) attr) = [] := rfl
  have hskip : attr ≠ "skip_reason" := by
    rintro rfl
    simp [read_attributes] at hattr
  unfold write_allocation_group write_allocation_attributes attribute_calls
  simp only [List.filter_cons, hgroup, if_true, List.filter_append, hclose,
    filter_attr_write_string_attribute, filter_attr_write_uint64_attribute,
    filter_attr_write_int_attribute, filter_attr_write_allocation_bytes _ _ hskip, List.append_nil]
  simp only [read_attributes, List.mem_cons, Prod.mk.injEq, List.not_mem_nil, or_false] at hattr
  rcases hattr with ⟨rfl, rfl, rfl⟩ | ⟨rfl, rfl, rfl⟩ | ⟨rfl, rfl, rfl⟩ | ⟨rfl, rfl, rfl⟩
  · simp
  · simp
  · simp
  · by_cases hdumped : (copy_allocation_bytes machine allocation).1 = "" <;> simp [Dumped, hdumped]

/-- The calls which are relevant for the bytes of an allocation. -/
def bytes_calls (group : Path) (allocation : ActiveAllocation) : List Call :=
  if Dumped machine allocation then
    let bytes := (copy_allocation_bytes machine allocation).2
    .H5Dcreate2 group "bytes" .uchar [bytes.length] ::
      (if bytes.length = 0 then [] else [.H5Dwrite group "bytes" (.uchar bytes)])
  else []

/-- Calls which have nothing to do with links and datasets. -/
def OnlyAttributes (calls : List Call) : Prop :=
  ∀ call ∈ calls, ∀ path, dataset_relevant path call = false ∧ links_relevant path call = false

theorem OnlyAttributes.append {first second : List Call} (hfirst : OnlyAttributes first)
    (hsecond : OnlyAttributes second) : OnlyAttributes (first ++ second) := fun call hcall =>
  (List.mem_append.mp hcall).elim (hfirst call) (hsecond call)

theorem OnlyAttributes.filter_dataset {calls : List Call} (honly : OnlyAttributes calls) (path : Path) :
    calls.filter (dataset_relevant path) = [] :=
  List.filter_eq_nil_iff.mpr fun call hcall => by simp [(honly call hcall path).1]

theorem OnlyAttributes.filter_links {calls : List Call} (honly : OnlyAttributes calls) (path : Path) :
    calls.filter (links_relevant path) = [] :=
  List.filter_eq_nil_iff.mpr fun call hcall => by simp [(honly call hcall path).2]

section

variable (object : Path) (name : String)

theorem only_write_string_attribute (text : String) :
    OnlyAttributes (write_string_attribute object name text) := by
  simp [OnlyAttributes, write_string_attribute, dataset_relevant, links_relevant]

theorem only_write_uint64_attribute (value : UInt64) :
    OnlyAttributes (write_uint64_attribute object name value) := by
  simp [OnlyAttributes, write_uint64_attribute, dataset_relevant, links_relevant]

theorem only_write_int_attribute (value : Int32) :
    OnlyAttributes (write_int_attribute object name value) := by
  simp [OnlyAttributes, write_int_attribute, dataset_relevant, links_relevant]

end

/-- The calls for the attributes of an allocation neither link nor write anything else. -/
theorem only_write_allocation_attributes (group : Path) (allocation : ActiveAllocation)
    (skip_reason : String) : OnlyAttributes (write_allocation_attributes group allocation skip_reason) :=
  ((((((only_write_string_attribute _ _ _).append (only_write_string_attribute _ _ _)).append
    (only_write_string_attribute _ _ _)).append (only_write_string_attribute _ _ _)).append
    (only_write_uint64_attribute _ _ _)).append (only_write_uint64_attribute _ _ _)).append
    (only_write_int_attribute _ _ _)

/-- Of the calls for an allocation, those which its bytes depend on create and write their
    dataset. -/
theorem filter_dataset_write_allocation_group (views_group : Path) (allocation : ActiveAllocation)
    (index : Nat) :
    (write_allocation_group machine views_group allocation index).filter
        (dataset_relevant (views_group ++ [view_name allocation index] ++ ["bytes"])) =
      bytes_calls machine (views_group ++ [view_name allocation index]) allocation := by
  have hgroup : dataset_relevant (views_group ++ [view_name allocation index] ++ ["bytes"])
      (.H5Gcreate2 views_group (view_name allocation index)) = false := by simp [dataset_relevant]
  unfold write_allocation_group bytes_calls
  simp only [List.filter_cons, hgroup, Bool.false_eq_true, if_false, List.filter_append,
    (only_write_allocation_attributes _ _ _).filter_dataset, List.nil_append, List.filter_nil]
  by_cases hdumped : Dumped machine allocation
  · have hreason : (copy_allocation_bytes machine allocation).1 = "" := hdumped
    simp only [write_allocation_bytes, hreason, ne_eq, not_true_eq_false, if_false, hdumped, if_true]
    by_cases hempty : (copy_allocation_bytes machine allocation).2.length = 0 <;>
      simp [write_dataset, elements_size, Hdf5Datatype, dataset_relevant, hempty]
  · have hreason : (copy_allocation_bytes machine allocation).1 ≠ "" := hdumped
    simp only [write_allocation_bytes, hreason, ne_eq, not_false_eq_true, if_true, hdumped, if_false,
      (only_write_string_attribute _ _ _).filter_dataset]
    rfl

/-- One link to the group itself, the others are of the group. -/
theorem filter_links_write_allocation_group (views_group : Path) (allocation : ActiveAllocation)
    (index : Nat) :
    (write_allocation_group machine views_group allocation index).filter (links_relevant views_group) =
      [.H5Gcreate2 views_group (view_name allocation index)] := by
  have hgroup : links_relevant views_group
      (.H5Gcreate2 views_group (view_name allocation index)) = true := by simp [links_relevant]
  have hbytes : (write_allocation_bytes (views_group ++ [view_name allocation index])
      (copy_allocation_bytes machine allocation).1 (copy_allocation_bytes machine allocation).2).filter
        (links_relevant views_group) = [] := by
    unfold write_allocation_bytes
    split
    · exact (only_write_string_attribute _ _ _).filter_links _
    · unfold write_dataset
      split <;> simp [links_relevant]
  unfold write_allocation_group
  simp only [List.filter_cons, hgroup, if_true, List.filter_append, hbytes,
    (only_write_allocation_attributes _ _ _).filter_links, List.nil_append]
  rfl

end krepe
