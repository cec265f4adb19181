import Krepe.Common.Text
import Krepe.Hdf5.Write

open std hdf5

namespace krepe.impl

/-- The exception for a failed call. The text before the call, a file name and a
    line number, is left out. -/
def check_failure (expr : String) : Failure := .runtime_error ("The call " ++ expr ++ " failed")

/-- The call which fails for an attribute that is not there, as the error quotes it. -/
def H5Aopen_by_name : String := "H5Aopen_by_name(group, name, attr_name, H5P_DEFAULT, H5P_DEFAULT)"

/-- A text without its last character. -/
def pop_back (text : String) : String := String.ofList text.toList.dropLast

/-- An attribute without data leaves an empty string, from which no character may be
    removed. One of another type than expected does not fit the buffer, which only
    an assertion detects. -/
def get_hdf5_string_attribute (file : File) (object : Path) (attr_name : String) :
    Except Failure String :=
  match file.attr? object attr_name with
  | none => throw (check_failure H5Aopen_by_name)
  | some (.string data) => if data = "" then throw .undefined_behavior else pure (pop_back data)
  | some _ => throw .undefined_behavior

/-- An `int` attribute; an attribute of another type is read as something that the model does
    not describe. -/
def get_hdf5_int_attribute (file : File) (object : Path) (attr_name : String) : Except Failure Int32 :=
  match file.attr? object attr_name with
  | none => throw (check_failure H5Aopen_by_name)
  | some (.int value) => pure value
  | some _ => throw .undefined_behavior

/-- An unsigned 64-bit attribute; an attribute of another type is read as something that the
    model does not describe. -/
def get_hdf5_uint64_attribute (file : File) (object : Path) (attr_name : String) :
    Except Failure UInt64 :=
  match file.attr? object attr_name with
  | none => throw (check_failure H5Aopen_by_name)
  | some (.uint64 value) => pure value
  | some _ => throw .undefined_behavior

/-- The assertions are on one dimension and on elements of the type. -/
def read_hdf5_int64_dataset (file : File) (name : Path) : Except Failure (List Int64) :=
  match file.dataset? name with
  | none => throw (check_failure "H5LTget_dataset_ndims(root, name, &dataset_rank)")
  | some dataset =>
    match dataset.dims, dataset.read_int64 with
    | [_], some res => pure res
    | _, _ => throw .undefined_behavior

/-- A terminated text is read without its terminator. -/
@[simp]
theorem pop_back_terminated (text : String) : pop_back (text ++ "\x00") = text := by
  have hterminator : "\x00".toList = ['\x00'] := rfl
  rw [pop_back, String.toList_append, hterminator, List.dropLast_concat, String.ofList_toList]

theorem terminated_ne_empty (text : String) : text ++ "\x00" ≠ "" := by
  intro hempty
  have hlength := congrArg String.length hempty
  simp at hlength

theorem get_hdf5_string_attribute_of_attr? {file : File} {object : Path} {attr_name text : String}
    (hattr : file.attr? object attr_name = some (.string (text ++ "\x00"))) :
    get_hdf5_string_attribute file object attr_name = .ok text := by
  simp only [get_hdf5_string_attribute, hattr, if_neg (terminated_ne_empty text), pop_back_terminated]
  rfl

theorem get_hdf5_int_attribute_of_attr? {file : File} {object : Path} {attr_name : String}
    {value : Int32} (hattr : file.attr? object attr_name = some (.int value)) :
    get_hdf5_int_attribute file object attr_name = .ok value := by
  simp only [get_hdf5_int_attribute, hattr]
  rfl

theorem get_hdf5_uint64_attribute_of_attr? {file : File} {object : Path} {attr_name : String}
    {value : UInt64} (hattr : file.attr? object attr_name = some (.uint64 value)) :
    get_hdf5_uint64_attribute file object attr_name = .ok value := by
  simp only [get_hdf5_uint64_attribute, hattr]
  rfl

end krepe.impl
