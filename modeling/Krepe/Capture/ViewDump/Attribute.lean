import Krepe.Common.Text
import Krepe.Hdf5.Write

open std hdf5

namespace krepe

/-- The data of a string attribute: the text and its terminator. -/
def string_data (text : String) : AttrValue := .string (text ++ "\x00")

/-- A text with its terminator, in an attribute of just that size. -/
def write_string_attribute (object : Path) (name text : String) : List Call :=
  let size := if text.isEmpty then 1 else text.length + 1
  [.handle .H5Tcopy, .handle .H5Tset_size, .handle .H5Tset_strpad, .handle .H5Screate,
    .H5Acreate2 object name (.string size), .H5Awrite object name (string_data text),
    .handle .H5Aclose, .handle .H5Sclose, .handle .H5Tclose]

/-- One unsigned 64-bit value in a scalar attribute. -/
def write_uint64_attribute (object : Path) (name : String) (value : UInt64) : List Call :=
  [.handle .H5Screate, .H5Acreate2 object name .uint64, .H5Awrite object name (.uint64 value),
    .handle .H5Aclose, .handle .H5Sclose]

/-- One `int` in a scalar attribute. -/
def write_int_attribute (object : Path) (name : String) (value : Int32) : List Call :=
  [.handle .H5Screate, .H5Acreate2 object name .int, .H5Awrite object name (.int value),
    .handle .H5Aclose, .handle .H5Sclose]

/-- The HDF5 type of the elements of a vector. -/
def Hdf5Datatype : Elements → DataType
  | .uchar _ => .uchar
  | .int64 _ => .int64

/-- The number of elements of a vector. -/
def elements_size : Elements → Nat
  | .uchar data => data.length
  | .int64 data => data.length

/-- A dataset of one dimension; an empty one is created but not written. -/
def write_dataset (group : Path) (name : String) (data : Elements) : List Call :=
  [.handle .H5Screate_simple, .H5Dcreate2 group name (Hdf5Datatype data) [elements_size data]] ++
    (if elements_size data = 0 then [] else [.H5Dwrite group name data]) ++
    [.handle .H5Dclose, .handle .H5Sclose]

/-- The dataset which `write_dataset` leaves: an empty one is never written. -/
def stored_dataset (data : Elements) : Dataset :=
  ⟨Hdf5Datatype data, [elements_size data], if elements_size data = 0 then none else some data⟩

/-- The calls for a text add one attribute. -/
theorem exec_write_string_attribute (object : Path) (name text : String) (rest : List Call) :
    exec (write_string_attribute object name text ++ rest) =
      fun file => (file.add_attr object name (string_data text)).bind (exec rest) := by
  simp only [write_string_attribute, List.cons_append, List.nil_append, exec_handle, exec_attribute]

theorem exec_write_uint64_attribute (object : Path) (name : String) (value : UInt64)
    (rest : List Call) :
    exec (write_uint64_attribute object name value ++ rest) =
      fun file => (file.add_attr object name (.uint64 value)).bind (exec rest) := by
  simp only [write_uint64_attribute, List.cons_append, List.nil_append, exec_handle, exec_attribute]

theorem exec_write_int_attribute (object : Path) (name : String) (value : Int32) (rest : List Call) :
    exec (write_int_attribute object name value ++ rest) =
      fun file => (file.add_attr object name (.int value)).bind (exec rest) := by
  simp only [write_int_attribute, List.cons_append, List.nil_append, exec_handle, exec_attribute]

/-- The calls for a dataset link one dataset, with its elements or none written. -/
theorem exec_write_dataset (group : Path) (name : String) (data : Elements) (rest : List Call) :
    exec (write_dataset group name data ++ rest) =
      fun file => (file.link group name (.dataset (stored_dataset data))).bind (exec rest) := by
  unfold write_dataset stored_dataset
  by_cases hempty : elements_size data = 0
  · simp only [hempty, if_true, List.append_nil, List.cons_append, List.nil_append, exec_handle]
    exact funext fun file => exec_cons _ _ file
  · simp only [hempty, if_false, List.cons_append, List.nil_append, exec_handle, exec_dataset]

end krepe
