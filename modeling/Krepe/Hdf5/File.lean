import Mathlib.Algebra.Group.Nat.Defs
import Mathlib.Data.List.Nodup
import Mathlib.Logic.Function.Basic

namespace hdf5

/-- Names of the links from the root of a file to an object. -/
abbrev Path := List String

/-- The types of the attributes in a dump; a string has a fixed size, with its terminator. -/
inductive AttrType where
  | string (size : Nat)
  | uint64
  | int
  deriving DecidableEq, Repr

/-- The data of an attribute. A string has all the bytes of its type, the
    terminator included. -/
inductive AttrValue where
  | string (data : String)
  | uint64 (value : UInt64)
  | int (value : Int32)
  deriving DecidableEq, Repr

/-- A created attribute reads as zeros until it is written. -/
def AttrType.fill : AttrType → AttrValue
  | .string size => .string (String.ofList (List.replicate size '\x00'))
  | .uint64 => .uint64 0
  | .int => .int 0

/-- The types of the elements of a dataset. -/
inductive DataType where
  | uchar
  | int64
  deriving DecidableEq, Repr

/-- The elements of a dataset, of one type. -/
inductive Elements where
  | uchar (data : List UInt8)
  | int64 (data : List Int64)
  deriving DecidableEq, Repr

/-- A dataset has storage only once it was written. -/
structure Dataset where
  type : DataType
  dims : List Nat
  data : Option Elements
  deriving DecidableEq, Repr

/-- The attributes and the links of a group, in the order of their creation. -/
structure Group where
  attrs : List (String × AttrValue)
  links : List String
  deriving DecidableEq, Repr

/-- A new group. -/
def Group.empty : Group := ⟨[], []⟩

/-- What a path of a file names. -/
inductive Object where
  | group (group : Group)
  | dataset (dataset : Dataset)
  deriving DecidableEq, Repr

/-- The objects of a file by their paths. -/
abbrev File := Path → Option Object

/-- The group at a path. -/
def File.group? (file : File) (path : Path) : Option Group :=
  match file path with
  | some (.group group) => some group
  | _ => none

/-- The dataset at a path. -/
def File.dataset? (file : File) (path : Path) : Option Dataset :=
  match file path with
  | some (.dataset dataset) => some dataset
  | _ => none

/-- An attribute of the group at a path. -/
def File.attr? (file : File) (path : Path) (name : String) : Option AttrValue :=
  (file.group? path).bind fun group => group.attrs.lookup name

/-- A file with an object put at a path. -/
def File.set (file : File) (path : Path) (object : Object) : File :=
  Function.update file path (some object)

@[simp]
theorem File.set_self (file : File) (path : Path) (object : Object) :
    file.set path object path = some object := by
  simp [File.set]

theorem File.set_of_ne (file : File) {path other : Path} (object : Object) (hne : other ≠ path) :
    file.set path object other = file other := by
  simp [File.set, hne]

theorem File.group?_eq_some {file : File} {path : Path} {group : Group} :
    file.group? path = some group ↔ file path = some (.group group) := by
  unfold File.group?
  split <;> simp_all

theorem File.dataset?_eq_some {file : File} {path : Path} {dataset : Dataset} :
    file.dataset? path = some dataset ↔ file path = some (.dataset dataset) := by
  unfold File.dataset?
  split <;> simp_all

theorem File.attr?_of_group {file : File} {path : Path} {group : Group}
    (hgroup : file path = some (.group group)) (name : String) :
    file.attr? path name = group.attrs.lookup name := by
  simp [File.attr?, File.group?, hgroup]

/-- An attribute of a group without duplicate names is found by its name. -/
theorem File.attr?_of_mem {file : File} {path : Path} {group : Group} {name : String} {value : AttrValue}
    (hgroup : file path = some (.group group)) (hnodup : (group.attrs.map Prod.fst).Nodup)
    (hmem : (name, value) ∈ group.attrs) : file.attr? path name = some value := by
  obtain ⟨before, after, hattrs⟩ := List.append_of_mem hmem
  rw [File.attr?_of_group hgroup, List.lookup_eq_some_iff]
  refine ⟨before, after, hattrs, fun attr hattr => bne_iff_ne.mpr fun heq => ?_⟩
  rw [hattrs, List.map_append, List.map_cons] at hnodup
  exact List.disjoint_of_nodup_append hnodup (List.mem_map_of_mem hattr) (heq ▸ List.mem_cons_self)

/-- The number of elements of a dataset of these dimensions. -/
def extent (dims : List Nat) : Nat := dims.prod

/-- Bytes read from a dataset, zeros where none were written. -/
def Dataset.read_uchar (dataset : Dataset) : Option (List UInt8) :=
  match dataset.type, dataset.data with
  | .uchar, some (.uchar data) => some data
  | .uchar, none => some (List.replicate (extent dataset.dims) 0)
  | _, _ => none

/-- The elements of a dataset of 64-bit numbers, zeros where none were written. -/
def Dataset.read_int64 (dataset : Dataset) : Option (List Int64) :=
  match dataset.type, dataset.data with
  | .int64, some (.int64 data) => some data
  | .int64, none => some (List.replicate (extent dataset.dims) 0)
  | _, _ => none

end hdf5
