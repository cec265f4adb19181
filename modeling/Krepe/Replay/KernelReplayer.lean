import Krepe.Replay.Machine

open std hdf5 memory

namespace krepe

namespace impl

variable (machine : ReplayMachine)

/-- The text of a call which visits the links of a group. -/
def H5Literate_by_name (name callback data : String) : String :=
  "H5Literate_by_name( file.get(), \"" ++ name ++ "\", H5_INDEX_NAME, H5_ITER_NATIVE, &idx, " ++
    callback ++ ", " ++ data ++ ", H5P_DEFAULT)"

/-- The callback is run for one link of a group after the other. -/
def literate {A : Type} (file : File) (group : Path) (expr : String)
    (callback : String → A → Except Failure A) (data : A) : Except Failure A :=
  match file.group? group with
  | none => throw (check_failure expr)
  | some node =>
    (machine.iteration_order node.links).foldlM (fun data name => callback name data) data

/-- The product of two values of `int`, which may not overflow. -/
def multiply_int (left right : Int32) : Except Failure Int32 :=
  let product := left.toInt * right.toInt
  if -2 ^ 31 ≤ product ∧ product < 2 ^ 31 then pure (Int32.ofInt product)
  else throw .undefined_behavior

/-- `std::reduce` of the dimensions with an initial value of type `int`. As long
    as there are four, two pairs of them are multiplied and narrowed to `int`, and
    all else is multiplied as `int`; the rest is multiplied one by one as
    `hsize_t`, and each product narrowed. -/
def reduce (init : Int32) : List Nat → Except Failure Int32
  | first :: second :: third :: fourth :: rest => do
    let v1 := Int32.ofNat (first * second)
    let v2 := Int32.ofNat (third * fourth)
    let v3 ← multiply_int v1 v2
    let init ← multiply_int init v3
    reduce init rest
  | dims => pure (dims.foldl (fun init dim => Int32.ofNat ((as_size_t init).toNat * dim)) init)

/-- The `std::size_t` which is initialised with the product of the dimensions. -/
def buffer_size (dims : List Nat) : Except Failure Nat := do
  let product ← reduce 1 dims
  pure (as_size_t product).toNat

/-- A dataset of bytes. Only an assertion detects another type. -/
def open_uchar_dataset (file : File) (dataset_name : Path) (expr : String) : Except Failure Dataset :=
  match file.dataset? dataset_name with
  | none => throw (check_failure expr)
  | some dataset => if dataset.type = .uchar then pure dataset else throw .undefined_behavior

/-- The bytes of a dataset, whose elements have to be bytes. -/
def read_uchar (dataset : Dataset) : Except Failure (List UInt8) :=
  match dataset.read_uchar with
  | some data => pure data
  | none => throw .undefined_behavior

/-- The bytes of a dataset are stored from the start of a buffer, and past its end
    when it is too small. -/
def read_into (buffer data : List UInt8) : Except Failure (List UInt8) :=
  if data.length ≤ buffer.length then pure (data ++ buffer.drop data.length)
  else throw .undefined_behavior

/-- The dataset `bytes` of the group of an allocation. -/
def bytes_dataset (file : File) (object : Path) : Except Failure Dataset :=
  open_uchar_dataset file (object ++ ["bytes"])
    "H5LTget_dataset_ndims(group, dataset_name.c_str(), &rank)"

/-- The visit of one group which collects what has to be reserved in a memory space. -/
def get_hdf5_dataset_alloc_info (target_memory_space : MemorySpaceType) (file : File) (group : Path)
    (name : String) (allocation_set : AllocationSet) : Except Failure AllocationSet := do
  let object := group ++ [name]
  let space ← get_hdf5_string_attribute file object "space"
  let p_data ← get_hdf5_string_attribute file object "p_data"
  let address ← stoull_hex p_data
  let memory_space := memory_space_type_from_string space
  if memory_space ≠ target_memory_space then return allocation_set
  let dataset ← bytes_dataset file object
  let buffer_size ← buffer_size dataset.dims
  if buffer_size = 0 then return allocation_set
  let allocation_info ← get_space_allocation_address machine address buffer_size memory_space
  return allocation_set.insert (toLex allocation_info)

/-- The visit of one attribute of the metadata: the first value for a name is kept. -/
def read_hdf5_metadata (file : File) (group : Path) (name : String) (metadata : UnorderedMap String String) :
    Except Failure (UnorderedMap String String) := do
  let attr ← get_hdf5_string_attribute file group name
  return if (metadata.lookup name).isSome then metadata else metadata.insert name attr

/-- The visit of one group which copies its bytes: they go through a host buffer to what the
    callback does with them, and an empty dataset goes there as an empty buffer. -/
def allocate_hdf5_dataset {A : Type} (file : File) (group : Path)
    (allocate_fun : String → String → Nat → List UInt8 → A → Except Failure A) (name : String)
    (data : A) : Except Failure A := do
  let object := group ++ [name]
  let label ← get_hdf5_string_attribute file object "label"
  let space ← get_hdf5_string_attribute file object "space"
  let p_data ← get_hdf5_string_attribute file object "p_data"
  let address ← stoull_hex p_data
  let dataset ← bytes_dataset file object
  let buffer_size ← buffer_size dataset.dims
  if buffer_size = 0 then allocate_fun label space 0 [] data
  else
    let memory_space := memory_space_type_from_string space
    let buffer ← allocate_host_buffer machine buffer_size memory_space
    let bytes ← read_uchar dataset
    let buffer ← read_into buffer bytes
    allocate_fun label space address buffer data

/-- The visit of one group of the output, which passes over an allocation whose bytes were not
    dumped. -/
def allocate_hdf5_output_dataset {A : Type} (file : File) (group : Path)
    (allocate_fun : String → String → Nat → List UInt8 → A → Except Failure A) (name : String)
    (data : A) : Except Failure A := do
  let bytes_dumped ← get_hdf5_int_attribute file (group ++ [name]) "bytes_dumped"
  if bytes_dumped = 0 then return data
  allocate_hdf5_dataset machine file group allocate_fun name data

/-- Both arrays are resized to the extent of their datasets. The assertions are on
    one dimension and on the type. -/
def read_functor_array (file : File) (dataset_name : Path) (expr : String) :
    Except Failure (List UInt8) := do
  let dataset ← open_uchar_dataset file dataset_name expr
  match dataset.dims with
  | [_] => read_uchar dataset
  | _ => throw .undefined_behavior

/-- The bytes of the functor, and those of the host lambda where the workaround for `nvcc` is in
    use. -/
def read_functor_from_hdf5 (file : File) : Except Failure (List UInt8 × List UInt8) := do
  let functor_data ← read_functor_array file ["functor", "functor"]
    "H5LTget_dataset_ndims(file, \"functor/functor\", &rank)"
  if machine.use_nvcc_hdl_workaround then
    let nvcc_inner_lambda_data ← read_functor_array file ["functor", "nvcc_inner_lambda"]
      "H5LTget_dataset_ndims(file, \"functor/nvcc_inner_lambda\", &rank)"
    return (functor_data, nvcc_inner_lambda_data)
  return (functor_data, [])

/-- The attributes of the group are visited like links are. -/
def read_metadata (file : File) : Except Failure (UnorderedMap String String) :=
  match file.group? ["metadata"] with
  | none => throw (check_failure "H5Aiterate_by_name(file.get(), \"metadata\", H5_INDEX_NAME, H5_ITER_NATIVE, &idx, impl::read_hdf5_metadata, nullptr, H5P_DEFAULT)")
  | some node =>
    (machine.iteration_order (node.attrs.map Prod.fst)).foldlM
      (fun metadata name => read_hdf5_metadata file ["metadata"] name metadata) ∅

end impl

open impl ordered_set

namespace ScopeGuard

variable (machine : ReplayMachine)

/-- The group with the allocations before the kernel. -/
def in_views : Path := ["in", "views"]

/-- The group with the allocations after the kernel. -/
def out_views : Path := ["out", "views"]

/-- The ranges of one memory space which the allocations are in, all reserved. -/
def reserve (file : File) (memory_space : MemorySpaceType) (callback allocation_locs : String)
    (guard : ScopeGuard) : Except Failure ScopeGuard := do
  let allocations ← literate machine file in_views
    (H5Literate_by_name "in/views" callback allocation_locs)
    (get_hdf5_dataset_alloc_info machine memory_space file in_views) OrderedSet.empty
  (compute_allocations allocations).foldlM
    (fun guard range => guard.allocate machine memory_space range) guard

/-- The first part of the constructor, which restores the inputs. -/
def load_input (file : File) : Except Failure ScopeGuard := do
  let guard ← reserve machine file .HOST
    "impl::get_hdf5_dataset_alloc_info<impl::MemorySpaceType::HOST>" "&host_allocation_locs"
    (ScopeGuard.initial machine)
  device_init machine
  let guard ← reserve machine file .DEVICE
    "impl::get_hdf5_dataset_alloc_info<impl::MemorySpaceType::DEVICE>" "&device_allocation_locs" guard
  let guard ← literate machine file in_views
    (H5Literate_by_name "in/views" "impl::allocate_hdf5_dataset" "&copy_data_wrapper")
    (allocate_hdf5_dataset machine file in_views
      fun label memory_space address data guard =>
        copy_data_wrapper machine guard label memory_space address data) guard
  let metadata ← read_metadata machine file
  let (functor_data, nvcc_inner_lambda_data) ← read_functor_from_hdf5 machine file
  let replay_policy ← read_policy_from_hdf5 machine.build file
  return { guard with metadata, functor_data, nvcc_inner_lambda_data, replay_policy }

/-- `H5Lexists(file.get(), "out", H5P_DEFAULT)`, and then on `"out/views"`. -/
def has_output (file : File) : Except Failure Bool := do
  let some root := file.group? [] | throw (check_failure "has_output")
  if "out" ∈ root.links then
    let some out := file.group? ["out"] | throw (check_failure "has_output")
    return "views" ∈ out.links
  return false

/-- The second part, which allocates the outputs if there are any. -/
def load_output (file : File) (guard : ScopeGuard) : Except Failure ScopeGuard := do
  let has_output ← has_output file
  if has_output then
    literate machine file out_views
      (H5Literate_by_name "out/views" "impl::allocate_hdf5_output_dataset" "&allocate_wrapper")
      (allocate_hdf5_output_dataset machine file out_views
        fun label memory_space _ data guard => allocate_output machine guard label memory_space data)
      guard
  else return guard

/-- The constructor, on a dump which was opened. -/
def load (file : File) : Except Failure ScopeGuard := do
  let guard ← load_input machine file
  load_output machine file guard

end ScopeGuard

end krepe
