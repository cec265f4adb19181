import Mathlib.Logic.Basic

namespace krepe

/-- What a dump reports: whether it succeeded, the path of its file, and the error. -/
structure ViewDumpResult where
  ok : Bool
  filename : String
  error : String
  deriving DecidableEq, Repr

/-- The size of an index type in bytes and whether it has a sign. -/
structure IndexTypeDesc where
  /-- A `std::size_t`. -/
  size : Nat
  is_signed : Bool
  deriving DecidableEq, Repr

/-- A launch over the indices below an end. -/
structure ScalarPolicyDesc where
  «end» : UInt64
  deriving DecidableEq, Repr

/-- A range policy, with its bounds as 64-bit words. -/
structure RangePolicyDesc where
  index_type_desc : IndexTypeDesc
  space : String
  schedule : String
  begin : UInt64
  «end» : UInt64
  chunk_size : Int32
  deriving DecidableEq, Repr

/-- A policy over several dimensions, with its bounds and tile as the policy stores them. -/
structure MDRangePolicyDesc where
  index_type_desc : IndexTypeDesc
  space : String
  schedule : String
  /-- A `std::size_t`. -/
  rank : Nat
  outer_dir : String
  inner_dir : String
  begin : List Int64
  «end» : List Int64
  tile : List Int64
  deriving DecidableEq, Repr

/-- A team policy, where -1 stands for an extent or a scratch size which is not known. -/
structure TeamPolicyDesc where
  index_type_desc : IndexTypeDesc
  space : String
  schedule : String
  team_size : Int32
  league_size : Int32
  vector_length : Int32
  team_scratch_0 : Int32
  team_scratch_1 : Int32
  thread_scratch_0 : Int32
  thread_scratch_1 : Int32
  chunk_size : Int32
  deriving DecidableEq, Repr

/-- The descriptor of the policy of a launch; the first alternative is what the tool starts with. -/
inductive PolicyDesc where
  | no_policy
  | scalar (policy : ScalarPolicyDesc)
  | range (policy : RangePolicyDesc)
  | mdrange (policy : MDRangePolicyDesc)
  | team (policy : TeamPolicyDesc)
  deriving DecidableEq, Repr

end krepe
