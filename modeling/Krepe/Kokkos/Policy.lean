import Mathlib.Algebra.Order.Monoid.Unbundled.Pow
import Mathlib.Algebra.Order.Ring.Int

namespace kokkos

/-- The index types of a policy, by their size and sign. -/
inductive IndexType where
  | int8
  | uint8
  | int16
  | uint16
  | int32
  | uint32
  | int64
  | uint64
  deriving DecidableEq, Repr

/-- `sizeof`. -/
def IndexType.size : IndexType → Nat
  | .int8 | .uint8 => 1
  | .int16 | .uint16 => 2
  | .int32 | .uint32 => 4
  | .int64 | .uint64 => 8

/-- The index type has negative values. -/
def IndexType.is_signed : IndexType → Bool
  | .int8 | .int16 | .int32 | .int64 => true
  | .uint8 | .uint16 | .uint32 | .uint64 => false

/-- The values of an index type are words of its size. -/
abbrev IndexType.Value (index_type : IndexType) : Type := BitVec (8 * index_type.size)

/-- The number which a value of the type stands for. -/
def IndexType.toInt (index_type : IndexType) (value : index_type.Value) : Int :=
  if index_type.is_signed then value.toInt else value.toNat

/-- A conversion of a number to the type keeps it modulo the width. -/
def IndexType.ofInt (index_type : IndexType) (number : Int) : index_type.Value :=
  BitVec.ofInt (8 * index_type.size) number

/-- How the iterations are handed out. -/
inductive Schedule where
  | Static
  | Dynamic
  deriving DecidableEq, Repr

/-- The direction of an iteration over several dimensions. -/
inductive Iterate where
  | Default
  | Left
  | Right
  deriving DecidableEq, Repr

/-- The execution spaces which a dump can name. -/
inductive ExecutionSpace where
  | Serial
  | OpenMP
  | Threads
  | HPX
  | Cuda
  | HIP
  | SYCL
  deriving DecidableEq, Repr

/-- The name which an execution space gives itself. -/
def ExecutionSpace.name : ExecutionSpace → String
  | .Serial => "Serial"
  | .OpenMP => "OpenMP"
  | .Threads => "Threads"
  | .HPX => "HPX"
  | .Cuda => "Cuda"
  | .HIP => "HIP"
  | .SYCL => "SYCL"

/-- A policy over a range of one dimension, with its values in the index type. -/
structure RangePolicy where
  execution_space : ExecutionSpace
  schedule_type : Schedule
  index_type : IndexType
  begin : index_type.Value
  «end» : index_type.Value
  chunk_size : index_type.Value
  deriving DecidableEq, Repr

/-- Its directions are those of the execution space where none are given. -/
structure MDRangePolicy where
  execution_space : ExecutionSpace
  schedule_type : Schedule
  index_type : IndexType
  rank : Nat
  outer_direction : Iterate
  inner_direction : Iterate
  m_lower : Vector Int64 rank
  m_upper : Vector Int64 rank
  m_tile : Vector Int64 rank
  outer_resolved : outer_direction ≠ .Default
  inner_resolved : inner_direction ≠ .Default
  deriving DecidableEq, Repr

/-- A team size or a vector length: left to Kokkos, or a given number. -/
inductive TeamExtent where
  | AUTO
  | fixed (value : Int32) (nonneg : 0 ≤ value)
  deriving DecidableEq, Repr

/-- Bytes of scratch memory for both levels. -/
structure ScratchSize where
  level0 : UInt64
  level1 : UInt64
  deriving DecidableEq, Repr

/-- No scratch memory at either level. -/
def ScratchSize.unset : ScratchSize := ⟨0, 0⟩

/-- A league of teams, with the scratch memory of the teams and of their threads. -/
structure TeamPolicy where
  execution_space : ExecutionSpace
  schedule_type : Schedule
  index_type : IndexType
  league_size : Int32
  team_size : TeamExtent
  vector_length : TeamExtent
  team_scratch_size : ScratchSize
  thread_scratch_size : ScratchSize
  chunk_size : Int32
  deriving DecidableEq, Repr

/-- What bounds a `parallel_for`: a number of iterations or a policy. -/
inductive Policy where
  | scalar (N : UInt64)
  | range (policy : RangePolicy)
  | mdrange (policy : MDRangePolicy)
  | team (policy : TeamPolicy)
  deriving DecidableEq, Repr

/-- A value of an index type is its own integer. -/
@[simp]
theorem IndexType.ofInt_toInt (index_type : IndexType) (value : index_type.Value) :
    index_type.ofInt (index_type.toInt value) = value := by
  unfold IndexType.ofInt IndexType.toInt
  cases index_type.is_signed with
  | true => exact BitVec.ofInt_toInt
  | false =>
    show BitVec.ofInt (8 * index_type.size) value.toNat = value
    rw [BitVec.ofInt_natCast, BitVec.ofNat_toNat, BitVec.setWidth_eq]

theorem IndexType.size_le (index_type : IndexType) : index_type.size ≤ 8 := by
  cases index_type <;> decide

/-- Every value of a signed index type is one of `std::int64_t`. -/
theorem IndexType.toInt_bounds {index_type : IndexType} (hsigned : index_type.is_signed = true)
    (value : index_type.Value) :
    -2 ^ 63 ≤ index_type.toInt value ∧ index_type.toInt value < 2 ^ 63 := by
  have hlow := BitVec.le_two_mul_toInt (x := value)
  have hhigh := BitVec.two_mul_toInt_lt (x := value)
  have hpow : (2 : Int) ^ (8 * index_type.size) ≤ 2 ^ 64 :=
    pow_le_pow_right₀ (by omega) (by have := index_type.size_le; omega)
  rw [IndexType.toInt, if_pos hsigned]
  omega

/-- Every value of an unsigned index type is one of `std::uint64_t`. -/
theorem IndexType.toInt_unsigned {index_type : IndexType} (hsigned : index_type.is_signed = false)
    (value : index_type.Value) : index_type.toInt value = value.toNat ∧ value.toNat < 2 ^ 64 := by
  have hpow : 2 ^ (8 * index_type.size) ≤ 2 ^ 64 :=
    Nat.pow_le_pow_right (by omega) (by have := index_type.size_le; omega)
  refine ⟨?_, Nat.lt_of_lt_of_le value.isLt hpow⟩
  rw [IndexType.toInt, hsigned]
  rfl

end kokkos
