import Krepe.OrderedSet.Insert
import Mathlib.Algebra.Group.Nat.Defs
import Mathlib.Data.Prod.Lex

open ordered_set

namespace krepe.impl

/-- Address and size of a range, in the order of `std::pair<char*, std::size_t>`. -/
abbrev AllocationSet := OrderedSet (Nat ×ₗ Nat)

/-- The page or device granule aligned range reserved for `size` bytes at
    `target_address`, in `std::size_t` arithmetic. -/
def get_allocation_address (granularity target_address size : Nat) : Nat × Nat :=
  let aligned_address := target_address / granularity * granularity
  let size := (size + (target_address - aligned_address)) % 2 ^ 64
  -- `size - 1` wraps for a size of zero
  let total_size := (((size + (2 ^ 64 - 1)) % 2 ^ 64 / granularity + 1) * granularity) % 2 ^ 64
  (aligned_address, total_size)

/-- The merging pass with its current interval, which starts at `current_address`: an interval
    that starts before the end of the current one is merged into it, any other ends it. The
    arithmetic is that of 64-bit words. -/
def compute_allocations_loop (current_address current_size : Nat) :
    List (Nat × Nat) → List (Nat × Nat)
  | [] => [(current_address, current_size)]
  | (address, size) :: rest =>
    if (current_address + current_size) % 2 ^ 64 > address then
      let new_size := (address + size + (2 ^ 64 - current_address)) % 2 ^ 64
      let current_size := if new_size > current_size then new_size else current_size
      compute_allocations_loop current_address current_size rest
    else
      (current_address, current_size) :: compute_allocations_loop address size rest

/-- The merging pass over the intervals in the order of the set. -/
def compute_allocations (allocations : AllocationSet) : List (Nat × Nat) :=
  match allocations.elems.map ofLex with
  | [] => []
  | (current_address, current_size) :: rest =>
    compute_allocations_loop current_address current_size rest

end krepe.impl
