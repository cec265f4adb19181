import Krepe.Interval.Sweep

open interval

namespace memory

/-- An address space: the mapped regions, what they hold when they are new, and
    the copies made to them, the last one first. -/
structure Memory (B : Type) where
  fresh : Nat → B
  regions : List (Nat × Nat)
  copies : List (Nat × List B)

namespace Memory

variable {B : Type}

/-- A memory without regions and copies, where a fresh byte reads as the system made it. -/
def unmapped (fresh : Nat → B) : Memory B := ⟨fresh, [], []⟩

/-- Some region contains the address. -/
def Mapped (memory : Memory B) (address : Nat) : Prop :=
  ∃ region ∈ memory.regions, region.1 ≤ address ∧ address < region.1 + region.2

instance (memory : Memory B) (address : Nat) : Decidable (memory.Mapped address) :=
  inferInstanceAs (Decidable (∃ region ∈ memory.regions, _ ∧ _))

/-- One more region. -/
def map (memory : Memory B) (region : Nat × Nat) : Memory B :=
  { memory with regions := memory.regions ++ [region] }

/-- More regions, in their order. -/
def map_all (memory : Memory B) (regions : List (Nat × Nat)) : Memory B :=
  { memory with regions := memory.regions ++ regions }

/-- A copy is made only to mapped addresses. -/
def write (memory : Memory B) (start : Nat) (data : List B) : Option (Memory B) :=
  if ∀ offset < data.length, memory.Mapped (start + offset) then
    some { memory with copies := (start, data) :: memory.copies }
  else none

/-- What a copy left at an address. -/
def copied (address : Nat) (copy : Nat × List B) : Option B :=
  if copy.1 ≤ address then copy.2[address - copy.1]? else none

/-- The byte of the last copy over the address, else the fresh one; outside of the regions there
    is nothing to read. -/
def read (memory : Memory B) (address : Nat) : Option B :=
  if memory.Mapped address then
    some ((memory.copies.findSome? (copied address)).getD (memory.fresh address))
  else none

/-- The copy holds what `byte` has at its addresses. -/
def CopyOf (byte : Nat → B) (copy : Nat × List B) : Prop :=
  ∀ offset < copy.2.length, copy.2[offset]? = some (byte (copy.1 + offset))

theorem map_all_nil (memory : Memory B) : memory.map_all [] = memory := by
  simp [map_all]

theorem map_map_all (memory : Memory B) (regions : List (Nat × Nat)) (region : Nat × Nat) :
    (memory.map_all regions).map region = memory.map_all (regions ++ [region]) := by
  simp [map_all, map]

/-- The cells of a region are mapped. -/
theorem mapped_of_mem {memory : Memory B} {region : Nat × Nat} (hregion : region ∈ memory.regions)
    {address : Nat} (hcell : address ∈ cells region) : memory.Mapped address :=
  ⟨region, hregion, hcell⟩

/-- A write succeeds where every address of it is mapped, and is the newest copy then. -/
theorem write_eq_some {memory next : Memory B} {start : Nat} {data : List B} :
    memory.write start data = some next ↔
      (∀ offset < data.length, memory.Mapped (start + offset)) ∧
        next = { memory with copies := (start, data) :: memory.copies } := by
  unfold write
  split
  · next hmapped =>
    rw [Option.some.injEq]
    exact ⟨fun heq => ⟨hmapped, heq.symm⟩, fun hwritten => hwritten.2.symm⟩
  · next hunmapped =>
    simp only [reduceCtorEq, false_iff]
    exact fun hwritten => hunmapped hwritten.1

/-- What a copy of some bytes gives for an address is the byte there. -/
theorem CopyOf.copied_eq {byte : Nat → B} {copy : Nat × List B} (hcopy : CopyOf byte copy)
    {address : Nat} {value : B} (hcopied : copied address copy = some value) : value = byte address := by
  unfold copied at hcopied
  split at hcopied
  · next hstart =>
    obtain ⟨hlength, _⟩ := List.getElem?_eq_some_iff.mp hcopied
    rw [hcopy _ hlength, Nat.add_sub_cancel' hstart] at hcopied
    exact (Option.some.inj hcopied).symm
  · cases hcopied

/-- A copy has every address in its length. -/
theorem CopyOf.copied_isSome {byte : Nat → B} {copy : Nat × List B} (hcopy : CopyOf byte copy)
    {offset : Nat} (hoffset : offset < copy.2.length) :
    (copied (copy.1 + offset) copy).isSome = true := by
  simp [copied, hcopy offset hoffset]

/-- Where every copy is one of the same source, whatever they overlap, each of
    them is still read as that source. -/
theorem read_of_copyOf {memory : Memory B} {byte : Nat → B}
    (hcopies : ∀ copy ∈ memory.copies, CopyOf byte copy) {copy : Nat × List B}
    (hcopy : copy ∈ memory.copies) {offset : Nat} (hoffset : offset < copy.2.length)
    (hmapped : memory.Mapped (copy.1 + offset)) :
    memory.read (copy.1 + offset) = some (byte (copy.1 + offset)) := by
  rw [read, if_pos hmapped]
  cases hfound : memory.copies.findSome? (copied (copy.1 + offset)) with
  | none =>
    have hnone := List.findSome?_eq_none_iff.mp hfound copy hcopy
    have hsome := (hcopies copy hcopy).copied_isSome hoffset
    rw [hnone] at hsome
    cases hsome
  | some value =>
    obtain ⟨other, hother, hcopied⟩ := List.exists_of_findSome?_eq_some hfound
    rw [Option.getD_some, (hcopies other hother).copied_eq hcopied]

end Memory

end memory
