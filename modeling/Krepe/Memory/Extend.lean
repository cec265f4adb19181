import Mathlib.Data.List.Basic
import Mathlib.Logic.Function.Basic

namespace memory

variable {A : Type}

/-- What is kept under numbers, and then something more from a number on. -/
def extend (kept : Nat → Option A) (start : Nat) (more : List (Option A)) (id : Nat) : Option A :=
  if id < start then kept id else more[id - start]?.join

section

variable {kept : Nat → Option A} {start : Nat} {more : List (Option A)} {value : Option A} {id index : Nat}

theorem extend_of_lt (hid : id < start) : extend kept start more id = kept id := if_pos hid

/-- The blocks behind the start are those of the list. -/
@[simp]
theorem extend_add : extend kept start more (start + index) = more[index]?.join := by
  unfold extend
  rw [if_neg (Nat.not_lt.mpr (Nat.le_add_right start index)), Nat.add_sub_cancel_left]

theorem extend_nil (hfresh : ∀ id, start ≤ id → kept id = none) : extend kept start [] = kept := by
  funext id
  unfold extend
  split
  · rfl
  · next hid => exact (hfresh id (Nat.not_lt.mp hid)).symm

/-- An update behind the start is one of the list. -/
theorem update_extend (hindex : index < more.length) :
    Function.update (extend kept start more) (start + index) value = extend kept start (more.set index value) := by
  funext id
  by_cases hid : id = start + index
  · subst hid
    simp [hindex]
  · rw [Function.update_of_ne hid]
    unfold extend
    split
    · rfl
    · next hstart => rw [List.getElem?_set_ne (by omega)]

/-- What comes next is put behind the rest. -/
theorem update_extend_next :
    Function.update (extend kept start more) (start + more.length) value = extend kept start (more ++ [value]) := by
  funext id
  by_cases hid : id = start + more.length
  · subst hid
    simp
  · rw [Function.update_of_ne hid]
    unfold extend
    split
    · rfl
    · next hstart =>
      rcases Nat.lt_or_ge (id - start) more.length with hlt | hge
      · rw [List.getElem?_append_left hlt]
      · rw [List.getElem?_eq_none hge, List.getElem?_eq_none (by simp; omega)]

theorem extend_concat_none : extend kept start (more ++ [none]) = extend kept start more := by
  rw [← update_extend_next, Function.update_eq_self_iff]
  simp

end

end memory
