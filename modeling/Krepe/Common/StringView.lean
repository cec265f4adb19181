import Krepe.Common.Text
import Krepe.Word.Split

namespace std

/-- A view of the characters of an array, which is no larger than the largest object. -/
@[ext]
structure StringView where
  text : List Char
  size_lt : text.length < 2 ^ 63
  deriving DecidableEq

/-- The position which stands for none, the largest 64-bit number. -/
def npos : UInt64 := 0xFFFFFFFFFFFFFFFF

namespace StringView

variable (view : StringView)

/-- The number of characters, which fits 64 bits for every view. -/
def size : UInt64 := UInt64.ofNat view.text.length

/-- `view.find(pattern)`. -/
def find (pattern : StringView) : UInt64 :=
  match view.text.dropInfix? pattern.text with
  | some (before, _) => UInt64.ofNat before.length
  | none => npos

/-- `view.find(c, pos)`. -/
def find_char (c : Char) (pos : UInt64) : UInt64 :=
  let position := pos.toNat + (view.text.drop pos.toNat).findIdx (· = c)
  if position < view.text.length then UInt64.ofNat position else npos

/-- The last position of a character, or `npos`. -/
def find_last_of (c : Char) : UInt64 :=
  let after := view.text.reverse.findIdx (· = c)
  if after < view.text.length then UInt64.ofNat (view.text.length - 1 - after) else npos

/-- At most `count` characters from a position on, which may not lie behind the end. -/
def substr (pos count : UInt64) : Except Failure StringView :=
  if view.size < pos then throw .out_of_range
  else pure ⟨(view.text.drop pos.toNat).take count.toNat, by
    have hsize := view.size_lt
    rw [List.length_take, List.length_drop]
    omega⟩

theorem position_toNat {position : Nat} (hposition : position ≤ view.text.length) :
    (UInt64.ofNat position).toNat = position := by
  have hsize := view.size_lt
  have hlt : position < 2 ^ 64 := by omega
  exact UInt64.toNat_ofNat_of_lt' hlt

theorem npos_toNat : npos.toNat = 2 ^ 64 - 1 := rfl

variable {view}

theorem size_lt_iff {pos : UInt64} : view.size < pos ↔ view.text.length < pos.toNat := by
  rw [UInt64.lt_iff_toNat_lt, size, view.position_toNat (Nat.le_refl _)]

/-- A position behind the end throws. -/
theorem substr_of_lt {pos count : UInt64} (hpos : view.text.length < pos.toNat) :
    view.substr pos count = .error .out_of_range := by
  rw [substr, if_pos (size_lt_iff.mpr hpos)]
  rfl

/-- A position up to the end gives at most `count` characters from there on. -/
theorem substr_of_le {pos count : UInt64} (hpos : pos.toNat ≤ view.text.length) :
    ∃ part, view.substr pos count = .ok part ∧ part.text = (view.text.drop pos.toNat).take count.toNat := by
  rw [substr, if_neg (mt size_lt_iff.mp (Nat.not_lt.mpr hpos))]
  exact ⟨_, rfl, rfl⟩

/-- The difference to the next `c` counts the characters before it. To `npos`, where
    there is none, it is no less than the number of characters which are left. -/
theorem take_find_char (c : Char) {pos : UInt64} (hpos : pos.toNat ≤ view.text.length) :
    (view.text.drop pos.toNat).take (view.find_char c pos - pos).toNat =
      (view.text.drop pos.toNat).takeWhile (· ≠ c) := by
  have hsize := view.size_lt
  have hnot : (fun a => !decide (a ≠ c)) = fun a => decide (a = c) := by
    funext a
    simp
  rw [List.takeWhile_eq_take_findIdx_not, hnot, find_char]
  by_cases hfound : pos.toNat + (view.text.drop pos.toNat).findIdx (· = c) < view.text.length
  · have hposition := view.position_toNat (Nat.le_of_lt hfound)
    have hle : pos ≤ UInt64.ofNat (pos.toNat + (view.text.drop pos.toNat).findIdx (· = c)) := by
      rw [UInt64.le_iff_toNat_le, hposition]
      omega
    rw [if_pos hfound, UInt64.toNat_sub_of_le _ _ hle, hposition, Nat.add_sub_cancel_left]
  · have hle : pos ≤ npos := by
      rw [UInt64.le_iff_toNat_le, npos_toNat]
      omega
    have hlength := List.length_drop (i := pos.toNat) (l := view.text)
    rw [if_neg hfound, UInt64.toNat_sub_of_le _ _ hle, npos_toNat, List.take_of_length_le (by omega),
      List.take_of_length_le (by omega)]

/-- The characters before the last `c`, or all of them where there is none. -/
theorem substr_find_last_of (view : StringView) (c : Char) :
    ∃ part, view.substr 0 (view.find_last_of c) = .ok part ∧
      (c ∉ view.text ∧ part.text = view.text ∨ ∃ last, c ∉ last ∧ view.text = part.text ++ c :: last) := by
  obtain ⟨part, hpart, htext⟩ := @substr_of_le view 0 (view.find_last_of c) (Nat.zero_le _)
  refine ⟨part, hpart, ?_⟩
  have hsize := view.size_lt
  rw [UInt64.toNat_zero, List.drop_zero, find_last_of] at htext
  by_cases hmem : c ∈ view.text
  · obtain ⟨after, before, hreverse, hafter⟩ := List.eq_append_cons_of_mem (List.mem_reverse.mpr hmem)
    have htextEq : view.text = before.reverse ++ c :: after.reverse := by
      simpa using congrArg List.reverse hreverse
    have hindex : view.text.reverse.findIdx (· = c) = after.length := by
      rw [hreverse, List.findIdx_append, if_neg, List.findIdx_cons]
      · simp
      · rw [List.findIdx_lt_length]
        rintro ⟨a, ha, hc⟩
        exact hafter (of_decide_eq_true hc ▸ ha)
    have hlength : view.text.length = before.length + 1 + after.length := by
      rw [htextEq]
      simp
      omega
    have hlast : view.text.length - 1 - after.length = before.reverse.length := by
      rw [List.length_reverse]
      omega
    rw [hindex, if_pos (by omega), view.position_toNat (by omega), hlast] at htext
    have hbefore : part.text = before.reverse := by
      rw [htext, htextEq, List.take_left]
    exact Or.inr ⟨after.reverse, fun hlast => hafter (List.mem_reverse.mp hlast), hbefore ▸ htextEq⟩
  · have hindex : view.text.reverse.findIdx (· = c) = view.text.length := by
      rw [← @List.length_reverse _ view.text, List.findIdx_eq_length]
      intro a ha
      exact decide_eq_false fun heq => hmem (heq ▸ List.mem_reverse.mp ha)
    rw [hindex, if_neg (Nat.lt_irrefl _), npos_toNat, List.take_of_length_le (by omega)] at htext
    exact Or.inl ⟨hmem, htext⟩

end StringView

end std
