import Mathlib.Data.List.Infix
import Mathlib.Data.List.TakeWhile

namespace word

variable {α : Type} [DecidableEq α]

theorem dropInfix?_go_isSome {pattern : List α} (text skipped : List α) :
    (List.dropInfix?.go pattern text skipped).isSome ↔ pattern <:+: text := by
  induction text generalizing skipped with
  | nil =>
    rw [List.dropInfix?.go, List.infix_nil, ← List.isEmpty_iff]
    split
    · next hempty => exact iff_of_true rfl hempty
    · next hempty => exact iff_of_false Bool.false_ne_true hempty
  | cons a rest ih =>
    rw [List.dropInfix?.go]
    cases hprefix : (a :: rest).dropPrefix? pattern with
    | none =>
      have hnot : ¬ pattern <+: a :: rest := by
        rintro ⟨after, hafter⟩
        have hsome := List.dropPrefix?_append_of_beq after (beq_self_eq_true pattern)
        rw [hafter, hprefix] at hsome
        cases hsome
      rw [ih, List.infix_cons_iff, or_iff_right hnot]
    | some after =>
      obtain ⟨start, htext, hstart⟩ := List.dropPrefix?_eq_some_iff.mp hprefix
      refine iff_of_true rfl ?_
      rw [htext, eq_of_beq hstart]
      exact (List.prefix_append _ _).isInfix

/-- A search for a pattern finds it if it is anywhere in the text. -/
theorem dropInfix?_isSome {pattern text : List α} :
    (text.dropInfix? pattern).isSome ↔ pattern <:+: text :=
  dropInfix?_go_isSome text []

/-- A text is what stands before a word that is found, the word, and what stands behind it. -/
theorem append_of_dropInfix? {pattern text before after : List α}
    (hfound : text.dropInfix? pattern = some (before, after)) : text = before ++ pattern ++ after := by
  obtain ⟨⟨found, htext, hpattern⟩, _⟩ := List.dropInfix?_eq_some_iff.mp hfound
  rw [htext, eq_of_beq hpattern]

/-- A part of a text which is split is somewhere in it. -/
theorem infix_of_mem_splitOn {sep : α} {text part : List α} (hpart : part ∈ text.splitOn sep) :
    part <:+: text := by
  induction hlength : text.length using Nat.strong_induction_on generalizing text with
  | _ length ih =>
    by_cases hsep : sep ∈ text
    · obtain ⟨before, after, rfl, hbefore⟩ := List.eq_append_cons_of_mem hsep
      rw [List.splitOn_append_cons_self_of_not_mem hbefore, List.mem_cons] at hpart
      cases hpart with
      | inl hfirst => exact hfirst ▸ (List.prefix_append _ _).isInfix
      | inr hrest =>
        have hinfix := ih after.length (by simp at hlength; omega) hrest rfl
        exact hinfix.trans ((List.suffix_cons _ _).trans (List.suffix_append _ _)).isInfix
    · rw [List.splitOn_eq_singleton hsep, List.mem_singleton] at hpart
      exact hpart ▸ List.infix_rfl

/-- What stands between two separators, or between one and an end of the text, is
    a part of it. -/
theorem takeWhile_mem_splitOn {sep : α} {before rest : List α}
    (hbefore : before = [] ∨ before.getLast? = some sep) :
    rest.takeWhile (· ≠ sep) ∈ (before ++ rest).splitOn sep := by
  have hrest : rest.takeWhile (· ≠ sep) ∈ rest.splitOn sep := by
    by_cases hsep : sep ∈ rest
    · obtain ⟨part, later, rfl, hpart⟩ := List.eq_append_cons_of_mem hsep
      have hall : ∀ a ∈ part, decide (a ≠ sep) = true := fun a ha =>
        decide_eq_true fun heq => hpart (heq ▸ ha)
      rw [List.takeWhile_append_of_pos hall, List.takeWhile_cons_of_neg (by simp), List.append_nil,
        List.splitOn_append_cons_self_of_not_mem hpart]
      exact List.mem_cons_self
    · have hall : ∀ a ∈ rest, decide (a ≠ sep) = true := fun a ha =>
        decide_eq_true fun heq => hsep (heq ▸ ha)
      rw [List.takeWhile_eq_self_iff.mpr hall, List.splitOn_eq_singleton hsep]
      exact List.mem_singleton_self _
  rcases hbefore with rfl | hlast
  · exact hrest
  · obtain ⟨start, rfl⟩ := List.getLast?_eq_some_iff.mp hlast
    rw [List.append_assoc, List.singleton_append, List.splitOn_append_cons_self]
    exact List.mem_append_right _ hrest

/-- The parts of a text but the last one are those of the text before its last separator. -/
theorem dropLast_splitOn {sep : α} {before last : List α} (hlast : sep ∉ last) :
    ((before ++ sep :: last).splitOn sep).dropLast = before.splitOn sep := by
  rw [List.splitOn_append_cons_self, List.splitOn_eq_singleton hlast, List.dropLast_concat]

/-- A text can be put together again from its parts. -/
theorem splitOn_injective (sep : α) : Function.Injective (List.splitOn sep) :=
  Function.LeftInverse.injective fun _ => List.intercalate_splitOn sep

end word
