import Mathlib.Data.List.Sort
import Mathlib.Order.Lattice
import Mathlib.Tactic.Tauto

namespace ordered_set

/-- A finite set kept as its strictly ascending list of elements. -/
structure OrderedSet (A : Type) [LinearOrder A] where
  elems : List A
  ascending : elems.Pairwise (· < ·)

namespace OrderedSet

variable {A : Type} [LinearOrder A]

/-- The set without elements. -/
def empty : OrderedSet A := ⟨[], List.Pairwise.nil⟩

instance : Membership A (OrderedSet A) := ⟨fun set element => element ∈ set.elems⟩

@[simp]
theorem mem_elems {set : OrderedSet A} {element : A} : element ∈ set.elems ↔ element ∈ set := Iff.rfl

@[simp]
theorem not_mem_empty (element : A) : element ∉ (empty : OrderedSet A) :=
  List.not_mem_nil

/-- Inserting a new element into a strictly ascending list keeps it strictly
    ascending. -/
private theorem orderedInsert_ascending {elems : List A} (hascending : elems.Pairwise (· < ·))
    {element : A} (hnew : element ∉ elems) :
    (elems.orderedInsert (· ≤ ·) element).Pairwise (· < ·) := by
  induction elems with
  | nil => simp
  | cons head tail ih =>
    obtain ⟨hhead, htail⟩ := List.pairwise_cons.mp hascending
    simp only [List.mem_cons, not_or] at hnew
    rw [List.orderedInsert_cons]
    split
    · next hle =>
      have hlt : element < head := lt_of_le_of_ne hle hnew.1
      refine List.pairwise_cons.mpr ⟨fun other hother => ?_, hascending⟩
      rcases List.mem_cons.mp hother with rfl | hother
      · exact hlt
      · exact hlt.trans (hhead other hother)
    · next hnle =>
      refine List.pairwise_cons.mpr ⟨fun other hother => ?_, ih htail hnew.2⟩
      rcases (List.mem_orderedInsert _).mp hother with rfl | hother
      · exact not_le.mp hnle
      · exact hhead other hother

/-- Insertion has no effect on an element which the set already has. -/
def insert (element : A) (set : OrderedSet A) : OrderedSet A :=
  if hmem : element ∈ set.elems then set
  else ⟨set.elems.orderedInsert (· ≤ ·) element, orderedInsert_ascending set.ascending hmem⟩

/-- An insertion adds one element. -/
@[simp]
theorem mem_insert {element other : A} {set : OrderedSet A} :
    other ∈ insert element set ↔ other = element ∨ other ∈ set := by
  unfold insert
  split
  · next hmem =>
    constructor
    · exact Or.inr
    · rintro (rfl | hother)
      · exact hmem
      · exact hother
  · exact List.mem_orderedInsert _

/-- Membership in a set filled by one insertion for each item of a list. -/
theorem mem_foldl_insert {B : Type} (f : B → A) (items : List B) (set : OrderedSet A) (element : A) :
    element ∈ items.foldl (fun set item => set.insert (f item)) set ↔
      element ∈ set ∨ ∃ item ∈ items, element = f item := by
  induction items generalizing set with
  | nil => simp
  | cons item rest ih =>
    rw [List.foldl_cons, ih, mem_insert]
    simp only [List.mem_cons, exists_eq_or_imp]
    tauto

/-- The set of the items of a list, inserted one after the other. -/
def of_list (items : List A) : OrderedSet A :=
  items.foldl (fun set item => set.insert item) empty

/-- A set made of a list has the elements of the list. -/
@[simp]
theorem mem_of_list {items : List A} {element : A} : element ∈ of_list items ↔ element ∈ items := by
  have hmem := mem_foldl_insert id items empty element
  simpa [of_list] using hmem

/-- A strictly ascending list is the list of its set. -/
theorem elems_of_list {items : List A} (hascending : items.Pairwise (· < ·)) :
    (of_list items).elems = items := by
  refine List.Pairwise.eq_of_mem_iff (of_list items).ascending hascending fun element => ?_
  exact mem_of_list

end OrderedSet

end ordered_set
