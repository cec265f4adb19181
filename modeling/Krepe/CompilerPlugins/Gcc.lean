import Krepe.CompilerPlugins.View

open subobject

namespace krepe.compiler_plugins.gcc

/-- The texts of the plugin's errors. -/
def messages : Messages where
  data_method := "ERROR: Failed to find the data method of Kokkos::View"
  memory_space := "ERROR: Failed to find the memory_space of Kokkos::View"
  name_function := "ERROR: Failed to find the name method of a memory space"

/-- The tests of `visit_view`: the name and the immediate context, which may be
    any namespace `Kokkos`. -/
def is_view (node : RecordDecl) : Bool :=
  if node.name ≠ "View" then false
  else
    match node.context with
    | .namespace_decl (some name) :: _ => name = "Kokkos"
    | _ => false

/-- `none` where the function returns false. -/
def visit_view (views : List ViewInfo) (root : Path) (node : RecordDecl) :
    Except String (Option (List ViewInfo)) :=
  if is_view node then (push_view messages views root node).map some else .ok none

/-- What the compiler prints where a plugin follows a null pointer. -/
def segmentation_fault : String := "internal compiler error: Segmentation fault"

mutual

/-- `visit` of a type. A record is visited by `visit_record`, whose loop over the
    fields is `visit_fields`. A pointer to a member function is a `RECORD_TYPE`
    too, without a `TYPE_NAME`, which `visit_view` takes the name of. -/
def visit (views : List ViewInfo) (root : Path) : Ty → Except String (List ViewInfo)
  | .record decl members =>
    (visit_view views root decl).bind fun found =>
      match found with
      | some views => .ok views
      | none => visit_fields views root 0 members
  | .member_function_pointer => .error segmentation_fault
  | .scalar => .ok views
  | .pointer _ => .ok views
  | .array _ _ => .ok views

/-- The fields which are no `FIELD_DECL` are skipped; those of bases are one. -/
def visit_fields (views : List ViewInfo) (root : Path) (position : Nat) :
    Members → Except String (List ViewInfo)
  | .nil => .ok views
  | .cons .field type rest =>
    (visit views (root ++ [.member .field position]) type).bind fun views =>
      visit_fields views root (position + 1) rest
  | .cons .base type rest =>
    (visit views (root ++ [.member .base position]) type).bind fun views =>
      visit_fields views root (position + 1) rest
  | .cons .static _ rest => visit_fields views root (position + 1) rest

end

/-- The views of the parameter of `replay_functor`, behind the test for a
    `RECORD_TYPE`. -/
def get_functor_views (functor_type : Ty) : Except String (List ViewInfo) :=
  match functor_type with
  | .record decl members => visit [] [] (.record decl members)
  | .member_function_pointer => visit [] [] .member_function_pointer
  | _ => .error "ERROR: the argument for krepe::replay_functor is not a record type"

/-- The steps from an object to those subobjects which are visited. -/
def follows : Step → Bool
  | .member kind _ => kind ≠ .static
  | .element _ => false

mutual

/-- Visiting a type pushes what a walk over it finds, if it comes to no pointer to
    a member function. -/
theorem visit_eq_push_views (views : List ViewInfo) (root : Path) (type : Ty)
    (hpointers : meets_function_pointer is_view follows type = false) :
    visit views root type = push_views messages views root (walk is_view follows type) := by
  cases type with
  | scalar => rfl
  | pointer => rfl
  | member_function_pointer => cases hpointers
  | array count element =>
    have hnothing : walk is_view follows (.array count element) = [] := by
      rw [walk]
      simp [below, follows]
    rw [hnothing]
    rfl
  | record decl members =>
    rw [visit, visit_view, walk]
    by_cases hview : is_view decl = true
    · rw [if_pos hview, if_pos hview, push_views_cons, List.append_nil]
      cases push_view messages views root decl <;> rfl
    · rw [if_neg hview, if_neg hview]
      apply visit_fields_eq_push_views views root 0 members
      simpa [meets_function_pointer, hview] using hpointers

/-- Where no pointer to a member function is met, the visit pushes the views that a walk over
    the followed steps finds. -/
theorem visit_fields_eq_push_views (views : List ViewInfo) (root : Path) (position : Nat)
    (members : Members) (hpointers : meets_function_pointer_members is_view follows position members = false) :
    visit_fields views root position members =
      push_views messages views root (walk_members is_view follows position members) := by
  cases members with
  | nil => rfl
  | cons kind type rest =>
    rw [meets_function_pointer_members, Bool.or_eq_false_iff] at hpointers
    have hrest : ∀ views, visit_fields views root (position + 1) rest =
        push_views messages views root (walk_members is_view follows (position + 1) rest) :=
      fun views => visit_fields_eq_push_views views root (position + 1) rest hpointers.2
    rw [walk_members, push_views_append]
    cases kind with
    | static => exact hrest views
    | field =>
      rw [visit_fields, visit_eq_push_views _ _ type hpointers.1, ← push_views_below, funext hrest]
      rfl
    | base =>
      rw [visit_fields, visit_eq_push_views _ _ type hpointers.1, ← push_views_below, funext hrest]
      rfl

end

mutual

/-- A visit which comes to a pointer to a member function does not come to its end. -/
theorem visit_of_meets (views : List ViewInfo) (root : Path) (type : Ty)
    (hmeets : meets_function_pointer is_view follows type = true) :
    ∃ message, visit views root type = .error message := by
  cases type with
  | scalar => cases hmeets
  | pointer => cases hmeets
  | member_function_pointer => exact ⟨_, rfl⟩
  | array count element =>
    rw [meets_function_pointer, List.any_eq_true] at hmeets
    obtain ⟨_, _, hfollow⟩ := hmeets
    simp [follows] at hfollow
  | record decl members =>
    rw [meets_function_pointer, Bool.and_eq_true, Bool.not_eq_true'] at hmeets
    rw [visit, visit_view, hmeets.1, if_neg Bool.false_ne_true]
    exact visit_fields_of_meets views root 0 members hmeets.2

/-- Where a pointer to a member function is met, the visit ends with a failure. -/
theorem visit_fields_of_meets (views : List ViewInfo) (root : Path) (position : Nat) (members : Members)
    (hmeets : meets_function_pointer_members is_view follows position members = true) :
    ∃ message, visit_fields views root position members = .error message := by
  cases members with
  | nil => cases hmeets
  | cons kind type rest =>
    rw [meets_function_pointer_members, Bool.or_eq_true, Bool.and_eq_true] at hmeets
    -- The visit stops in the first member, or comes to one of the rest.
    have hbind : ∀ path, (meets_function_pointer is_view follows type = true ∨
        meets_function_pointer_members is_view follows (position + 1) rest = true) →
        ∃ message, ((visit views path type).bind fun views =>
          visit_fields views root (position + 1) rest) = .error message := by
      intro path hcases
      cases hvisit : visit views path type with
      | error message => exact ⟨message, rfl⟩
      | ok found =>
        cases hcases with
        | inl htype =>
          obtain ⟨message, herror⟩ := visit_of_meets views path type htype
          rw [hvisit] at herror
          cases herror
        | inr hrest => exact visit_fields_of_meets found root (position + 1) rest hrest
    cases kind with
    | static =>
      refine visit_fields_of_meets views root (position + 1) rest (hmeets.resolve_left ?_)
      simp [follows]
    | field => exact hbind _ (hmeets.imp_left And.right)
    | base => exact hbind _ (hmeets.imp_left And.right)

end

/-- The plugin gets what a walk over a functor finds, and nothing at all from a
    functor in which the walk comes to a pointer to a member function. -/
theorem exact_get_functor_views {decl : RecordDecl} {members : Members} :
    Exact (.record decl members) (get_functor_views (.record decl members)) ↔
      meets_function_pointer is_view follows (.record decl members) = false ∧
        (walk is_view follows (.record decl members)).Perm (functor_views (.record decl members)) := by
  rw [get_functor_views]
  cases hmeets : meets_function_pointer is_view follows (.record decl members) with
  | false =>
    rw [visit_eq_push_views [] [] _ hmeets, exact_push_views]
    exact (and_iff_right rfl).symm
  | true =>
    obtain ⟨message, herror⟩ := visit_of_meets [] [] _ hmeets
    refine iff_of_false ?_ fun hfalse => Bool.false_ne_true hfalse.1.symm
    rintro ⟨views, hviews, _⟩
    rw [herror] at hviews
    cases hviews

/-- The plugin takes every view of Kokkos for a view. -/
theorem is_view_of_is_kokkos_view (decl : RecordDecl) (hview : is_kokkos_view decl = true) :
    is_view decl = true := by
  have hnames := of_decide_eq_true hview
  simp [is_view, hnames.1, hnames.2]

end krepe.compiler_plugins.gcc
