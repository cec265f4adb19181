import Krepe.CompilerPlugins.View

open subobject

namespace krepe.compiler_plugins.clang

/-- The texts of the plugin's errors. -/
def messages : Messages where
  data_method := "Failed to find the data method of a View"
  memory_space := "Failed to find the memory_space attribute of a View"
  name_function := "Failed to find the name function of a memory space"

/-- The declaration context is a namespace, and not a record or a function. -/
def is_namespace : Scope → Bool
  | .namespace_decl _ => true
  | _ => false

/-- The innermost namespace around a declaration, or the translation unit. -/
def getEnclosingNamespaceContext (decl : RecordDecl) : Option Scope :=
  decl.context.find? is_namespace

/-- The tests of `visit_view`. -/
def is_view (view : RecordDecl) : Bool :=
  if view.name ≠ "View" then false
  else
    match getEnclosingNamespaceContext view with
    | some (.namespace_decl (some name)) => name = "Kokkos"
    | _ => false

/-- `none` where the function returns false. -/
def visit_view (views : List ViewInfo) (view : RecordDecl) (root : Path) :
    Except String (Option (List ViewInfo)) :=
  if is_view view then (push_view messages views root view).map some else .ok none

mutual

/-- `visit` of a field of this type. -/
def visit_field (views : List ViewInfo) (root : Path) : Ty → Except String (List ViewInfo)
  | .record struct_decl members =>
    (visit_view views struct_decl root).bind fun found =>
      match found with
      | some views => .ok views
      | none => visit_record views root 0 members
  | .scalar => .ok views
  | .pointer _ => .ok views
  | .member_function_pointer => .ok views
  | .array _ _ => .ok views

/-- `visit` of a record, which goes over its `fields()`. -/
def visit_record (views : List ViewInfo) (root : Path) (position : Nat) :
    Members → Except String (List ViewInfo)
  | .nil => .ok views
  | .cons .field type rest =>
    (visit_field views (root ++ [.member .field position]) type).bind fun views =>
      visit_record views root (position + 1) rest
  | .cons .base _ rest => visit_record views root (position + 1) rest
  | .cons .static _ rest => visit_record views root (position + 1) rest

end

/-- The views which `patch_replay_functor` gets for the functor. -/
def get_functor_views (functor : Ty) : Except String (List ViewInfo) :=
  match functor with
  | .record _ members => visit_record [] [] 0 members
  | _ => .error "The argument to krepe::replay_functor should be a record type"

/-- The steps from an object to those subobjects which are visited. -/
def follows : Step → Bool
  | .member kind _ => kind = .field
  | .element _ => false

mutual

/-- Visiting a type pushes what a walk over it finds. -/
theorem visit_field_eq_push_views (views : List ViewInfo) (root : Path) (type : Ty) :
    visit_field views root type = push_views messages views root (walk is_view follows type) := by
  cases type with
  | scalar => rfl
  | pointer => rfl
  | member_function_pointer => rfl
  | array count element =>
    have hnothing : walk is_view follows (.array count element) = [] := by
      rw [walk]
      simp [below, follows]
    rw [hnothing]
    rfl
  | record decl members =>
    rw [visit_field, visit_view, walk]
    by_cases hview : is_view decl = true
    · rw [if_pos hview, if_pos hview, push_views_cons, List.append_nil]
      cases push_view messages views root decl <;> rfl
    · rw [if_neg hview, if_neg hview]
      exact visit_record_eq_push_views views root 0 members

/-- The visit of the fields pushes the views that a walk over the followed steps finds. -/
theorem visit_record_eq_push_views (views : List ViewInfo) (root : Path) (position : Nat)
    (members : Members) :
    visit_record views root position members =
      push_views messages views root (walk_members is_view follows position members) := by
  cases members with
  | nil => rfl
  | cons kind type rest =>
    have hrest : ∀ views, visit_record views root (position + 1) rest =
        push_views messages views root (walk_members is_view follows (position + 1) rest) :=
      fun views => visit_record_eq_push_views views root (position + 1) rest
    rw [walk_members, push_views_append]
    cases kind with
    | static => exact hrest views
    | base => exact hrest views
    | field =>
      rw [visit_record, visit_field_eq_push_views, ← push_views_below, funext hrest]
      rfl

end

/-- The plugin finds what a walk over the fields of the functor finds. -/
theorem get_functor_views_record (decl : RecordDecl) (members : Members) :
    get_functor_views (.record decl members) =
      push_views messages [] [] (walk_members is_view follows 0 members) :=
  visit_record_eq_push_views [] [] 0 members

/-- The plugin takes every view of Kokkos for a view. -/
theorem is_view_of_is_kokkos_view (decl : RecordDecl) (hview : is_kokkos_view decl = true) :
    is_view decl = true := by
  have hnames := of_decide_eq_true hview
  simp [is_view, getEnclosingNamespaceContext, is_namespace, hnames.1, hnames.2]

end krepe.compiler_plugins.clang
