import Krepe.CompilerPlugins.Gcc
import Krepe.CompilerPlugins.Clang

open subobject

namespace krepe.compiler_plugins

/-- Both plugins find exactly the views of the functor, so they register the
    same ones. -/
def Introspected (functor : Ty) : Prop :=
  Exact functor (gcc.get_functor_views functor) ∧ Exact functor (clang.get_functor_views functor)

/-- What both plugins can follow: a functor which is no view itself, whose views
    are data members of data members, in which no other record that a plugin gets
    to is called `View` in a namespace `Kokkos`, and in which no data member
    outside of its views, be it one of a base class, is a pointer to a member
    function. -/
structure Followable (decl : RecordDecl) (members : Members) : Prop where
  functor : is_kokkos_view decl = false
  direct : ∀ entry ∈ functor_views (.record decl members), ∀ step ∈ entry.1,
    ∃ position, step = .member .field position
  names_gcc : ∀ entry ∈ reached is_kokkos_view gcc.follows (.record decl members),
    gcc.is_view entry.2 = true → is_kokkos_view entry.2 = true
  names_clang : ∀ entry ∈ reached_members is_kokkos_view clang.follows 0 members,
    clang.is_view entry.2 = true → is_kokkos_view entry.2 = true
  pointers : meets_function_pointer is_kokkos_view gcc.follows (.record decl members) = false

/-- The Clang plugin follows data members alone. -/
theorem clang_follows_iff {step : Step} :
    clang.follows step = true ↔ ∃ position, step = .member .field position := by
  cases step with
  | member kind position => cases kind <;> simp [clang.follows]
  | element index => simp [clang.follows]

/-- The GCC plugin follows all that the Clang plugin does. -/
theorem gcc_follows_of_clang {step : Step} (hstep : clang.follows step = true) :
    gcc.follows step = true := by
  obtain ⟨position, rfl⟩ := clang_follows_iff.mp hstep
  rfl

/-- The GCC plugin follows only what an object stores. -/
theorem stored_of_gcc_follows {step : Step} (hstep : gcc.follows step = true) : stored step = true := by
  cases step with
  | member kind position =>
    cases kind with
    | static => simp [gcc.follows] at hstep
    | field => rfl
    | base => rfl
  | element index => rfl

/-- The views of a functor that is no view itself are those in its members. -/
theorem functor_views_of_record {decl : RecordDecl} (members : Members)
    (hfunctor : is_kokkos_view decl = false) :
    functor_views (.record decl members) = walk_members is_kokkos_view stored 0 members := by
  rw [functor_views, walk, hfunctor, if_neg Bool.false_ne_true]

/-- Nothing that the Clang plugin finds is the functor itself. -/
theorem clang_functor_not_view {decl : RecordDecl} {members : Members}
    (hperm : (walk_members clang.is_view clang.follows 0 members).Perm
      (functor_views (.record decl members))) : is_kokkos_view decl = false := by
  by_contra hview
  rw [Bool.not_eq_false] at hview
  rw [functor_views, walk, if_pos hview] at hperm
  obtain ⟨_, _, _, hpath, _⟩ := walk_members_position (hperm.mem_iff.mpr (List.mem_singleton_self _))
  cases hpath

/-- For every functor type: both plugins find exactly the views stored in it, at their places
    and without a failure, if and only if both plugins can follow all that leads to a view. The
    Clang plugin does not follow base classes, neither plugin follows arrays, and a pointer to a
    member function makes the GCC plugin follow a null pointer. -/
theorem introspected_iff_followable (decl : RecordDecl) (members : Members) :
    Introspected (.record decl members) ↔ Followable decl members := by
  rw [Introspected, gcc.exact_get_functor_views, clang.get_functor_views_record, exact_push_views]
  refine ⟨fun hexact => ?_, fun hfollow => ?_⟩
  · obtain ⟨⟨hpointers, hgcc⟩, hclang⟩ := hexact
    have hfunctor := clang_functor_not_view hclang
    have hnames : ∀ entry ∈ reached is_kokkos_view gcc.follows (.record decl members),
        gcc.is_view entry.2 = true → is_kokkos_view entry.2 = true := by
      intro entry hentry haccept
      by_contra hother
      obtain ⟨found, hfound, hbad⟩ := walk_finds_other (.record decl members) hentry haccept hother
      exact hbad (functor_views_kokkos (hgcc.mem_iff.mp hfound))
    refine ⟨hfunctor, ?_, hnames, ?_, ?_⟩
    · intro entry hentry step hstep
      have hsteps := (walk_members_steps 0 members (hclang.mem_iff.mpr hentry)).1
      exact clang_follows_iff.mp (hsteps step hstep)
    · intro entry hentry haccept
      by_contra hother
      obtain ⟨found, hfound, hbad⟩ := walk_members_finds_other 0 members hentry haccept hother
      exact hbad (functor_views_kokkos (hclang.mem_iff.mp hfound))
    · rw [← meets_function_pointer_agrees gcc.is_view_of_is_kokkos_view _ hnames]
      exact hpointers
  · have hclangSteps : ∀ entry ∈ functor_views (.record decl members), ∀ step ∈ entry.1,
        clang.follows step = true := fun entry hentry step hstep =>
      clang_follows_iff.mpr (hfollow.direct entry hentry step hstep)
    have hgcc := walk_agrees (fun _ => stored_of_gcc_follows) gcc.is_view_of_is_kokkos_view
      (.record decl members) hfollow.names_gcc
      (fun entry hentry step hstep => gcc_follows_of_clang (hclangSteps entry hentry step hstep))
    have hmembers := functor_views_of_record members hfollow.functor
    rw [hmembers] at hclangSteps
    have hclang := walk_members_agrees (fun _ hstep => stored_of_gcc_follows (gcc_follows_of_clang hstep))
      clang.is_view_of_is_kokkos_view 0 members hfollow.names_clang hclangSteps
    rw [hgcc, hclang, ← hmembers,
      meets_function_pointer_agrees gcc.is_view_of_is_kokkos_view _ hfollow.names_gcc]
    exact ⟨⟨hfollow.pointers, List.Perm.refl _⟩, List.Perm.refl _⟩

/-- A struct of the global namespace. -/
def struct_decl (name : String) : RecordDecl :=
  ⟨name, [], false, none, fun _ hcontext => nomatch hcontext⟩

/-- A view of the host, in the namespace of Kokkos. -/
def view_decl : RecordDecl :=
  ⟨"View", [.namespace_decl "Kokkos"], true, some ⟨"Host", true⟩,
    fun _ _ => ⟨rfl, ⟨"Host", true⟩, rfl, rfl⟩⟩

/-- The type of such a view. -/
def view : Ty := .record view_decl .nil

/-- `struct Derived : Base` where `Base` has a view as its data member. -/
def view_in_base : Ty :=
  .record (struct_decl "Derived")
    (.cons .base (.record (struct_decl "Base") (.cons .field view .nil)) .nil)

/-- A functor with a data member `Kokkos::View views[2]`. -/
def views_in_array : Ty := .record (struct_decl "Functor") (.cons .field (.array 2 view) .nil)

/-- A functor with a view and a pointer to a member function as its data members. -/
def view_beside_function_pointer : Ty :=
  .record (struct_decl "Functor") (.cons .field view (.cons .field .member_function_pointer .nil))

/-- A plugin that finds nothing in a functor with views is not exact. -/
theorem not_exact_of_ok_nil {functor : Ty} {result : Except String (List ViewInfo)}
    (hok : result = .ok []) (hviews : functor_views functor ≠ []) : ¬ Exact functor result := by
  intro hexact
  obtain ⟨views, hresult, hperm, _⟩ := hexact
  rw [hok] at hresult
  cases hresult
  exact hviews (List.nil_perm.mp hperm)

/-- A view in a base class is missed by one plugin, views in an array are missed by both, and a
    pointer to a member function stops the GCC plugin. -/
theorem not_introspected :
    ¬ Introspected view_in_base ∧ ¬ Introspected views_in_array ∧
      ¬ Introspected view_beside_function_pointer := by
  refine ⟨fun hboth => ?_, fun hboth => ?_, fun hboth => ?_⟩
  · have hlength : 0 < (functor_views view_in_base).length := by decide
    exact not_exact_of_ok_nil rfl (List.ne_nil_of_length_pos hlength) hboth.2
  · have hlength : 0 < (functor_views views_in_array).length := by decide
    exact not_exact_of_ok_nil rfl (List.ne_nil_of_length_pos hlength) hboth.1
  · obtain ⟨⟨views, hviews, _⟩, _⟩ := hboth
    cases hviews

end krepe.compiler_plugins
