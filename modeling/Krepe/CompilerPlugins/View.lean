import Krepe.Subobject.Compare

open subobject

namespace krepe.compiler_plugins

/-- A context which encloses a declaration. -/
inductive Scope where
  | namespace_decl (name : Option String)
  | record_decl (name : String)
  | function_decl (name : String)
  deriving DecidableEq, Repr

/-- What the plugins need of the memory space of a view. -/
structure MemorySpaceDecl where
  name : String
  /-- It has a static member function `name` without parameters. -/
  name_function : Bool
  deriving DecidableEq, Repr

/-- The declaration of a record: its name, what encloses it from the inside out,
    and what its members `data` and `memory_space` are. Those of a
    `Kokkos::View` are there. -/
structure RecordDecl where
  name : String
  context : List Scope
  data_method : Bool
  memory_space : Option MemorySpaceDecl
  view_members : name = "View" → context = [.namespace_decl "Kokkos"] →
    data_method = true ∧ ∃ space, memory_space = some space ∧ space.name_function = true

/-- The record is an instance of `::Kokkos::View`. -/
def is_kokkos_view (decl : RecordDecl) : Bool :=
  decl.name = "View" ∧ decl.context = [.namespace_decl "Kokkos"]

/-- A view of Kokkos has what the plugins look for. -/
theorem view_members_of_is_kokkos_view {decl : RecordDecl} (hview : is_kokkos_view decl = true) :
    decl.data_method = true ∧ ∃ space, decl.memory_space = some space ∧ space.name_function = true := by
  have hnames := of_decide_eq_true hview
  exact decl.view_members hnames.1 hnames.2

/-- A type of the program, whose views are its leaves. -/
abbrev Ty := subobject.Ty RecordDecl
/-- The members of a record, in the order of their declaration. -/
abbrev Members := subobject.Members RecordDecl

/-- A view to register: where it is in the functor, the declaration whose `data`
    is called on it, and the memory space whose `name` is called. -/
structure ViewInfo where
  component_ref : Path
  view : RecordDecl
  memory_space : MemorySpaceDecl

/-- The place of the view in the functor and its declaration. -/
def ViewInfo.entry (info : ViewInfo) : Path × RecordDecl := (info.component_ref, info.view)

/-- What a plugin prints before it aborts. -/
structure Messages where
  data_method : String
  memory_space : String
  name_function : String

/-- The end of `visit_view` for a record which passed its tests. -/
def push_view (messages : Messages) (views : List ViewInfo) (root : Path) (view : RecordDecl) :
    Except String (List ViewInfo) :=
  if !view.data_method then .error messages.data_method
  else
    match view.memory_space with
    | none => .error messages.memory_space
    | some memory_space =>
      if !memory_space.name_function then .error messages.name_function
      else .ok (views ++ [⟨root, view, memory_space⟩])

/-- A view is pushed if it has a data method and a memory space with a name function. -/
theorem push_view_ok {messages : Messages} {views result : List ViewInfo} {root : Path}
    {view : RecordDecl} :
    push_view messages views root view = .ok result ↔
      view.data_method = true ∧ ∃ space, view.memory_space = some space ∧
        space.name_function = true ∧ result = views ++ [⟨root, view, space⟩] := by
  unfold push_view
  cases view.data_method with
  | false => simp
  | true =>
    cases view.memory_space with
    | none => simp
    | some space =>
      cases hname : space.name_function with
      | false => simp [hname]
      | true =>
        simp only [Bool.not_true, Bool.false_eq_true, if_false, hname, Except.ok.injEq, true_and,
          Option.some.injEq, exists_eq_left', eq_comm (a := result)]

/-- The views which a plugin is to register: all those stored in the functor. -/
def functor_views (functor : Ty) : List (Path × RecordDecl) := walk is_kokkos_view stored functor

/-- A plugin found exactly the views of a functor, each with its own data and
    memory space. -/
def Exact (functor : Ty) (result : Except String (List ViewInfo)) : Prop :=
  ∃ views, result = .ok views ∧ (views.map ViewInfo.entry).Perm (functor_views functor) ∧
    ∀ info ∈ views, info.view.memory_space = some info.memory_space

/-- Views pushed one after another, from what a walk finds. -/
def push_views (messages : Messages) (views : List ViewInfo) (root : Path)
    (found : List (Path × RecordDecl)) : Except String (List ViewInfo) :=
  found.foldlM (fun views entry => push_view messages views (root ++ entry.1) entry.2) views

theorem push_views_cons (messages : Messages) (views : List ViewInfo) (root : Path)
    (entry : Path × RecordDecl) (rest : List (Path × RecordDecl)) :
    push_views messages views root (entry :: rest) =
      (push_view messages views (root ++ entry.1) entry.2).bind fun views =>
        push_views messages views root rest := rfl

/-- Views of two lists are pushed one list after the other. -/
theorem push_views_append (messages : Messages) (views : List ViewInfo) (root : Path)
    (first second : List (Path × RecordDecl)) :
    push_views messages views root (first ++ second) =
      (push_views messages views root first).bind fun views =>
        push_views messages views root second := by
  rw [push_views, List.foldlM_append]
  rfl

/-- Views below a step are pushed at longer places. -/
theorem push_views_below (messages : Messages) (views : List ViewInfo) (root : Path) (step : Step)
    (found : List (Path × RecordDecl)) :
    push_views messages views root (found.map fun entry => (step :: entry.1, entry.2)) =
      push_views messages views (root ++ [step]) found := by
  rw [push_views, List.foldlM_map]
  simp [push_views]

/-- Pushing succeeds only with every record found, and with its own memory
    space. -/
theorem push_views_ok {messages : Messages} {views result : List ViewInfo}
    {found : List (Path × RecordDecl)} (hok : push_views messages views [] found = .ok result) :
    ∃ pushed, result = views ++ pushed ∧ pushed.map ViewInfo.entry = found ∧
      ∀ info ∈ pushed, info.view.memory_space = some info.memory_space := by
  induction found generalizing views with
  | nil =>
    cases hok
    exact ⟨[], by simp, rfl, by simp⟩
  | cons entry rest ih =>
    rw [push_views_cons, List.nil_append] at hok
    cases hpush : push_view messages views entry.1 entry.2 with
    | error message =>
      rw [hpush] at hok
      cases hok
    | ok next =>
      rw [hpush] at hok
      obtain ⟨_, space, hspace, _, rfl⟩ := push_view_ok.mp hpush
      obtain ⟨pushed, rfl, hentries, hspaces⟩ := ih hok
      refine ⟨⟨entry.1, entry.2, space⟩ :: pushed, by simp, by simp [ViewInfo.entry, hentries], ?_⟩
      intro info hinfo
      cases List.mem_cons.mp hinfo with
      | inl hhead =>
        subst hhead
        exact hspace
      | inr htail => exact hspaces info htail

/-- Views of Kokkos can all be pushed. -/
theorem push_views_kokkos {messages : Messages} {views : List ViewInfo}
    {found : List (Path × RecordDecl)} (hviews : ∀ entry ∈ found, is_kokkos_view entry.2 = true) :
    ∃ result, push_views messages views [] found = .ok result := by
  induction found generalizing views with
  | nil => exact ⟨views, rfl⟩
  | cons entry rest ih =>
    obtain ⟨hdata, space, hspace, hname⟩ :=
      view_members_of_is_kokkos_view (hviews entry List.mem_cons_self)
    have hpush : push_view messages views entry.1 entry.2 =
        .ok (views ++ [⟨entry.1, entry.2, space⟩]) :=
      push_view_ok.mpr ⟨hdata, space, hspace, hname, rfl⟩
    rw [push_views_cons, List.nil_append, hpush]
    exact ih fun other hother => hviews other (List.mem_cons_of_mem _ hother)

/-- The views of a functor are views of Kokkos. -/
theorem functor_views_kokkos {functor : Ty} {entry : Path × RecordDecl}
    (hentry : entry ∈ functor_views functor) : is_kokkos_view entry.2 = true :=
  (walk_steps functor hentry).2

/-- No two views which an exact plugin registers are the same part of the functor. -/
theorem Exact.once {functor : Ty} {views : List ViewInfo} (hexact : Exact functor (.ok views)) :
    (views.map ViewInfo.component_ref).Nodup := by
  obtain ⟨_, hok, hperm, _⟩ := hexact
  cases hok
  have hpaths := hperm.map Prod.fst
  rw [List.map_map] at hpaths
  have honce : (views.map (Prod.fst ∘ ViewInfo.entry)).Nodup := hpaths.nodup_iff.mpr (walk_nodup functor)
  exact honce

/-- A plugin which pushes what it finds is exact when it finds the views of the
    functor, and only then. -/
theorem exact_push_views {functor : Ty} {messages : Messages} {found : List (Path × RecordDecl)} :
    Exact functor (push_views messages [] [] found) ↔ found.Perm (functor_views functor) := by
  refine ⟨fun hexact => ?_, fun hperm => ?_⟩
  · obtain ⟨views, hok, hperm, _⟩ := hexact
    obtain ⟨pushed, hviews, hentries, _⟩ := push_views_ok hok
    rw [hviews, List.nil_append, hentries] at hperm
    exact hperm
  · have hkokkos : ∀ entry ∈ found, is_kokkos_view entry.2 = true := fun entry hentry =>
      functor_views_kokkos (hperm.mem_iff.mp hentry)
    obtain ⟨result, hresult⟩ := push_views_kokkos hkokkos
    obtain ⟨pushed, hviews, hentries, hspaces⟩ := push_views_ok hresult
    rw [List.nil_append] at hviews
    subst hviews
    exact ⟨result, hresult, hentries ▸ hperm, hspaces⟩

end krepe.compiler_plugins
