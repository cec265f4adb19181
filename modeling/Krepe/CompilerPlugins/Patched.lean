import Krepe.Capture.Host
import Krepe.CompilerPlugins.Patch
import Krepe.Extract.DumpContents
import Krepe.Outcome.Ends

open std subobject outcome

namespace krepe.compiler_plugins

variable {Source State : Type} (meaning : Meaning Source State)

/-- The inserted registrations are made one after the other, and none of them returns. -/
theorem exec_register_views (views : List ViewInfo) (rest : List (Stmt Source)) (state : State) :
    exec_statements meaning (views.map .register_view ++ rest) state =
      exec_statements meaning rest (views.foldl (fun state view =>
        meaning.register_view (meaning.data view.component_ref) view.memory_space.name state) state) := by
  induction views generalizing state with
  | nil => rfl
  | cons view views ih => exact ih _

/-- The inserted statements make the registered views those of the functor, and then the rest is
    done. -/
theorem exec_registering (views : List ViewInfo) (rest : List (Stmt Source)) (state : State) :
    exec_statements meaning (.clear_registered_views :: views.map .register_view ++ rest) state =
      exec_statements meaning rest (registered_views meaning views state) :=
  exec_register_views meaning views rest (meaning.clear_registered_views state)

theorem exec_singleton (statement : Stmt Source) (state : State) :
    exec_statements meaning [statement] state = statement.exec meaning state := by
  rw [exec_statements]
  generalize statement.exec meaning state = result
  obtain ⟨next, returned⟩ := result
  cases returned <;> rfl

/-- A function before and after a plugin, which puts the registration of the
    views it found in front of the body. -/
structure Registers (get_functor_views : Ty → Except String (List ViewInfo))
    (before after : FunctionDecl Source) : Prop where
  name : after.name = before.name
  context : after.context = before.context
  parameters : after.parameters = before.parameters
  body : ∃ functor rest views, before.parameters = functor :: rest ∧
    get_functor_views functor.functor_type = .ok views ∧
    ∀ {State : Type} (meaning : Meaning Source State) (state : State),
      after.body.exec meaning state = before.body.exec meaning (registered_views meaning views state)

/-- A declaration before and after a plugin: a `replay_functor` with a parameter registers the
    views of it, and all others are the same. -/
inductive Patched (is_replay_functor : FunctionDecl Source → Bool)
    (get_functor_views : Ty → Except String (List ViewInfo)) : Decl Source → Decl Source → Prop where
  | other (name : String) : Patched is_replay_functor get_functor_views (.other name) (.other name)
  | kept {function : FunctionDecl Source}
      (hother : is_replay_functor function = false ∨ function.parameters = []) :
    Patched is_replay_functor get_functor_views (.function function) (.function function)
  | patched {before after : FunctionDecl Source} (hreplay : is_replay_functor before = true)
      (hregisters : Registers get_functor_views before after) :
    Patched is_replay_functor get_functor_views (.function before) (.function after)

/-- A patch of the Clang plugin registers the views which it found. -/
theorem clang_patch_ok {krepe_namespace : KrepeNamespace} {before after : FunctionDecl Source}
    (hok : clang.patch_replay_functor krepe_namespace before = .ok after) :
    Registers clang.get_functor_views before after := by
  unfold clang.patch_replay_functor at hok
  split at hok
  · next functor hparameters =>
    cases hviews : clang.get_functor_views functor.functor_type with
    | error message =>
      rw [hviews] at hok
      cases hok
    | ok views =>
      rw [hviews] at hok
      dsimp only [bind, Except.bind] at hok
      split at hok
      · cases hok
      · split at hok
        · cases hok
        · split at hok
          · cases hok
          · cases hok
            refine ⟨rfl, rfl, rfl, functor, [], views, hparameters, hviews, fun meaning state => ?_⟩
            rw [Stmt.exec, exec_registering, exec_singleton]
  · cases hok

/-- Statements linked in front of an iterator stand in their order before it. -/
theorem gcc_linked (views : List ViewInfo) (it : gcc.tree_stmt_iterator Source) :
    views.foldl (fun it view => gcc.tsi_link_before it (.register_view view)) it =
      ⟨it.before ++ views.map .register_view, it.after⟩ := by
  induction views generalizing it with
  | nil => simp
  | cons view views ih =>
    rw [List.foldl_cons, ih]
    simp [gcc.tsi_link_before]

/-- A patch of the GCC plugin registers the views which it found. -/
theorem gcc_patch_ok {scope : KrepeNamespace} {before after : FunctionDecl Source} {functor : ParameterType}
    {rest : List ParameterType} (hparameters : before.parameters = functor :: rest)
    (hok : gcc.patch_replay_functor scope before functor = .ok after) :
    Registers gcc.get_functor_views before after := by
  unfold gcc.patch_replay_functor at hok
  cases hviews : gcc.get_functor_views functor.functor_type with
  | error message =>
    rw [hviews] at hok
    cases hok
  | ok views =>
    rw [hviews] at hok
    dsimp only [bind, Except.bind] at hok
    split at hok
    · next body hbody =>
      split at hok
      · cases hok
      · split at hok
        · cases hok
        · split at hok
          · cases hok
          · cases hok
            refine ⟨rfl, rfl, rfl, functor, rest, views, hparameters, hviews, fun meaning state => ?_⟩
            dsimp only
            rw [Stmt.exec, gcc_linked, hbody, Stmt.exec]
            exact exec_registering meaning views body state
    · cases hok

/-- For every translation unit which a plugin accepts, and any meaning of the calls it inserts:
    only the bodies of `replay_functor` are changed, and a changed body first makes the
    registered views those which the plugin finds in the parameter, and then does what it did
    before. -/
theorem passes_preserve (krepe_namespace : KrepeNamespace) (unit : List (Decl Source)) :
    (∀ patched, clang.HandleTopLevelDecl krepe_namespace unit = .ok patched →
      List.Forall₂ (Patched clang.is_replay_functor clang.get_functor_views) unit patched) ∧
      ∀ patched, unit.mapM (gcc.ast_callback krepe_namespace) = .ok patched →
        List.Forall₂ (Patched gcc.is_replay_functor gcc.get_functor_views) unit patched := by
  refine ⟨fun patched hok => mapM_forall₂ ?_ hok, fun patched hok => mapM_forall₂ ?_ hok⟩
  · intro before after hdecl
    cases before with
    | other name =>
      cases hdecl
      exact .other name
    | function function =>
      dsimp only at hdecl
      split at hdecl
      · next hreplay =>
        cases hpatch : clang.patch_replay_functor krepe_namespace function with
        | error message =>
          rw [hpatch] at hdecl
          cases hdecl
        | ok result =>
          rw [hpatch] at hdecl
          cases hdecl
          exact .patched hreplay (clang_patch_ok hpatch)
      · next hother =>
        cases hdecl
        exact .kept (Or.inl (eq_false_of_ne_true hother))
  · intro before after hdecl
    cases before with
    | other name =>
      cases hdecl
      exact .other name
    | function function =>
      unfold gcc.ast_callback at hdecl
      dsimp only at hdecl
      split at hdecl
      · next hreplay =>
        split at hdecl
        · next hnone =>
          cases hdecl
          exact .kept (Or.inr hnone)
        · next functor rest hparameters =>
          cases hpatch : gcc.patch_replay_functor krepe_namespace function functor with
          | error message =>
            rw [hpatch] at hdecl
            cases hdecl
          | ok result =>
            rw [hpatch] at hdecl
            cases hdecl
            exact .patched hreplay (gcc_patch_ok hparameters hpatch)
      · next hother =>
        cases hdecl
        exact .kept (Or.inl (eq_false_of_ne_true hother))

/-- The body of `replay_functor` as it is written. -/
inductive ReplayFunctorStmt where
  | copy_functor
  | return_functor

/-- `krepe::replay_functor` for one type of functors. -/
def replay_functor_decl (functor : Ty) : FunctionDecl ReplayFunctorStmt where
  name := some "replay_functor"
  context := [.namespace_decl (some "krepe")]
  parameters := [.reference functor]
  body := .compound [.source .copy_functor, .source .return_functor]

/-- The calls lead to the hooks of the tool. -/
def tool_meaning (bytes : List UInt8) (inner_lambda : Option (List UInt8)) (data : Path → Pointer) :
    Meaning ReplayFunctorStmt CaptureHooks where
  clear_registered_views := CaptureHooks.krepe_kernel_dump_clear_registered_views
  register_view data space hooks := hooks.krepe_kernel_dump_register_view data space
  data := data
  source
    | .copy_functor, hooks =>
      match inner_lambda with
      | some inner_lambda => (hooks.krepe_kernel_dump_copy_nvcc_lambda bytes inner_lambda, false)
      | none => (hooks.krepe_kernel_dump_copy_functor bytes, false)
    | .return_functor, hooks => (hooks, true)

/-- What the inserted call registers: the data pointer of the view, and the name of its memory
    space. -/
def ViewInfo.registered (data : Path → Pointer) (view : ViewInfo) : Pointer × String :=
  (data view.component_ref, view.memory_space.name)

/-- With the plugins, a patched `replay_functor` does to the tool what the model of the
    extractor does with the views that were found. -/
theorem exec_replay_functor (app : Application) (hplugins : app.run.build.compiler_plugins = true)
    {functor : Ty} {patched : FunctionDecl ReplayFunctorStmt} {get_functor_views : Ty → Except String (List ViewInfo)}
    (hregisters : Registers get_functor_views (replay_functor_decl functor) patched)
    (bytes : List UInt8) (inner_lambda : Option (List UInt8)) (data : Path → Pointer) (hooks : CaptureHooks) :
    ∃ views, get_functor_views functor = .ok views ∧
      (patched.body.exec (tool_meaning bytes inner_lambda data) hooks).1 =
        replay_functor app hooks ⟨bytes, inner_lambda, views.map (ViewInfo.registered data)⟩ := by
  obtain ⟨_, _, views, hparameters, hviews, hbody⟩ := hregisters.body
  cases hparameters
  refine ⟨views, hviews, ?_⟩
  rw [hbody, replay_functor, if_pos hplugins, register_functor_views, List.foldl_map]
  cases inner_lambda with
  | none => rfl
  | some inner_lambda => rfl

/-- The functions which the plugins call are declared. -/
def declared_namespace : KrepeNamespace := ⟨some ⟨true, true⟩⟩

/-- A functor with one view. -/
def view_functor : Ty := .record (struct_decl "Axpy") (.cons .field view .nil)

/-- A translation unit with another declaration, and with `replay_functor` for a functor with a
    view. -/
theorem passes_preserve_example :
    ∃ by_clang by_gcc,
      clang.HandleTopLevelDecl declared_namespace
        [.other "main", .function (replay_functor_decl view_functor)] = .ok by_clang ∧
      List.mapM (gcc.ast_callback declared_namespace)
        [.other "main", .function (replay_functor_decl view_functor)] = .ok by_gcc ∧
      List.Forall₂ (Patched clang.is_replay_functor clang.get_functor_views)
        [.other "main", .function (replay_functor_decl view_functor)] by_clang ∧
      List.Forall₂ (Patched gcc.is_replay_functor gcc.get_functor_views)
        [.other "main", .function (replay_functor_decl view_functor)] by_gcc :=
  ⟨_, _, rfl, rfl, (passes_preserve declared_namespace _).1 _ rfl,
    (passes_preserve declared_namespace _).2 _ rfl⟩

/-- A view which an exact plugin registers is one of the functor. -/
theorem mem_registered {functor : Ty} {views : List ViewInfo} (hexact : Exact functor (.ok views))
    {path_data : Path → Pointer} {data : Pointer} {space : String} :
    (data, space) ∈ views.map (ViewInfo.registered path_data) ↔
      ∃ entry ∈ functor_views functor, path_data entry.1 = data ∧
        entry.2.memory_space.map MemorySpaceDecl.name = some space := by
  obtain ⟨_, hok, hperm, hspaces⟩ := hexact
  cases hok
  rw [List.mem_map]
  constructor
  · rintro ⟨view, hview, hregistered⟩
    cases hregistered
    exact ⟨view.entry, hperm.mem_iff.mp (List.mem_map_of_mem hview), rfl,
      congrArg (Option.map MemorySpaceDecl.name) (hspaces view hview)⟩
  · rintro ⟨entry, hentry, rfl, hspace⟩
    obtain ⟨view, hview, rfl⟩ := List.mem_map.mp (hperm.mem_iff.mpr hentry)
    refine ⟨view, hview, Prod.ext rfl ?_⟩
    rw [ViewInfo.entry, hspaces view hview] at hspace
    exact Option.some.inj hspace

/-- The hooks after a functor was replayed: a dump holds its bytes, and exactly the
    live allocations which some view of the functor points into. -/
structure HoldsFunctor (build : CaptureBuild) (history : List TrackerEvent) (functor : Ty)
    (data : Path → Pointer) (bytes : List UInt8) (inner_lambda : Option (List UInt8))
    (hooks : CaptureHooks) : Prop where
  functor_data : hooks.functor_data = bytes
  nvcc_inner_lambda_data : hooks.nvcc_inner_lambda_data = inner_lambda.getD []
  allocations : ∀ allocation : ActiveAllocation,
    allocation ∈ (hooks.allocation_tracker.snapshot true).1.allocations ↔
      live build history allocation.key = some allocation.record ∧
        ∃ entry ∈ functor_views functor,
          entry.2.memory_space.map MemorySpaceDecl.name = some allocation.record.space ∧
          allocation.record.p_data ≤ data entry.1 ∧
          data entry.1 ≤ allocation.record.p_data + allocation.record.size

/-- A patch that registers exactly the views of a functor makes the dump hold exactly the
    allocations they point into. -/
theorem holds_functor_of_registers {app : Application} (hplugins : app.run.build.compiler_plugins = true)
    {functor : Ty} {get_functor_views : Ty → Except String (List ViewInfo)}
    (hexact : Exact functor (get_functor_views functor)) {patched : FunctionDecl ReplayFunctorStmt}
    (hregisters : Registers get_functor_views (replay_functor_decl functor) patched) {hooks : CaptureHooks}
    {history : List TrackerEvent}
    (htracker : hooks.allocation_tracker = tracker_after app.run.build history) (bytes : List UInt8)
    (inner_lambda : Option (List UInt8)) (data : Path → Pointer) :
    HoldsFunctor app.run.build history functor data bytes inner_lambda
      (patched.body.exec (tool_meaning bytes inner_lambda data) hooks).1 := by
  obtain ⟨views, hviews, hexec⟩ := exec_replay_functor app hplugins hregisters bytes inner_lambda data hooks
  rw [hviews] at hexact
  rw [hexec]
  obtain ⟨hbytes, hinner⟩ :=
    replay_functor_data app hooks ⟨bytes, inner_lambda, views.map (ViewInfo.registered data)⟩
  refine ⟨hbytes, hinner, fun allocation => ?_⟩
  have hsnapshot := @mem_snapshot_replayed app hooks history htracker
    ⟨bytes, inner_lambda, views.map (ViewInfo.registered data)⟩ allocation
  rw [hplugins] at hsnapshot
  rw [hsnapshot]
  refine and_congr_right fun _ => ?_
  simp only [mem_registered hexact, true_implies]
  constructor
  · rintro ⟨_, ⟨entry, hentry, rfl, hspace⟩, hlow, hhigh⟩
    exact ⟨entry, hentry, hspace, hlow, hhigh⟩
  · rintro ⟨entry, hentry, hspace, hlow, hhigh⟩
    exact ⟨_, ⟨entry, hentry, rfl, hspace⟩, hlow, hhigh⟩

/-- Let the compiler plugins be in use, let a functor type be one which both can introspect, and
    let the tracker have any history. Either plugin patches `replay_functor` for the type, and a
    dump made after the patched function holds exactly the live allocations which the views of
    the functor point into. -/
theorem dump_holds_functor_views (app : Application) (hplugins : app.run.build.compiler_plugins = true)
    {functor : Ty} (hintrospected : Introspected functor) {hooks : CaptureHooks}
    {history : List TrackerEvent}
    (htracker : hooks.allocation_tracker = tracker_after app.run.build history) (bytes : List UInt8)
    (inner_lambda : Option (List UInt8)) (data : Path → Pointer) :
    ∃ by_gcc by_clang,
      gcc.ast_callback declared_namespace (.function (replay_functor_decl functor)) =
        .ok (.function by_gcc) ∧
      clang.HandleTopLevelDecl declared_namespace [.function (replay_functor_decl functor)] =
        .ok [.function by_clang] ∧
      ∀ patched ∈ [by_gcc, by_clang], HoldsFunctor app.run.build history functor data bytes inner_lambda
        (patched.body.exec (tool_meaning bytes inner_lambda data) hooks).1 := by
  obtain ⟨hgcc, hclang⟩ := hintrospected
  have hgccPatch : ∃ patched, gcc.patch_replay_functor declared_namespace (replay_functor_decl functor)
      (.reference functor) = .ok patched := by
    obtain ⟨views, hviews, _⟩ := hgcc
    rw [gcc.patch_replay_functor, ParameterType.functor_type, hviews]
    exact ⟨_, rfl⟩
  have hclangPatch : ∃ patched,
      clang.patch_replay_functor declared_namespace (replay_functor_decl functor) = .ok patched := by
    obtain ⟨views, hviews, _⟩ := hclang
    simp only [clang.patch_replay_functor, replay_functor_decl, ParameterType.functor_type, hviews]
    exact ⟨_, rfl⟩
  obtain ⟨by_gcc, hbyGcc⟩ := hgccPatch
  obtain ⟨by_clang, hbyClang⟩ := hclangPatch
  have hgroup : clang.HandleTopLevelDecl declared_namespace [.function (replay_functor_decl functor)] =
      (do let first ← (clang.patch_replay_functor declared_namespace (replay_functor_decl functor)).map
            Decl.function
          pure [first]) := by
    rw [clang.HandleTopLevelDecl, List.mapM_cons, List.mapM_nil]
    rfl
  refine ⟨by_gcc, by_clang, congrArg (Except.map Decl.function) hbyGcc, ?_, ?_⟩
  · rw [hgroup, hbyClang]
    rfl
  · intro patched hpatched
    cases List.mem_pair.mp hpatched with
    | inl hsame =>
      rw [hsame]
      exact holds_functor_of_registers hplugins hgcc (gcc_patch_ok rfl hbyGcc) htracker bytes inner_lambda data
    | inr hsame =>
      rw [hsame]
      exact holds_functor_of_registers hplugins hclang (clang_patch_ok hbyClang) htracker bytes inner_lambda data

/-- Both plugins find the view of the example. -/
theorem view_functor_introspected : Introspected view_functor := by
  have hexact : Exact view_functor (.ok [⟨[.member .field 0], view_decl, ⟨"Host", true⟩⟩]) := by
    refine ⟨_, rfl, List.Perm.refl _, fun info hinfo => ?_⟩
    rw [List.mem_singleton.mp hinfo]
    rfl
  exact ⟨hexact, hexact⟩

/-- The view of the functor points into the second of two live allocations. -/
theorem dump_holds_functor_views_example :
    let build : CaptureBuild := { host_build with compiler_plugins := true }
    let run : CaptureRun := ⟨build, ⟨"axpy", some 1⟩, fun _ => ⟨true, "krepe_axpy_1.h5", ""⟩⟩
    let history : List TrackerEvent :=
      [.allocate_data ⟨192, none, none⟩ ⟨"Host"⟩ (some "x") 4096 64,
        .allocate_data ⟨192, none, none⟩ ⟨"Host"⟩ (some "y") 8192 64]
    ∃ by_gcc by_clang,
      gcc.ast_callback declared_namespace (.function (replay_functor_decl view_functor)) =
        .ok (.function by_gcc) ∧
      clang.HandleTopLevelDecl declared_namespace [.function (replay_functor_decl view_functor)] =
        .ok [.function by_clang] ∧
      ∀ patched ∈ [by_gcc, by_clang], HoldsFunctor build history view_functor (fun _ => 8320) [1] none
        (patched.body.exec (tool_meaning [1] none fun _ => 8320)
          { CaptureHooks.initial none with allocation_tracker := tracker_after run.build history }).1 := by
  intro build run history
  exact dump_holds_functor_views ⟨⟨false, false, false, false⟩, run⟩ rfl view_functor_introspected rfl [1] none
    fun _ => 8320

end krepe.compiler_plugins
