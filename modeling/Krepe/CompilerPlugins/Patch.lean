import Mathlib.Data.List.Forall2
import Krepe.Capture.AllocationTracker
import Krepe.CompilerPlugins.Introspection

open std subobject

namespace krepe.compiler_plugins

/-- The type of a parameter, which may be a reference. -/
inductive ParameterType where
  | value (type : Ty)
  | reference (referred : Ty)

/-- The type without the reference. -/
def ParameterType.functor_type : ParameterType → Ty
  | value type => type
  | reference referred => referred

/-- The statements of a function: calls which a plugin builds, and those of the
    source. -/
inductive Stmt (Source : Type) where
  | clear_registered_views
  | register_view (view : ViewInfo)
  | source (statement : Source)
  | compound (statements : List (Stmt Source))

/-- A function of the translation unit: where it is declared, what it takes, and its body. -/
structure FunctionDecl (Source : Type) where
  /-- None for an operator or a constructor. -/
  name : Option String
  context : List Scope
  parameters : List ParameterType
  body : Stmt Source

/-- A declaration at the top of the translation unit, or one inside a namespace there. -/
inductive Decl (Source : Type) where
  | function (decl : FunctionDecl Source)
  | other (name : String)

/-- What is declared in `krepe::impl`. -/
structure ImplNamespace where
  clear_registered_views : Bool
  register_view : Bool

/-- The namespace around `replay_functor`. -/
structure KrepeNamespace where
  impl : Option ImplNamespace

variable {Source State : Type}

/-- What the calls of a function mean: what the tool does with views, what `data`
    returns for the view in a place of the functor, and what a statement of the
    source does, with whether the function returns there. -/
structure Meaning (Source State : Type) where
  clear_registered_views : State → State
  register_view : Pointer → String → State → State
  data : Path → Pointer
  source : Source → State → State × Bool

section

variable (meaning : Meaning Source State)

mutual

/-- The state after a statement, and whether the function has returned. -/
def Stmt.exec : Stmt Source → State → State × Bool
  | .clear_registered_views, state => (meaning.clear_registered_views state, false)
  | .register_view view, state =>
    (meaning.register_view (meaning.data view.component_ref) view.memory_space.name state, false)
  | .source statement, state => meaning.source statement state
  | .compound statements, state => exec_statements statements state

/-- The statements up to the first that returns, and whether one did. -/
def exec_statements : List (Stmt Source) → State → State × Bool
  | [], state => (state, false)
  | first :: rest, state =>
    let (state, returned) := first.exec state
    if returned then (state, true) else exec_statements rest state

end

/-- The state in which the views of a functor are those registered. -/
def registered_views (views : List ViewInfo) (state : State) : State :=
  views.foldl (fun state view =>
    meaning.register_view (meaning.data view.component_ref) view.memory_space.name state)
    (meaning.clear_registered_views state)

end

namespace clang

/-- A function `replay_functor` whose innermost namespace is called `krepe`. -/
def is_replay_functor (function : FunctionDecl Source) : Bool :=
  if function.name ≠ some "replay_functor" then false
  else
    match function.context.find? is_namespace with
    | some (.namespace_decl (some name)) => name = "krepe"
    | _ => false

/-- The body of a function with one parameter gets a call which clears the registered views in
    front, and after it one call for each view of the parameter; other numbers of parameters are
    an error. -/
def patch_replay_functor (krepe_namespace : KrepeNamespace) (fun_decl : FunctionDecl Source) :
    Except String (FunctionDecl Source) :=
  match fun_decl.parameters with
  | [functor] => do
    let views ← get_functor_views functor.functor_type
    match krepe_namespace.impl with
    | none => throw "Failed to find the krepe::impl namespace"
    | some impl_namespace =>
      if !impl_namespace.clear_registered_views then
        throw "Failed to find the krepe::impl::clear_registered_views function"
      else if !impl_namespace.register_view then
        throw "Failed to find the krepe::impl::register_view function"
      else
        let new_body_stmts := .clear_registered_views :: views.map .register_view ++ [fun_decl.body]
        pure { fun_decl with body := .compound new_body_stmts }
  | params =>
    throw ("krepe::replay_functor should have 1 parameter, got " ++ toString params.length)

/-- Only the definitions of `replay_functor` are changed. -/
def HandleTopLevelDecl (krepe_namespace : KrepeNamespace) (group : List (Decl Source)) :
    Except String (List (Decl Source)) :=
  group.mapM fun decl =>
    match decl with
    | .function function =>
      if is_replay_functor function then
        (patch_replay_functor krepe_namespace function).map .function
      else .ok decl
    | .other _ => .ok decl

end clang

namespace gcc

/-- A place in a statement list: the statements before and after it. -/
structure tree_stmt_iterator (Source : Type) where
  before : List (Stmt Source)
  after : List (Stmt Source)

/-- An iterator in front of the first statement. -/
def tsi_start (body : List (Stmt Source)) : tree_stmt_iterator Source := ⟨[], body⟩

/-- With `TSI_SAME_STMT`: the iterator stays at the statement where it was. -/
def tsi_link_before (it : tree_stmt_iterator Source) (statement : Stmt Source) : tree_stmt_iterator Source :=
  { it with before := it.before ++ [statement] }

/-- The statement list which the iterator goes over. -/
def tree_stmt_iterator.container (it : tree_stmt_iterator Source) : List (Stmt Source) := it.before ++ it.after

/-- A function `replay_functor` directly in a namespace called `krepe`. -/
def is_replay_functor (ast : FunctionDecl Source) : Bool :=
  if ast.name ≠ some "replay_functor" then false
  else
    match ast.context with
    | .namespace_decl (some name) :: _ => name = "krepe"
    | _ => false

/-- The part of `ast_callback` for a `replay_functor` with parameters. -/
def patch_replay_functor (scope : KrepeNamespace) (ast : FunctionDecl Source) (functor_param : ParameterType) :
    Except String (FunctionDecl Source) := do
  let views ← get_functor_views functor_param.functor_type
  match ast.body with
  | .compound body =>
    match scope.impl with
    | none => throw "ERROR: failed to find the krepe::impl namespace"
    | some impl_ns =>
      if !impl_ns.clear_registered_views then
        throw "ERROR: failed to find krepe::impl::clear_registered_views"
      else if !impl_ns.register_view then throw "ERROR: failed to find krepe::impl::register_view"
      else
        let it := tsi_link_before (tsi_start body) .clear_registered_views
        let it := views.foldl (fun it view => tsi_link_before it (.register_view view)) it
        pure { ast with body := .compound it.container }
  | _ => throw "ERROR: expected a statement list in krepe::replay_functor"

/-- Without a parameter there is only a message, and the function stays. -/
def ast_callback (scope : KrepeNamespace) (ast : Decl Source) : Except String (Decl Source) :=
  match ast with
  | .function function =>
    if is_replay_functor function then
      match function.parameters with
      | [] => .ok ast
      | functor_param :: _ => (patch_replay_functor scope function functor_param).map .function
    else .ok ast
  | .other _ => .ok ast

end gcc

end krepe.compiler_plugins
