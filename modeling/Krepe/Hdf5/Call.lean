import Krepe.Hdf5.File

namespace hdf5

/-- Calls which make, change or close a handle, a type or a dataspace, and so
    have no effect on the file. -/
inductive HandleCall where
  | H5Tcopy
  | H5Tset_size
  | H5Tset_strpad
  | H5Tclose
  | H5Screate
  | H5Screate_simple
  | H5Sclose
  | H5Aclose
  | H5Dclose
  | H5Gclose
  | H5Fclose
  deriving DecidableEq, Repr

/-- The calls of the HDF5 library which the writer makes, with the arguments that matter for the
    contents of the file. -/
inductive Call where
  | handle (call : HandleCall)
  | H5Fcreate
  | H5Fopen
  | H5Gcreate2 (loc : Path) (name : String)
  | H5Acreate2 (loc : Path) (name : String) (type : AttrType)
  | H5Awrite (loc : Path) (name : String) (value : AttrValue)
  | H5Dcreate2 (loc : Path) (name : String) (type : DataType) (dims : List Nat)
  | H5Dwrite (loc : Path) (name : String) (data : Elements)
  deriving DecidableEq, Repr

/-- The link from a group to a new object, when the name is free. -/
def File.link (file : File) (loc : Path) (name : String) (object : Object) : Option File :=
  match file.group? loc with
  | none => none
  | some group =>
    if name = "" ∨ name ∈ group.links then none
    else some ((file.set loc (.group { group with links := group.links ++ [name] })).set
      (loc ++ [name]) object)

/-- A call takes effect, or fails without effect. -/
def Call.apply : Call → File → Option File
  | .handle _, file => some file
  | .H5Fcreate, _ => some (Function.update (fun _ => none) [] (some (.group Group.empty)))
  | .H5Fopen, file => (file.group? []).map fun _ => file
  | .H5Gcreate2 loc name, file => file.link loc name (.group Group.empty)
  | .H5Acreate2 loc name type, file =>
    match file.group? loc with
    | none => none
    | some group =>
      if name = "" ∨ (group.attrs.lookup name).isSome then none
      else some (file.set loc (.group { group with attrs := group.attrs ++ [(name, type.fill)] }))
  | .H5Awrite loc name value, file =>
    match file.group? loc with
    | none => none
    | some group =>
      if (group.attrs.lookup name).isSome then
        some (file.set loc (.group { group with
          attrs := group.attrs.map fun attr => if attr.1 = name then (name, value) else attr }))
      else none
  | .H5Dcreate2 loc name type dims, file => file.link loc name (.dataset ⟨type, dims, none⟩)
  | .H5Dwrite loc name data, file =>
    (file.dataset? (loc ++ [name])).map fun dataset =>
      file.set (loc ++ [name]) (.dataset { dataset with data := some data })

/-- The file after all the calls, if none of them fails. -/
def exec : List Call → File → Option File
  | [], file => some file
  | call :: rest, file => (call.apply file).bind (exec rest)

/-- The end of a checked sequence of calls: the call which failed, if one did,
    and the file as the calls before it left it. -/
structure Outcome where
  failed : Option Call
  file : File

/-- No call failed. -/
def Outcome.ok (outcome : Outcome) : Bool := outcome.failed.isNone

/-- Calls run up to the first one which fails, by itself or because the fault
    is at its position. -/
def run (fault : Option Nat) : List Call → File → Outcome
  | [], file => ⟨none, file⟩
  | call :: rest, file =>
    if fault = some 0 then ⟨some call, file⟩
    else
      match call.apply file with
      | none => ⟨some call, file⟩
      | some next => run (fault.map Nat.pred) rest next

@[simp]
theorem exec_nil (file : File) : exec [] file = some file := rfl

theorem exec_cons (call : Call) (rest : List Call) (file : File) :
    exec (call :: rest) file = (call.apply file).bind (exec rest) := rfl

/-- A call on a handle has no effect, wherever it stands. -/
@[simp]
theorem exec_handle (call : HandleCall) (rest : List Call) :
    exec (.handle call :: rest) = exec rest := funext fun _ => rfl

theorem exec_append (first second : List Call) (file : File) :
    exec (first ++ second) file = (exec first file).bind (exec second) := by
  induction first generalizing file with
  | nil => rfl
  | cons call rest ih =>
    rw [List.cons_append, exec_cons, exec_cons]
    cases call.apply file with
    | none => rfl
    | some next => exact ih next

/-- Calls succeed if those of the first part do, and then those of the second. -/
theorem exec_append_eq_some {first second : List Call} {file final : File} :
    exec (first ++ second) file = some final ↔
      ∃ middle, exec first file = some middle ∧ exec second middle = some final := by
  rw [exec_append, Option.bind_eq_some_iff]

/-- A successful run executes all its calls. -/
theorem exec_of_run_ok {fault : Option Nat} {calls : List Call} {file : File}
    (hok : (run fault calls file).ok = true) :
    exec calls file = some (run fault calls file).file := by
  induction calls generalizing fault file with
  | nil => rfl
  | cons call rest ih =>
    rw [run] at hok ⊢
    split at hok
    · simp [Outcome.ok] at hok
    · next hfault =>
      rw [if_neg hfault]
      cases hcall : call.apply file with
      | none => simp [hcall, Outcome.ok] at hok
      | some next =>
        simp only [hcall] at hok ⊢
        rw [exec_cons, hcall, Option.bind_some]
        exact ih hok

/-- A run which fails has executed the calls before the one which failed. -/
theorem exec_of_run_failed {fault : Option Nat} {calls : List Call} {file : File}
    (hfailed : (run fault calls file).ok = false) :
    ∃ done call rest, calls = done ++ call :: rest ∧ exec done file = some (run fault calls file).file := by
  induction calls generalizing fault file with
  | nil => cases hfailed
  | cons call rest ih =>
    rw [run] at hfailed ⊢
    split
    · exact ⟨[], call, rest, rfl, rfl⟩
    · next hfault =>
      rw [if_neg hfault] at hfailed
      cases hcall : call.apply file with
      | none => exact ⟨[], call, rest, rfl, rfl⟩
      | some next =>
        simp only [hcall] at hfailed ⊢
        obtain ⟨done, failed, others, rfl, hexec⟩ := ih hfailed
        exact ⟨call :: done, failed, others, rfl, by rw [exec_cons, hcall, Option.bind_some, hexec]⟩

/-- Calls which succeed run without a fault. -/
theorem run_of_exec {calls : List Call} {file final : File} (hexec : exec calls file = some final) :
    run none calls file = ⟨none, final⟩ := by
  induction calls generalizing file with
  | nil =>
    cases hexec
    rfl
  | cons call rest ih =>
    obtain ⟨next, hcall, hrest⟩ := Option.bind_eq_some_iff.mp hexec
    simpa [run, hcall] using ih hrest

/-- A fault among calls which would all take effect stops the run right before
    the call at its position. -/
theorem run_of_fault {calls : List Call} {position : Nat} {file partialFile : File}
    (hposition : position < calls.length)
    (hexec : exec (calls.take position) file = some partialFile) :
    run (some position) calls file = ⟨some calls[position], partialFile⟩ := by
  induction calls generalizing position file with
  | nil => simp at hposition
  | cons call rest ih =>
    cases position with
    | zero =>
      cases hexec
      simp [run]
    | succ position =>
      obtain ⟨next, hcall, hrest⟩ := Option.bind_eq_some_iff.mp hexec
      have hlt : position < rest.length := by simpa using hposition
      simpa [run, hcall] using ih hlt hrest

/-- A fault after the last call is none. -/
theorem run_of_late_fault {calls : List Call} {position : Nat} {file final : File}
    (hposition : calls.length ≤ position) (hexec : exec calls file = some final) :
    run (some position) calls file = ⟨none, final⟩ := by
  induction calls generalizing position file with
  | nil =>
    cases hexec
    rfl
  | cons call rest ih =>
    cases position with
    | zero => simp at hposition
    | succ position =>
      obtain ⟨next, hcall, hrest⟩ := Option.bind_eq_some_iff.mp hexec
      have hle : rest.length ≤ position := by simpa using hposition
      simpa [run, hcall] using ih hle hrest

/-- The paths of the objects which a call may change. -/
def Call.Writes : Call → Path → Prop
  | .handle _, _ => False
  | .H5Fcreate, _ => True
  | .H5Fopen, _ => False
  | .H5Gcreate2 loc name, path => path = loc ∨ path = loc ++ [name]
  | .H5Acreate2 loc _ _, path => path = loc
  | .H5Awrite loc _ _, path => path = loc
  | .H5Dcreate2 loc name _ _, path => path = loc ∨ path = loc ++ [name]
  | .H5Dwrite loc name _, path => path = loc ++ [name]

/-- An object is linked in a group which is there, under a name which is free and not empty. -/
theorem File.link_eq_some {file final : File} {loc : Path} {name : String} {object : Object} :
    file.link loc name object = some final ↔
      ∃ group, file loc = some (.group group) ∧ name ≠ "" ∧ name ∉ group.links ∧
        final = (file.set loc (.group { group with links := group.links ++ [name] })).set
          (loc ++ [name]) object := by
  rw [File.link]
  cases hgroup : file.group? loc with
  | none =>
    simp only [reduceCtorEq, false_iff]
    rintro ⟨group, hloc, _⟩
    rw [File.group?_eq_some.mpr hloc] at hgroup
    cases hgroup
  | some group =>
    have hloc := File.group?_eq_some.mp hgroup
    by_cases hfree : name = "" ∨ name ∈ group.links
    · simp only [hfree, if_true, reduceCtorEq, false_iff]
      rintro ⟨other, hother, hname, hlinks, _⟩
      rw [hloc] at hother
      cases hother
      exact hfree.elim hname hlinks
    · simp only [hfree, if_false, Option.some.injEq]
      rw [not_or] at hfree
      constructor
      · rintro rfl
        exact ⟨group, hloc, hfree.1, hfree.2, rfl⟩
      · rintro ⟨other, hother, _, _, rfl⟩
        rw [hloc] at hother
        cases hother
        rfl

/-- A call changes only the paths it writes. -/
theorem Call.apply_frame {call : Call} {file next : File} {path : Path}
    (happly : call.apply file = some next) (hframe : ¬ call.Writes path) : next path = file path := by
  cases call with
  | handle => cases happly; rfl
  | H5Fcreate => exact absurd trivial hframe
  | H5Fopen =>
    obtain ⟨_, _, rfl⟩ := Option.map_eq_some_iff.mp happly
    rfl
  | H5Gcreate2 loc name =>
    obtain ⟨group, _, _, _, rfl⟩ := File.link_eq_some.mp happly
    simp only [Call.Writes, not_or] at hframe
    rw [File.set_of_ne _ _ hframe.2, File.set_of_ne _ _ hframe.1]
  | H5Acreate2 loc name type =>
    simp only [Call.apply] at happly
    split at happly
    · cases happly
    · split at happly
      · cases happly
      · cases happly
        exact File.set_of_ne _ _ hframe
  | H5Awrite loc name value =>
    simp only [Call.apply] at happly
    split at happly
    · cases happly
    · split at happly
      · cases happly
        exact File.set_of_ne _ _ hframe
      · cases happly
  | H5Dcreate2 loc name type dims =>
    obtain ⟨group, _, _, _, rfl⟩ := File.link_eq_some.mp happly
    simp only [Call.Writes, not_or] at hframe
    rw [File.set_of_ne _ _ hframe.2, File.set_of_ne _ _ hframe.1]
  | H5Dwrite loc name data =>
    obtain ⟨dataset, _, rfl⟩ := Option.map_eq_some_iff.mp happly
    exact File.set_of_ne _ _ hframe

/-- Calls change no object but those at the paths they write. -/
theorem exec_frame {calls : List Call} {file final : File} {path : Path}
    (hexec : exec calls file = some final) (hframe : ∀ call ∈ calls, ¬ call.Writes path) :
    final path = file path := by
  induction calls generalizing file with
  | nil =>
    cases hexec
    rfl
  | cons call rest ih =>
    obtain ⟨next, hcall, hrest⟩ := Option.bind_eq_some_iff.mp hexec
    rw [ih hrest fun other hother => hframe other (List.mem_cons_of_mem _ hother)]
    exact Call.apply_frame hcall (hframe call List.mem_cons_self)

end hdf5
