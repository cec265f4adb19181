import Krepe.Hdf5.Observation

namespace hdf5

/-- Calls keep a property of files wherever they stop. -/
def Preserves (I : File → Prop) (calls : List Call) : Prop :=
  ∀ done, done <+: calls → ∀ file final, I file → exec done file = some final → I final

section

variable {I : File → Prop}

theorem preserves_nil : Preserves I [] := by
  intro done hdone file final hfile hexec
  cases List.prefix_nil.mp hdone
  cases hexec
  exact hfile

/-- Calls which keep a property keep it one after the other. -/
theorem Preserves.append {first second : List Call} (hfirst : Preserves I first) (hsecond : Preserves I second) :
    Preserves I (first ++ second) := by
  intro done hdone file final hfile hexec
  rcases List.prefix_or_prefix_of_prefix hdone (List.prefix_append first second) with hshort | ⟨made, rfl⟩
  · exact hfirst done hshort file final hfile hexec
  · obtain ⟨middle, hmiddle, hrest⟩ := exec_append_eq_some.mp hexec
    have hmade : made <+: second := (List.prefix_append_right_inj first).mp hdone
    exact hsecond made hmade middle final (hfirst first List.prefix_rfl file middle hfile hmiddle) hrest

theorem preserves_singleton {call : Call}
    (hcall : ∀ file next, I file → call.apply file = some next → I next) : Preserves I [call] := by
  intro done hdone file final hfile hexec
  rcases List.prefix_cons_iff.mp hdone with rfl | ⟨rest, rfl, hrest⟩
  · cases hexec
    exact hfile
  · cases List.prefix_nil.mp hrest
    obtain ⟨next, hnext, hend⟩ := Option.bind_eq_some_iff.mp hexec
    cases hend
    exact hcall file final hfile hnext

theorem Preserves.cons {call : Call} {rest : List Call} (hcall : Preserves I [call]) (hrest : Preserves I rest) :
    Preserves I (call :: rest) := hcall.append hrest

/-- A property which calls keep holds wherever a run of them ends. -/
theorem Preserves.run {calls : List Call} (hcalls : Preserves I calls) (fault : Option Nat) {file : File}
    (hfile : I file) : I (run fault calls file).file := by
  cases hok : (hdf5.run fault calls file).ok with
  | true => exact hcalls calls List.prefix_rfl file _ hfile (exec_of_run_ok hok)
  | false =>
    obtain ⟨done, call, rest, hcut, hexec⟩ := exec_of_run_failed hok
    exact hcalls done (hcut ▸ List.prefix_append _ _) file _ hfile hexec

end

/-- What the attributes and the datasets of a file may be, by their paths. -/
structure Typing where
  attr : Path → String → AttrValue → Prop
  dataset : Path → Dataset → Prop

/-- A file has the types, of what is in it. -/
structure Typing.Holds (typing : Typing) (file : File) : Prop where
  attr : ∀ path name value, file.attr? path name = some value → typing.attr path name value
  dataset : ∀ path dataset, file.dataset? path = some dataset → typing.dataset path dataset

namespace Typing

variable {typing : Typing}

/-- A file without contents has every typing. -/
theorem holds_no_file : typing.Holds fun _ => none where
  attr _ _ _ hvalue := by cases hvalue
  dataset _ _ hdataset := by cases hdataset

/-- A call keeps the types if what it stores has them. -/
theorem Holds.apply {call : Call} {file next : File} (hholds : typing.Holds file)
    (happly : call.apply file = some next)
    (hattr : ∀ path name value, attr_relevant path name call = true →
      attr_effect (file.attr? path name) call = some value → typing.attr path name value)
    (hdataset : ∀ path dataset, dataset_relevant path call = true →
      dataset_effect (file.dataset? path) call = some dataset → typing.dataset path dataset) :
    typing.Holds next := by
  constructor
  · intro path name value hvalue
    have hread : next.attr? path name = if attr_relevant path name call then
        attr_effect (file.attr? path name) call else file.attr? path name :=
      (attr_observation path name).of_apply happly
    rw [hread] at hvalue
    split at hvalue
    · next hrelevant => exact hattr path name value hrelevant hvalue
    · exact hholds.attr path name value hvalue
  · intro path dataset hread
    have heffect : next.dataset? path = if dataset_relevant path call then
        dataset_effect (file.dataset? path) call else file.dataset? path :=
      (dataset_observation path).of_apply happly
    rw [heffect] at hread
    split at hread
    · next hrelevant => exact hdataset path dataset hrelevant hread
    · exact hholds.dataset path dataset hread

theorem preserves_handle (call : HandleCall) : Preserves typing.Holds [.handle call] :=
  preserves_singleton fun _ _ hholds happly => by
    cases happly
    exact hholds

theorem preserves_create : Preserves typing.Holds [.H5Fcreate] :=
  preserves_singleton fun file _ hholds happly =>
    hholds.apply happly (fun _ _ _ _ heffect => by cases heffect) (fun _ _ _ heffect => by cases heffect)

theorem preserves_open : Preserves typing.Holds [.H5Fopen] :=
  preserves_singleton fun file _ hholds happly =>
    hholds.apply happly (fun _ _ _ hrelevant => by cases hrelevant) (fun _ _ hrelevant => by cases hrelevant)

theorem preserves_group (loc : Path) (name : String) : Preserves typing.Holds [.H5Gcreate2 loc name] :=
  preserves_singleton fun file _ hholds happly =>
    hholds.apply happly (fun _ _ _ _ heffect => by cases heffect) (fun _ _ _ heffect => by cases heffect)

/-- An attribute may be created where its first value fits. -/
theorem preserves_create_attr {loc : Path} {name : String} {type : AttrType} (htype : typing.attr loc name type.fill) :
    Preserves typing.Holds [.H5Acreate2 loc name type] :=
  preserves_singleton fun file _ hholds happly => by
    refine hholds.apply happly (fun path attr value hrelevant heffect => ?_)
      (fun _ _ hrelevant => by cases hrelevant)
    obtain ⟨rfl, rfl⟩ := of_decide_eq_true hrelevant
    cases heffect
    exact htype

/-- A value may be written where it fits. -/
theorem preserves_write_attr {loc : Path} {name : String} {value : AttrValue} (hvalue : typing.attr loc name value) :
    Preserves typing.Holds [.H5Awrite loc name value] :=
  preserves_singleton fun file _ hholds happly => by
    refine hholds.apply happly (fun path attr stored hrelevant heffect => ?_)
      (fun _ _ hrelevant => by cases hrelevant)
    obtain ⟨rfl, rfl⟩ := of_decide_eq_true hrelevant
    cases heffect
    exact hvalue

/-- An attribute has its type from when it is created, before it is written. -/
theorem preserves_attribute {loc : Path} {name : String} {type : AttrType} {value : AttrValue}
    (htype : typing.attr loc name type.fill) (hvalue : typing.attr loc name value) :
    Preserves typing.Holds [.H5Acreate2 loc name type, .H5Awrite loc name value] :=
  (preserves_create_attr htype).cons (preserves_write_attr hvalue)

/-- A dataset may be created where it fits without elements. -/
theorem preserves_create_dataset {loc : Path} {name : String} {type : DataType} {dims : List Nat}
    (htype : typing.dataset (loc ++ [name]) ⟨type, dims, none⟩) :
    Preserves typing.Holds [.H5Dcreate2 loc name type dims] :=
  preserves_singleton fun file _ hholds happly => by
    refine hholds.apply happly (fun _ _ _ _ heffect => by cases heffect)
      (fun path dataset hrelevant heffect => ?_)
    obtain rfl := of_decide_eq_true hrelevant
    cases heffect
    exact htype

/-- What is written to a dataset which was created before it has its type. -/
theorem preserves_dataset {loc : Path} {name : String} {type : DataType} {dims : List Nat} {data : Elements}
    (htype : typing.dataset (loc ++ [name]) ⟨type, dims, none⟩)
    (hdata : typing.dataset (loc ++ [name]) ⟨type, dims, some data⟩) :
    Preserves typing.Holds [.H5Dcreate2 loc name type dims, .H5Dwrite loc name data] := by
  intro done hdone file final hfile hexec
  rcases List.prefix_cons_iff.mp hdone with rfl | ⟨rest, rfl, hrest⟩
  · cases hexec
    exact hfile
  · obtain ⟨next, hcreate, hwrite⟩ := Option.bind_eq_some_iff.mp hexec
    have hnext : typing.Holds next := preserves_create_dataset htype _ List.prefix_rfl file next hfile (by
      rw [exec_cons, hcreate, Option.bind_some, exec_nil])
    have hcreated : next.dataset? (loc ++ [name]) = some ⟨type, dims, none⟩ := by
      rw [File.dataset?_link hcreate, if_pos rfl]
    rcases List.prefix_cons_iff.mp hrest with rfl | ⟨others, rfl, hothers⟩
    · cases hwrite
      exact hnext
    · cases List.prefix_nil.mp hothers
      obtain ⟨written, happly, hend⟩ := Option.bind_eq_some_iff.mp hwrite
      cases hend
      refine hnext.apply happly (fun _ _ _ hrelevant => by cases hrelevant)
        (fun path dataset hrelevant heffect => ?_)
      obtain rfl := of_decide_eq_true hrelevant
      rw [hcreated] at heffect
      cases heffect
      exact hdata

end Typing

end hdf5
