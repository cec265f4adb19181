import Krepe.CompilerPlugins.Clang
import Krepe.Transition.Cycle
import Mathlib.Data.Finset.Lattice.Fold

open subobject transition

namespace krepe.compiler_plugins.clang

/-- The types of fields, where `count` records are defined. -/
inductive FieldType (count : Nat) where
  | scalar
  | pointer (pointee : FieldType count)
  | record (definition : Fin count)
  | reference (referred : FieldType count)
  deriving DecidableEq, Repr

/-- Finitely many complete definitions of records, which contain one another by
    value without cycles. -/
structure Definitions where
  count : Nat
  decl : Fin count → RecordDecl
  fields : Fin count → List (FieldType count)
  rank : Fin count → Nat
  by_value : ∀ outer inner, .record inner ∈ fields outer → rank inner < rank outer

/-- Without the reference, if the type is one. -/
def get_canonical_type {count : Nat} : FieldType count → FieldType count
  | .reference referred => referred
  | type => type

/-- The definition of a record, or none for another type. -/
def get_struct_decl {count : Nat} (type : FieldType count) : Option (Fin count) :=
  match get_canonical_type type with
  | .record definition => some definition
  | _ => none

namespace FunctorVisitor

variable (definitions : Definitions)

/-- The outcome of visiting something: none as long as it goes on, an error where
    the plugin aborts. -/
abbrev Visited := Option (Except String (List ViewInfo))

/-- `visit` of a field, where `visit_record` visits records. -/
def visit_field (visit_record : List ViewInfo → Path → Fin definitions.count → Visited)
    (views : List ViewInfo) (root : Path) (field : FieldType definitions.count) : Visited :=
  match get_struct_decl field with
  | none => some (.ok views)
  | some struct_decl =>
    match visit_view views (definitions.decl struct_decl) root with
    | .error message => some (.error message)
    | .ok (some views) => some (.ok views)
    | .ok none => visit_record views root struct_decl

/-- The visit of the fields from a position on, which stops at the first error. -/
def visit_fields (visit_record : List ViewInfo → Path → Fin definitions.count → Visited)
    (views : List ViewInfo) (root : Path) (position : Nat) :
    List (FieldType definitions.count) → Visited
  | [] => some (.ok views)
  | field :: rest =>
    match visit_field definitions visit_record views (root ++ [.member .field position]) field with
    | some (.ok views) => visit_fields visit_record views root (position + 1) rest
    | stopped => stopped

/-- `visit` of a record, with room for so many calls on top of each other. -/
def visit : Nat → List ViewInfo → Path → Fin definitions.count → Visited
  | 0, _, _, _ => none
  | depth + 1, views, root, record =>
    visit_fields definitions (visit depth) views root 0 (definitions.fields record)

/-- At some depth of the recursion the visit of a record ends, with views or with an error. -/
def Terminates (record : Fin definitions.count) : Prop :=
  ∃ depth result, visit definitions depth [] [] record = some result

variable {definitions : Definitions}

/-- The plugin aborts at a field whose type it takes for a view without the
    members of one. -/
def Stops (field : FieldType definitions.count) : Prop :=
  ∃ struct_decl, get_struct_decl field = some struct_decl ∧ is_view (definitions.decl struct_decl) = true ∧
    ∃ message, push_view messages [] [] (definitions.decl struct_decl) = .error message

/-- A field of this type is visited by a visit of the record. -/
def Enters (field : FieldType definitions.count) (inner : Fin definitions.count) : Prop :=
  get_struct_decl field = some inner ∧ is_view (definitions.decl inner) = false

/-- A visit of the outer record comes to the inner one if it gets to all fields. -/
def Contains (outer inner : Fin definitions.count) : Prop :=
  ∃ field ∈ definitions.fields outer, Enters field inner

/-- Nothing inside the record makes the plugin abort: no field of it does, and every record that
    is entered from it is clear. -/
def Clear (record : Fin definitions.count) : Prop :=
  ∀ inner, Relation.ReflTransGen Contains record inner → ∀ field ∈ definitions.fields inner, ¬ Stops field

/-- A visit of the field neither stops with an error nor enters a record that is not clear. -/
def ClearField (field : FieldType definitions.count) : Prop :=
  ¬ Stops field ∧ ∀ inner, Enters field inner → Clear inner

/-- A visit of the outer record calls one of the inner record, since nothing in
    the fields before makes the plugin abort. -/
def Calls (outer inner : Fin definitions.count) : Prop :=
  ∃ before field after, definitions.fields outer = before ++ field :: after ∧ Enters field inner ∧
    ∀ earlier ∈ before, ClearField earlier

/-- Whether a view can be pushed does not depend on where it is. -/
theorem push_view_error {views : List ViewInfo} {root : Path} {decl : RecordDecl} {message : String} :
    push_view messages views root decl = .error message ↔ push_view messages [] [] decl = .error message := by
  unfold push_view
  split
  · exact Iff.rfl
  · split
    · exact Iff.rfl
    · split
      · exact Iff.rfl
      · simp

section

variable {visit_record : List ViewInfo → Path → Fin definitions.count → Visited} {views : List ViewInfo}
  {root : Path} {field : FieldType definitions.count} {inner record : Fin definitions.count}

/-- A field whose record is no view is visited like its record. -/
theorem visit_field_enters (henters : Enters field inner) :
    visit_field definitions visit_record views root field = visit_record views root inner := by
  simp [visit_field, henters.1, visit_view, henters.2]

/-- Other fields are visited at once. -/
theorem visit_field_other (hother : ∀ inner, ¬ Enters field inner) :
    ∃ result, visit_field definitions visit_record views root field = some result ∧
      ((∃ message, result = .error message) ↔ Stops field) := by
  unfold visit_field Stops
  cases hfield : get_struct_decl field with
  | none => exact ⟨_, rfl, by simp⟩
  | some inner =>
    have hview : is_view (definitions.decl inner) = true := by
      by_contra hnot
      exact hother inner ⟨hfield, by simpa using hnot⟩
    simp only [visit_view, hview, if_true]
    cases hpush : push_view messages views root (definitions.decl inner) with
    | error message =>
      refine ⟨_, rfl, fun _ => ⟨inner, rfl, hview, message, push_view_error.mp hpush⟩, fun _ => ⟨message, rfl⟩⟩
    | ok found =>
      refine ⟨_, rfl, ?_, ?_⟩
      · rintro ⟨message, hmessage⟩
        cases hmessage
      · rintro ⟨_, ⟨⟩, _, message, hmessage⟩
        rw [← @push_view_error views root, hpush] at hmessage
        cases hmessage

/-- A field which is entered does not stop the visit. -/
theorem not_stops_of_enters (henters : Enters field inner) : ¬ Stops field := by
  rintro ⟨_, hsame, hview, _⟩
  obtain rfl := Option.some.inj (henters.1.symm.trans hsame)
  rw [henters.2] at hview
  cases hview

/-- A field that was visited without an error does not stop the visit. -/
theorem not_stops_of_ok {final : List ViewInfo}
    (hok : visit_field definitions visit_record views root field = some (.ok final)) : ¬ Stops field := by
  by_cases henters : ∃ inner, Enters field inner
  · obtain ⟨inner, henters⟩ := henters
    exact not_stops_of_enters henters
  · obtain ⟨result, hresult, hstops⟩ :=
      @visit_field_other _ visit_record views root field fun inner hinner => henters ⟨inner, hinner⟩
    rw [hok] at hresult
    cases hresult
    simpa using hstops

/-- The plugin aborts at a field or inside its record. -/
theorem stops_or_enters_of_error {message : String}
    (herror : visit_field definitions visit_record views root field = some (.error message)) :
    Stops field ∨ ∃ inner, Enters field inner ∧ visit_record views root inner = some (.error message) := by
  by_cases henters : ∃ inner, Enters field inner
  · obtain ⟨inner, henters⟩ := henters
    rw [visit_field_enters henters] at herror
    exact .inr ⟨inner, henters, herror⟩
  · obtain ⟨result, hresult, hstops⟩ :=
      @visit_field_other _ visit_record views root field fun inner hinner => henters ⟨inner, hinner⟩
    rw [herror] at hresult
    cases hresult
    exact .inl (hstops.mp ⟨message, rfl⟩)

/-- A visit of fields visits the first one, and the rest unless that stops. -/
theorem visit_fields_cons {position : Nat} {rest : List (FieldType definitions.count)} {result : Visited} :
    visit_fields definitions visit_record views root position (field :: rest) = result ↔
      (∃ found, visit_field definitions visit_record views (root ++ [.member .field position]) field =
        some (.ok found) ∧ visit_fields definitions visit_record found root (position + 1) rest = result) ∨
      (∃ message, visit_field definitions visit_record views (root ++ [.member .field position]) field =
        some (.error message) ∧ result = some (.error message)) ∨
      (visit_field definitions visit_record views (root ++ [.member .field position]) field = none ∧
        result = none) := by
  rw [visit_fields]
  cases hvisit : visit_field definitions visit_record views (root ++ [.member .field position]) field with
  | none => simp [eq_comm]
  | some outcome => cases outcome <;> simp [eq_comm]

/-- A visit which comes to its end has visited every field. -/
theorem visit_fields_ok {position : Nat} {fields : List (FieldType definitions.count)}
    {final : List ViewInfo} (hok : visit_fields definitions visit_record views root position fields =
      some (.ok final)) (hfield : field ∈ fields) :
    ∃ before path after, visit_field definitions visit_record before path field = some (.ok after) := by
  induction fields generalizing views position with
  | nil => cases hfield
  | cons first rest ih =>
    rcases visit_fields_cons.mp hok with ⟨found, hfirst, hrest⟩ | ⟨message, _, hresult⟩ | ⟨_, hresult⟩
    · rcases List.mem_cons.mp hfield with rfl | hfield
      · exact ⟨_, _, _, hfirst⟩
      · exact ih hrest hfield
    · cases hresult
    · cases hresult

/-- A visit which comes to its end has met nothing that makes the plugin abort. -/
theorem clear_of_ok {depth : Nat} {final : List ViewInfo}
    (hok : visit definitions depth views root record = some (.ok final)) : Clear record := by
  induction depth generalizing views root record final with
  | zero => cases hok
  | succ depth ih =>
    intro other hother field hfield
    rcases Relation.ReflTransGen.cases_head hother with rfl | ⟨next, ⟨through, hthrough, henters⟩, hother⟩
    · obtain ⟨before, path, after, hvisited⟩ := visit_fields_ok hok hfield
      exact not_stops_of_ok hvisited
    · obtain ⟨before, path, after, hvisited⟩ := visit_fields_ok hok hthrough
      rw [visit_field_enters henters] at hvisited
      exact ih hvisited other hother field hfield

/-- A field that was visited without an error is clear. -/
theorem clearField_of_ok {depth : Nat} {final : List ViewInfo}
    (hok : visit_field definitions (visit definitions depth) views root field = some (.ok final)) :
    ClearField field := by
  refine ⟨not_stops_of_ok hok, fun inner henters => ?_⟩
  rw [visit_field_enters henters] at hok
  exact clear_of_ok hok

/-- The plugin does not abort in a clear record. -/
theorem ne_error_of_clear {depth : Nat} (hclear : Clear record) (message : String) :
    visit definitions depth views root record ≠ some (.error message) := by
  induction depth generalizing views root record with
  | zero => simp [visit]
  | succ depth ih =>
    have hfields : ∀ fields ⊆ definitions.fields record, ∀ views position,
        visit_fields definitions (visit definitions depth) views root position fields ≠
          some (.error message) := by
      intro fields hsubset
      induction fields with
      | nil => simp [visit_fields]
      | cons field rest ihRest =>
        intro views position herror
        have hfield := hsubset List.mem_cons_self
        rcases visit_fields_cons.mp herror with ⟨found, _, hrest⟩ | ⟨other, hother, hsame⟩ | ⟨_, hresult⟩
        · exact ihRest (fun _ hmem => hsubset (List.mem_cons_of_mem _ hmem)) _ _ hrest
        · cases hsame
          rcases stops_or_enters_of_error hother with hstops | ⟨inner, henters, hinner⟩
          · exact hclear record Relation.ReflTransGen.refl field hfield hstops
          · exact ih (fun other hother => hclear other (hother.head ⟨field, hfield, henters⟩)) hinner
        · cases hresult
    exact hfields _ (List.Subset.refl _) views 0

/-- A clear field is never visited with an error. -/
theorem ne_error_of_clearField {depth : Nat} (hclear : ClearField field) (message : String) :
    visit_field definitions (visit definitions depth) views root field ≠ some (.error message) := by
  intro herror
  rcases stops_or_enters_of_error herror with hstops | ⟨inner, henters, hinner⟩
  · exact hclear.1 hstops
  · exact ne_error_of_clear (hclear.2 inner henters) message hinner

/-- A visit of a record from which calls reach a cycle needs more than any
    number of calls on top of each other. -/
theorem visit_eq_none (hcycle : ReachesCycle Calls record) (depth : Nat) :
    visit definitions depth views root record = none := by
  induction depth generalizing views root record with
  | zero => rfl
  | succ depth ih =>
    obtain ⟨next, ⟨before, field, after, hfields, henters, hclear⟩, hcycle⟩ := hcycle.next
    have hvisits : ∀ earlier rest, before = earlier ++ rest → ∀ views position,
        visit_fields definitions (visit definitions depth) views root position (rest ++ field :: after) = none := by
      intro earlier rest hsplit views position
      induction rest generalizing earlier views position with
      | nil =>
        refine visit_fields_cons.mpr (.inr (.inr ⟨?_, rfl⟩))
        rw [visit_field_enters henters]
        exact ih hcycle
      | cons first rest ihRest =>
        have hfirst : ClearField first := hclear first (by simp [hsplit])
        refine visit_fields_cons.mpr ?_
        cases hvisit : visit_field definitions (visit definitions depth) views
            (root ++ [.member .field position]) first with
        | none => exact .inr (.inr ⟨rfl, rfl⟩)
        | some outcome =>
          cases outcome with
          | error message => exact absurd hvisit (ne_error_of_clearField hfirst message)
          | ok found => exact .inl ⟨found, rfl, ihRest (earlier ++ [first]) (by simp [hsplit]) _ _⟩
    rw [visit, hfields]
    exact hvisits [] before rfl views 0

/-- A field is visited as before where the records inside it are. -/
theorem visit_field_mono {other : List ViewInfo → Path → Fin definitions.count → Visited}
    (hrecord : ∀ {views root inner result}, visit_record views root inner = some result →
      other views root inner = some result) {result : Except String (List ViewInfo)}
    (hvisit : visit_field definitions visit_record views root field = some result) :
    visit_field definitions other views root field = some result := by
  unfold visit_field at hvisit ⊢
  cases hdecl : get_struct_decl field with
  | none => simpa only [hdecl] using hvisit
  | some inner =>
    simp only [hdecl] at hvisit ⊢
    cases hview : visit_view views (definitions.decl inner) root with
    | error message => simpa only [hview] using hvisit
    | ok found =>
      rw [hview] at hvisit
      cases found with
      | some found => exact hvisit
      | none => exact hrecord hvisit

theorem visit_fields_mono {other : List ViewInfo → Path → Fin definitions.count → Visited}
    (hrecord : ∀ {views root inner result}, visit_record views root inner = some result →
      other views root inner = some result) {position : Nat}
    {fields : List (FieldType definitions.count)} {result : Except String (List ViewInfo)}
    (hvisit : visit_fields definitions visit_record views root position fields = some result) :
    visit_fields definitions other views root position fields = some result := by
  induction fields generalizing views position with
  | nil => exact hvisit
  | cons first rest ih =>
    refine visit_fields_cons.mpr ?_
    rcases visit_fields_cons.mp hvisit with ⟨found, hfirst, hrest⟩ | ⟨message, hfirst, hsame⟩ | ⟨_, hnone⟩
    · exact .inl ⟨found, visit_field_mono hrecord hfirst, ih hrest⟩
    · exact .inr (.inl ⟨message, visit_field_mono hrecord hfirst, hsame⟩)
    · cases hnone

/-- A visit with a result has the same one with more room. -/
theorem visit_mono {depth more : Nat} (hle : depth ≤ more) {result : Except String (List ViewInfo)}
    (hresult : visit definitions depth views root record = some result) :
    visit definitions more views root record = some result := by
  induction depth generalizing more views root record result with
  | zero => cases hresult
  | succ depth ih =>
    obtain ⟨more, rfl⟩ : ∃ less, more = less + 1 := ⟨more - 1, by omega⟩
    exact visit_fields_mono (ih (by omega)) hresult

/-- At this depth of the recursion the visit of a record ends, whatever views were found before
    and wherever in the functor the record is. -/
def Halts (depth : Nat) (record : Fin definitions.count) : Prop :=
  ∀ views root, ∃ result, visit definitions depth views root record = some result

/-- A visit which ends at some depth ends at every greater one. -/
theorem Halts.mono {depth more : Nat} (hle : depth ≤ more) (hhalts : Halts depth record) :
    Halts more record := by
  intro views root
  obtain ⟨result, hresult⟩ := hhalts views root
  exact ⟨result, visit_mono hle hresult⟩

/-- Room for all records which a visit calls for is room for its fields. -/
theorem visit_fields_halts {depth : Nat} (hcalls : ∀ inner, Calls record inner → Halts depth inner)
    {before rest : List (FieldType definitions.count)} (hfields : definitions.fields record = before ++ rest)
    (hclear : ∀ earlier ∈ before, ClearField earlier) (views : List ViewInfo) (root : Path) (position : Nat) :
    ∃ result, visit_fields definitions (visit definitions depth) views root position rest = some result := by
  induction rest generalizing before views position with
  | nil => exact ⟨_, rfl⟩
  | cons field rest ih =>
    have hvisit : ∃ outcome, visit_field definitions (visit definitions depth) views
        (root ++ [.member .field position]) field = some outcome := by
      by_cases henters : ∃ inner, Enters field inner
      · obtain ⟨inner, henters⟩ := henters
        rw [visit_field_enters henters]
        exact hcalls inner ⟨before, field, rest, hfields, henters, hclear⟩ _ _
      · obtain ⟨outcome, houtcome, _⟩ := @visit_field_other _ (visit definitions depth) views
          (root ++ [.member .field position]) field fun inner hinner => henters ⟨inner, hinner⟩
        exact ⟨outcome, houtcome⟩
    obtain ⟨outcome, hvisit⟩ := hvisit
    cases outcome with
    | error message => exact ⟨_, visit_fields_cons.mpr (.inr (.inl ⟨message, hvisit, rfl⟩))⟩
    | ok found =>
      have hpassed : ∀ earlier ∈ before ++ [field], ClearField earlier := by
        intro earlier hearlier
        rcases List.mem_append.mp hearlier with hearlier | hearlier
        · exact hclear earlier hearlier
        · obtain rfl := List.mem_singleton.mp hearlier
          exact clearField_of_ok hvisit
      obtain ⟨result, hresult⟩ := ih (by simp [hfields]) hpassed found (position + 1)
      exact ⟨result, visit_fields_cons.mpr (.inl ⟨found, hvisit, hresult⟩)⟩

/-- A visit ends if the visits of all the records it calls end. -/
theorem halts_of_calls (hcalls : ∀ inner, Calls record inner → ∃ depth, Halts depth inner) :
    ∃ depth, Halts depth record := by
  choose! depth hdepth using hcalls
  refine ⟨Finset.univ.sup depth + 1, fun views root => ?_⟩
  refine visit_fields_halts (fun inner hinner => ?_) (List.nil_append _).symm (by simp) views root 0
  exact (hdepth inner hinner).mono (Finset.le_sup (Finset.mem_univ inner))

/-- A visit from which no cycle is reached ends, by induction on the calls. -/
theorem terminates_of_not_reachesCycle (hcycle : ¬ ReachesCycle Calls record) :
    Terminates definitions record := by
  have hhalts : ∃ depth, Halts depth record := by
    induction acc_of_not_reachesCycle hcycle with
    | intro record _ ih =>
      refine halts_of_calls fun inner hcalls => ih inner hcalls ?_
      rintro ⟨repeated, hreaches, hrepeats⟩
      exact hcycle ⟨repeated, hreaches.head hcalls, hrepeats⟩
  obtain ⟨depth, hhalts⟩ := hhalts
  obtain ⟨result, hresult⟩ := hhalts [] []
  exact ⟨depth, result, hresult⟩

/-- For every table of record definitions: the visit of a record ends, at some depth of the
    recursion, if and only if the calls from the record do not reach a record from which the
    calls lead back to it. -/
theorem terminates_iff (record : Fin definitions.count) :
    Terminates definitions record ↔ ¬ ReachesCycle Calls record := by
  refine ⟨?_, terminates_of_not_reachesCycle⟩
  rintro ⟨depth, result, hresult⟩ hcycle
  rw [visit_eq_none hcycle] at hresult
  cases hresult

/-- A record which calls go to is a member by value or the target of a reference. -/
theorem member_of_calls (hcalls : Calls record inner) :
    .record inner ∈ definitions.fields record ∨ .reference (.record inner) ∈ definitions.fields record := by
  obtain ⟨before, field, after, hfields, ⟨hdecl, _⟩, _⟩ := hcalls
  have hmem : field ∈ definitions.fields record := by simp [hfields]
  unfold get_struct_decl at hdecl
  split at hdecl
  · next definition hcanonical =>
    obtain rfl := Option.some.inj hdecl
    cases field with
    | scalar => cases hcanonical
    | pointer => cases hcanonical
    | record =>
      cases hcanonical
      exact .inl hmem
    | reference referred =>
      have hreferred : referred = .record definition := hcanonical
      exact .inr (hreferred ▸ hmem)
  · cases hdecl

/-- Records which hold no references to records are visited to the end. -/
theorem terminates_of_by_value
    (hreferences : ∀ outer inner, .reference (.record inner) ∉ definitions.fields outer)
    (record : Fin definitions.count) : Terminates definitions record := by
  have hstep : ∀ {outer inner}, Calls outer inner → definitions.rank inner < definitions.rank outer := by
    intro outer inner hcalls
    exact definitions.by_value outer inner ((member_of_calls hcalls).resolve_right (hreferences outer inner))
  have hrank : ∀ {outer inner}, Relation.TransGen (@Calls definitions) outer inner →
      definitions.rank inner < definitions.rank outer := by
    intro outer inner hcalls
    induction hcalls with
    | single hcalls => exact hstep hcalls
    | tail _ hcalls ih => exact (hstep hcalls).trans ih
  refine terminates_of_not_reachesCycle ?_
  rintro ⟨repeated, _, hrepeats⟩
  exact Nat.lt_irrefl _ (hrank hrepeats)

end

/-- A record with a reference to its own type, like that of a lambda which
    captures such an object by reference. -/
def self_reference : Definitions where
  count := 1
  decl _ := ⟨"Node", [], false, none, fun hname => absurd hname (by decide)⟩
  fields _ := [.reference (.record 0)]
  rank _ := 0
  by_value outer inner hmember := by simp at hmember

/-- The record of `self_reference`, which holds a reference to itself. -/
def self_reference_node : Fin self_reference.count := ⟨0, Nat.one_pos⟩

/-- No depth of the recursion is enough to visit a record with a reference to its own type. -/
theorem not_terminates_self_reference : ¬ Terminates self_reference self_reference_node := by
  rintro ⟨depth, result, hresult⟩
  have hcalls : Calls self_reference_node self_reference_node :=
    ⟨[], .reference (.record self_reference_node), [], rfl, ⟨rfl, rfl⟩, by simp⟩
  rw [visit_eq_none ⟨self_reference_node, .refl, .single hcalls⟩] at hresult
  cases hresult

end FunctorVisitor

end krepe.compiler_plugins.clang
