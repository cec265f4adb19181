import Krepe.CompilerPlugins.Visitor

open subobject

namespace krepe.compiler_plugins.clang.FunctorVisitor

variable (definitions : Definitions)

mutual

/-- A tree is that of a field by value: a record stands for its definition, and any
    other type is one without a record of its own. -/
def IsTree (field : FieldType definitions.count) : Ty → Prop
  | .record decl members => ∃ definition, field = .record definition ∧
      decl = definitions.decl definition ∧ AreTrees (definitions.fields definition) members
  | .scalar => get_struct_decl field = none
  | .pointer _ => get_struct_decl field = none
  | .member_function_pointer => get_struct_decl field = none
  | .array _ _ => get_struct_decl field = none

/-- The members are those of the fields of a record, in their order. -/
def AreTrees (fields : List (FieldType definitions.count)) : Members → Prop
  | .nil => fields = []
  | .cons kind type rest => ∃ field others, fields = field :: others ∧ kind = .field ∧
      IsTree field type ∧ AreTrees others rest

end

variable {definitions}

/-- Fields which name no record through a reference have trees, if the records
    among them do. -/
theorem exists_areTrees {fields : List (FieldType definitions.count)}
    (hreferences : ∀ inner, .reference (.record inner) ∉ fields)
    (hrecords : ∀ inner, .record inner ∈ fields →
      ∃ members, AreTrees definitions (definitions.fields inner) members) :
    ∃ members, AreTrees definitions fields members := by
  induction fields with
  | nil => exact ⟨.nil, rfl⟩
  | cons field rest ih =>
    obtain ⟨members, hmembers⟩ := ih (fun inner hinner => hreferences inner (List.mem_cons_of_mem _ hinner))
      (fun inner hinner => hrecords inner (List.mem_cons_of_mem _ hinner))
    have htype : ∃ type, IsTree definitions field type := by
      cases hdecl : get_struct_decl field with
      | none => exact ⟨.scalar, hdecl⟩
      | some inner =>
        have hfield : field = .record inner := by
          cases field with
          | scalar => cases hdecl
          | pointer => cases hdecl
          | record definition =>
            cases hdecl
            rfl
          | reference referred =>
            cases referred with
            | record definition => exact absurd List.mem_cons_self (hreferences definition)
            | _ => cases hdecl
        obtain ⟨members, hinner⟩ := hrecords inner (hfield ▸ List.mem_cons_self)
        exact ⟨.record (definitions.decl inner) members, inner, hfield, rfl, hinner⟩
    obtain ⟨type, htype⟩ := htype
    exact ⟨.cons .field type members, field, rest, rfl, rfl, htype, hmembers⟩

/-- Definitions without references to records have trees: one contains only
    others of a lower rank. -/
theorem exists_tree (hreferences : ∀ outer inner, .reference (.record inner) ∉ definitions.fields outer)
    (record : Fin definitions.count) :
    ∃ members, AreTrees definitions (definitions.fields record) members := by
  induction hrank : definitions.rank record using Nat.strong_induction_on generalizing record with
  | _ rank ih =>
    subst hrank
    apply exists_areTrees (hreferences record)
    intro inner hinner
    exact ih (definitions.rank inner) (definitions.by_value record inner hinner) inner rfl

mutual

/-- With room for its records, the visit of a field is that of its tree. -/
theorem visit_field_eq (field : FieldType definitions.count) (type : Ty) (htree : IsTree definitions field type) :
    ∃ depth, ∀ more, depth ≤ more → ∀ views root,
      visit_field definitions (visit definitions more) views root field =
        some (clang.visit_field views root type) := by
  have hnone : ∀ views root, get_struct_decl field = none → clang.visit_field views root type = .ok views →
      ∀ more, visit_field definitions (visit definitions more) views root field =
        some (clang.visit_field views root type) := by
    intro views root hdecl htype more
    rw [visit_field, hdecl, htype]
  cases type with
  | scalar => exact ⟨0, fun more _ views root => hnone views root htree rfl more⟩
  | pointer => exact ⟨0, fun more _ views root => hnone views root htree rfl more⟩
  | member_function_pointer => exact ⟨0, fun more _ views root => hnone views root htree rfl more⟩
  | array => exact ⟨0, fun more _ views root => hnone views root htree rfl more⟩
  | record decl members =>
    obtain ⟨definition, rfl, rfl, hmembers⟩ := htree
    obtain ⟨depth, hdepth⟩ := visit_fields_eq (definitions.fields definition) members hmembers
    refine ⟨depth + 1, fun more hmore views root => ?_⟩
    obtain ⟨room, rfl⟩ : ∃ room, more = room + 1 := ⟨more - 1, by omega⟩
    have hdecl : get_struct_decl (.record definition : FieldType definitions.count) = some definition := rfl
    simp only [visit_field, hdecl, clang.visit_field]
    cases visit_view views (definitions.decl definition) root with
    | error message => rfl
    | ok found =>
      cases found with
      | some found => rfl
      | none => exact hdepth room (by omega) views root 0

/-- The visit of fields whose types are trees agrees, at enough depth, with the visit of those
    trees. -/
theorem visit_fields_eq (fields : List (FieldType definitions.count)) (members : Members)
    (htrees : AreTrees definitions fields members) :
    ∃ depth, ∀ more, depth ≤ more → ∀ views root position,
      visit_fields definitions (visit definitions more) views root position fields =
        some (clang.visit_record views root position members) := by
  cases members with
  | nil =>
    cases htrees
    exact ⟨0, fun _ _ _ _ _ => rfl⟩
  | cons kind type rest =>
    obtain ⟨field, others, rfl, rfl, htype, hrest⟩ := htrees
    obtain ⟨room, hfield⟩ := visit_field_eq field type htype
    obtain ⟨depth, hothers⟩ := visit_fields_eq others rest hrest
    refine ⟨max room depth, fun more hmore views root position => ?_⟩
    rw [visit_fields, hfield more (by omega), clang.visit_record]
    cases clang.visit_field views (root ++ [.member .field position]) type with
    | error message => rfl
    | ok found => exact hothers more (by omega) found root (position + 1)

end

/-- Without references to records, the visits of definitions are those of the
    trees which the definitions unfold to: with enough room the visit of a record
    ends as the visit of its members does. -/
theorem visit_eq_visit_record
    (hreferences : ∀ outer inner, .reference (.record inner) ∉ definitions.fields outer)
    (record : Fin definitions.count) :
    ∃ members, AreTrees definitions (definitions.fields record) members ∧
      ∃ depth, ∀ more, depth ≤ more →
        visit definitions more [] [] record =
          some (get_functor_views (.record (definitions.decl record) members)) := by
  obtain ⟨members, hmembers⟩ := exists_tree hreferences record
  obtain ⟨depth, hdepth⟩ := visit_fields_eq (definitions.fields record) members hmembers
  refine ⟨members, hmembers, depth + 1, fun more hmore => ?_⟩
  obtain ⟨room, rfl⟩ : ∃ room, more = room + 1 := ⟨more - 1, by omega⟩
  exact hdepth room (by omega) [] [] 0

end krepe.compiler_plugins.clang.FunctorVisitor
