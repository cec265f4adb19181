import Mathlib.Data.List.Basic
import Mathlib.Data.List.Nodup

namespace subobject

/-- How a record has a member. -/
inductive MemberKind where
  | field
  | base
  /-- No object of the record stores the member. -/
  | static
  deriving DecidableEq, Repr

mutual

/-- The types of objects, over the declarations of their records. -/
inductive Ty (Decl : Type) where
  | scalar
  | pointer (pointee : Ty Decl)
  /-- No pointer to an object: a compiler may keep it as a record of its own. -/
  | member_function_pointer
  | array (count : Nat) (element : Ty Decl)
  | record (decl : Decl) (members : Members Decl)

/-- The members of a record, in the order of their declaration. -/
inductive Members (Decl : Type) where
  | nil
  | cons (kind : MemberKind) (type : Ty Decl) (rest : Members Decl)

end

/-- One step from an object to a direct subobject. A member is known by its
    position, so that different subobjects have different paths. -/
inductive Step where
  | member (kind : MemberKind) (position : Nat)
  | element (index : Nat)
  deriving DecidableEq, Repr

/-- The way from an object to one of its subobjects. -/
abbrev Path := List Step

/-- The steps to what an object stores. -/
def stored : Step → Bool
  | .member .static _ => false
  | _ => true

variable {Decl : Type} (accept : Decl → Bool) (follow : Step → Bool)

/-- Subobjects found below one step. -/
def below (step : Step) (found : List (Path × Decl)) : List (Path × Decl) :=
  if follow step then found.map fun entry => (step :: entry.1, entry.2) else []

mutual

/-- The accepted records which a walk over the followed steps finds. It does not
    look into a record which it accepts. -/
def walk : Ty Decl → List (Path × Decl)
  | .scalar => []
  | .pointer _ => []
  | .member_function_pointer => []
  | .array count element =>
    (List.range count).flatMap fun index => below follow (.element index) (walk element)
  | .record decl members => if accept decl then [([], decl)] else walk_members 0 members

/-- The accepted records which the walk finds in the members from a position on. -/
def walk_members (position : Nat) : Members Decl → List (Path × Decl)
  | .nil => []
  | .cons kind type rest =>
    below follow (.member kind position) (walk type) ++ walk_members (position + 1) rest

end

mutual

/-- All records which the followed steps lead to, those inside of an accepted
    record left out. -/
def reached : Ty Decl → List (Path × Decl)
  | .scalar => []
  | .pointer _ => []
  | .member_function_pointer => []
  | .array count element =>
    (List.range count).flatMap fun index => below follow (.element index) (reached element)
  | .record decl members => ([], decl) :: if accept decl then [] else reached_members 0 members

/-- The records which the followed steps lead to in the members from a position on. -/
def reached_members (position : Nat) : Members Decl → List (Path × Decl)
  | .nil => []
  | .cons kind type rest =>
    below follow (.member kind position) (reached type) ++ reached_members (position + 1) rest

end

mutual

/-- A walk over the followed steps comes to a pointer to a member function. -/
def meets_function_pointer : Ty Decl → Bool
  | .scalar => false
  | .pointer _ => false
  | .member_function_pointer => true
  | .array count element =>
    (List.range count).any fun index => follow (.element index) && meets_function_pointer element
  | .record decl members => !accept decl && meets_function_pointer_members 0 members

/-- A followed member from a position on meets a pointer to a member function. -/
def meets_function_pointer_members (position : Nat) : Members Decl → Bool
  | .nil => false
  | .cons kind type rest =>
    (follow (.member kind position) && meets_function_pointer type) ||
      meets_function_pointer_members (position + 1) rest

end

variable {accept follow}

theorem mem_below {step : Step} {found : List (Path × Decl)} {entry : Path × Decl} :
    entry ∈ below follow step found ↔
      follow step = true ∧ ∃ rest, entry.1 = step :: rest ∧ (rest, entry.2) ∈ found := by
  unfold below
  by_cases hstep : follow step = true
  · simp only [hstep, if_true, List.mem_map, true_and]
    refine ⟨fun hentry => ?_, fun hentry => ?_⟩
    · obtain ⟨inner, hinner, rfl⟩ := hentry
      exact ⟨inner.1, rfl, hinner⟩
    · obtain ⟨rest, hrest, hinner⟩ := hentry
      exact ⟨_, hinner, Prod.ext hrest.symm rfl⟩
  · simp [hstep]

theorem below_nodup {step : Step} {found : List (Path × Decl)}
    (hnodup : (found.map Prod.fst).Nodup) : ((below follow step found).map Prod.fst).Nodup := by
  unfold below
  split
  · have hpaths : (found.map fun entry => (step :: entry.1, entry.2)).map Prod.fst =
        (found.map Prod.fst).map (step :: ·) := by
      simp [Function.comp_def]
    rw [hpaths]
    exact hnodup.map (List.cons_injective)
  · exact List.nodup_nil

mutual

/-- A walk takes followed steps to accepted leaves. -/
theorem walk_steps (type : Ty Decl) {entry : Path × Decl} (hentry : entry ∈ walk accept follow type) :
    (∀ step ∈ entry.1, follow step = true) ∧ accept entry.2 = true := by
  cases type with
  | scalar => simp [walk] at hentry
  | pointer => simp [walk] at hentry
  | member_function_pointer => simp [walk] at hentry
  | array count element =>
    rw [walk, List.mem_flatMap] at hentry
    obtain ⟨index, _, hbelow⟩ := hentry
    obtain ⟨hstep, rest, hpath, hinner⟩ := mem_below.mp hbelow
    have hsteps := walk_steps element hinner
    rw [hpath, List.forall_mem_cons]
    exact ⟨⟨hstep, hsteps.1⟩, hsteps.2⟩
  | record decl members =>
    rw [walk] at hentry
    by_cases haccept : accept decl = true
    · rw [if_pos haccept, List.mem_singleton] at hentry
      subst hentry
      exact ⟨by simp, haccept⟩
    · rw [if_neg haccept] at hentry
      exact walk_members_steps 0 members hentry

theorem walk_members_steps (position : Nat) (members : Members Decl) {entry : Path × Decl}
    (hentry : entry ∈ walk_members accept follow position members) :
    (∀ step ∈ entry.1, follow step = true) ∧ accept entry.2 = true := by
  cases members with
  | nil => simp [walk_members] at hentry
  | cons kind type rest =>
    rw [walk_members, List.mem_append] at hentry
    cases hentry with
    | inl hbelow =>
      obtain ⟨hstep, tail, hpath, hinner⟩ := mem_below.mp hbelow
      have hsteps := walk_steps type hinner
      rw [hpath, List.forall_mem_cons]
      exact ⟨⟨hstep, hsteps.1⟩, hsteps.2⟩
    | inr hrest => exact walk_members_steps (position + 1) rest hrest

end

/-- The members from a position on are found at no path of an earlier one. -/
theorem walk_members_position {position : Nat} {members : Members Decl} {entry : Path × Decl}
    (hentry : entry ∈ walk_members accept follow position members) :
    ∃ kind index rest, entry.1 = .member kind index :: rest ∧ position ≤ index := by
  induction members using Members.rec (motive_1 := fun _ => True) generalizing position with
  | nil => simp [walk_members] at hentry
  | cons kind type rest _ ih =>
    rw [walk_members, List.mem_append] at hentry
    cases hentry with
    | inl hbelow =>
      obtain ⟨_, tail, hpath, _⟩ := mem_below.mp hbelow
      exact ⟨kind, position, tail, hpath, Nat.le_refl _⟩
    | inr hrest =>
      obtain ⟨other, index, tail, hpath, hindex⟩ := ih hrest
      exact ⟨other, index, tail, hpath, by omega⟩
  | _ => trivial

mutual

/-- No path is found twice. -/
theorem walk_nodup (type : Ty Decl) : ((walk accept follow type).map Prod.fst).Nodup := by
  cases type with
  | scalar => simp [walk]
  | pointer => simp [walk]
  | member_function_pointer => simp [walk]
  | array count element =>
    rw [walk, List.map_flatMap, List.nodup_flatMap]
    refine ⟨fun index _ => below_nodup (walk_nodup element), ?_⟩
    apply List.nodup_range.imp
    intro first second hne path hfirst hsecond
    obtain ⟨left, hleft, rfl⟩ := List.mem_map.mp hfirst
    obtain ⟨right, hright, hpath⟩ := List.mem_map.mp hsecond
    obtain ⟨_, _, hleftPath, _⟩ := mem_below.mp hleft
    obtain ⟨_, _, hrightPath, _⟩ := mem_below.mp hright
    rw [hleftPath, hrightPath] at hpath
    simp only [List.cons.injEq, Step.element.injEq] at hpath
    exact hne hpath.1.symm
  | record decl members =>
    rw [walk]
    split
    · simp
    · exact walk_members_nodup 0 members

/-- No leaf is found twice. -/
theorem walk_members_nodup (position : Nat) (members : Members Decl) :
    ((walk_members accept follow position members).map Prod.fst).Nodup := by
  cases members with
  | nil => simp [walk_members]
  | cons kind type rest =>
    rw [walk_members, List.map_append, List.nodup_append]
    refine ⟨below_nodup (walk_nodup type), walk_members_nodup (position + 1) rest, ?_⟩
    intro path hpath other hother heq
    obtain ⟨left, hleft, rfl⟩ := List.mem_map.mp hpath
    obtain ⟨right, hright, rfl⟩ := List.mem_map.mp hother
    obtain ⟨_, _, hleftPath, _⟩ := mem_below.mp hleft
    obtain ⟨_, _, _, hrightPath, hindex⟩ := walk_members_position hright
    rw [hleftPath, hrightPath] at heq
    simp only [List.cons.injEq, Step.member.injEq] at heq
    omega

end

end subobject
