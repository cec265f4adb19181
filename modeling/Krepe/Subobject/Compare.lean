import Krepe.Subobject.Walk

namespace subobject

variable {Decl : Type} {genuine accept : Decl → Bool} {whole follow : Step → Bool}

theorem below_agrees {step : Step} {found expected : List (Path × Decl)}
    (hfollow : follow step = true → whole step = true)
    (hsteps : ∀ entry ∈ below whole step expected, ∀ other ∈ entry.1, follow other = true)
    (hfound : follow step = true → found = expected) :
    below follow step found = below whole step expected := by
  by_cases hstep : follow step = true
  · rw [hfound hstep, below, below, if_pos hstep, if_pos (hfollow hstep)]
  · rw [below, if_neg hstep]
    symm
    apply List.eq_nil_iff_forall_not_mem.mpr
    intro entry hentry
    obtain ⟨_, rest, hpath, _⟩ := mem_below.mp hentry
    apply hstep
    apply hsteps entry hentry
    rw [hpath]
    exact List.mem_cons_self

mutual

/-- A walk which follows some of the steps finds the same as one which follows
    all, if no path needs a step it leaves out and it accepts no other record. -/
theorem walk_agrees (hfollow : ∀ step, follow step = true → whole step = true)
    (haccept : ∀ decl, genuine decl = true → accept decl = true) (type : Ty Decl)
    (honly : ∀ entry ∈ reached genuine follow type, accept entry.2 = true → genuine entry.2 = true)
    (hsteps : ∀ entry ∈ walk genuine whole type, ∀ step ∈ entry.1, follow step = true) :
    walk accept follow type = walk genuine whole type := by
  cases type with
  | scalar => rfl
  | pointer => rfl
  | member_function_pointer => rfl
  | array count element =>
    rw [walk, walk]
    apply List.flatMap_congr
    intro index hindex
    have hbelow : ∀ entry ∈ below whole (.element index) (walk genuine whole element),
        ∀ other ∈ entry.1, follow other = true := by
      intro entry hentry
      apply hsteps
      rw [walk]
      exact List.mem_flatMap.mpr ⟨index, hindex, hentry⟩
    apply below_agrees (hfollow _) hbelow
    intro hstep
    apply walk_agrees hfollow haccept element
    · intro entry hentry
      apply honly (.element index :: entry.1, entry.2)
      rw [reached]
      exact List.mem_flatMap.mpr ⟨index, hindex, mem_below.mpr ⟨hstep, entry.1, rfl, hentry⟩⟩
    · intro entry hentry step hmem
      exact hbelow (.element index :: entry.1, entry.2)
        (mem_below.mpr ⟨hfollow _ hstep, entry.1, rfl, hentry⟩) step (List.mem_cons_of_mem _ hmem)
  | record decl members =>
    rw [walk, walk]
    by_cases hgenuine : genuine decl = true
    · rw [if_pos hgenuine, if_pos (haccept decl hgenuine)]
    · have hreject : ¬ accept decl = true := fun hdecl =>
        hgenuine (honly ([], decl) (by rw [reached]; exact List.mem_cons_self) hdecl)
      rw [if_neg hgenuine, if_neg hreject]
      apply walk_members_agrees hfollow haccept 0 members
      · intro entry hentry
        apply honly
        rw [reached, if_neg hgenuine]
        exact List.mem_cons_of_mem _ hentry
      · intro entry hentry
        apply hsteps
        rw [walk, if_neg hgenuine]
        exact hentry

theorem walk_members_agrees (hfollow : ∀ step, follow step = true → whole step = true)
    (haccept : ∀ decl, genuine decl = true → accept decl = true) (position : Nat)
    (members : Members Decl)
    (honly : ∀ entry ∈ reached_members genuine follow position members,
      accept entry.2 = true → genuine entry.2 = true)
    (hsteps : ∀ entry ∈ walk_members genuine whole position members,
      ∀ step ∈ entry.1, follow step = true) :
    walk_members accept follow position members = walk_members genuine whole position members := by
  cases members with
  | nil => rfl
  | cons kind type rest =>
    rw [walk_members] at hsteps
    rw [reached_members] at honly
    rw [walk_members, walk_members]
    have hhere : ∀ entry ∈ below whole (.member kind position) (walk genuine whole type),
        ∀ other ∈ entry.1, follow other = true := fun entry hentry =>
      hsteps entry (List.mem_append_left _ hentry)
    have hrest := walk_members_agrees hfollow haccept (position + 1) rest
      (fun entry hentry => honly entry (List.mem_append_right _ hentry))
      (fun entry hentry => hsteps entry (List.mem_append_right _ hentry))
    rw [hrest]
    congr 1
    apply below_agrees (hfollow _) hhere
    intro hstep
    apply walk_agrees hfollow haccept type
    · intro entry hentry
      apply honly (.member kind position :: entry.1, entry.2)
      exact List.mem_append_left _ (mem_below.mpr ⟨hstep, entry.1, rfl, hentry⟩)
    · intro entry hentry step hmem
      exact hhere (.member kind position :: entry.1, entry.2)
        (mem_below.mpr ⟨hfollow _ hstep, entry.1, rfl, hentry⟩) step (List.mem_cons_of_mem _ hmem)

end

mutual

/-- Walks which accept the same of the records they reach come to the same
    pointers to member functions. -/
theorem meets_function_pointer_agrees (haccept : ∀ decl, genuine decl = true → accept decl = true)
    (type : Ty Decl)
    (honly : ∀ entry ∈ reached genuine follow type, accept entry.2 = true → genuine entry.2 = true) :
    meets_function_pointer accept follow type = meets_function_pointer genuine follow type := by
  cases type with
  | scalar => rfl
  | pointer => rfl
  | member_function_pointer => rfl
  | array count element =>
    rw [meets_function_pointer, meets_function_pointer, Bool.eq_iff_iff, List.any_eq_true, List.any_eq_true]
    refine exists_congr fun index => and_congr_right fun hindex => ?_
    cases hstep : follow (.element index) with
    | false => simp
    | true =>
      rw [meets_function_pointer_agrees haccept element]
      intro entry hentry
      apply honly (.element index :: entry.1, entry.2)
      rw [reached]
      exact List.mem_flatMap.mpr ⟨index, hindex, mem_below.mpr ⟨hstep, entry.1, rfl, hentry⟩⟩
  | record decl members =>
    rw [meets_function_pointer, meets_function_pointer]
    have hdecl : accept decl = genuine decl := by
      rw [Bool.eq_iff_iff]
      refine ⟨fun hdecl => ?_, haccept decl⟩
      exact honly ([], decl) (by rw [reached]; exact List.mem_cons_self) hdecl
    rw [hdecl]
    cases hgenuine : genuine decl with
    | true => rfl
    | false =>
      rw [meets_function_pointer_members_agrees haccept 0 members]
      intro entry hentry
      apply honly
      rw [reached, hgenuine, if_neg Bool.false_ne_true]
      exact List.mem_cons_of_mem _ hentry

theorem meets_function_pointer_members_agrees
    (haccept : ∀ decl, genuine decl = true → accept decl = true) (position : Nat) (members : Members Decl)
    (honly : ∀ entry ∈ reached_members genuine follow position members,
      accept entry.2 = true → genuine entry.2 = true) :
    meets_function_pointer_members accept follow position members =
      meets_function_pointer_members genuine follow position members := by
  cases members with
  | nil => rfl
  | cons kind type rest =>
    rw [reached_members] at honly
    rw [meets_function_pointer_members, meets_function_pointer_members,
      meets_function_pointer_members_agrees haccept (position + 1) rest
        fun entry hentry => honly entry (List.mem_append_right _ hentry)]
    congr 1
    cases hstep : follow (.member kind position) with
    | false => rfl
    | true =>
      rw [meets_function_pointer_agrees haccept type]
      intro entry hentry
      apply honly (.member kind position :: entry.1, entry.2)
      exact List.mem_append_left _ (mem_below.mpr ⟨hstep, entry.1, rfl, hentry⟩)

end

mutual

/-- A walk which reaches an accepted record that is not genuine finds one. -/
theorem walk_finds_other (type : Ty Decl) {entry : Path × Decl}
    (hentry : entry ∈ reached genuine follow type) (haccept : accept entry.2 = true)
    (hother : ¬ genuine entry.2 = true) :
    ∃ found ∈ walk accept follow type, ¬ genuine found.2 = true := by
  cases type with
  | scalar => simp [reached] at hentry
  | pointer => simp [reached] at hentry
  | member_function_pointer => simp [reached] at hentry
  | array count element =>
    rw [reached, List.mem_flatMap] at hentry
    obtain ⟨index, hindex, hbelow⟩ := hentry
    obtain ⟨hstep, rest, _, hinner⟩ := mem_below.mp hbelow
    obtain ⟨found, hfound, hbad⟩ := walk_finds_other element hinner haccept hother
    refine ⟨(.element index :: found.1, found.2), ?_, hbad⟩
    rw [walk]
    exact List.mem_flatMap.mpr ⟨index, hindex, mem_below.mpr ⟨hstep, found.1, rfl, hfound⟩⟩
  | record decl members =>
    rw [walk]
    by_cases hdecl : accept decl = true
    · -- The outermost accepted record hides the others.
      rw [if_pos hdecl]
      refine ⟨([], decl), List.mem_singleton_self _, fun hgenuine => ?_⟩
      rw [reached, if_pos hgenuine, List.mem_singleton] at hentry
      rw [hentry] at hother
      exact hother hgenuine
    · rw [if_neg hdecl]
      rw [reached] at hentry
      cases List.mem_cons.mp hentry with
      | inl hroot =>
        rw [hroot] at haccept
        exact absurd haccept hdecl
      | inr hinner =>
        split at hinner
        · cases hinner
        · exact walk_members_finds_other 0 members hinner haccept hother

theorem walk_members_finds_other (position : Nat) (members : Members Decl) {entry : Path × Decl}
    (hentry : entry ∈ reached_members genuine follow position members)
    (haccept : accept entry.2 = true) (hother : ¬ genuine entry.2 = true) :
    ∃ found ∈ walk_members accept follow position members, ¬ genuine found.2 = true := by
  cases members with
  | nil => simp [reached_members] at hentry
  | cons kind type rest =>
    rw [reached_members, List.mem_append] at hentry
    rw [walk_members]
    cases hentry with
    | inl hbelow =>
      obtain ⟨hstep, tail, _, hinner⟩ := mem_below.mp hbelow
      obtain ⟨found, hfound, hbad⟩ := walk_finds_other type hinner haccept hother
      exact ⟨(.member kind position :: found.1, found.2),
        List.mem_append_left _ (mem_below.mpr ⟨hstep, found.1, rfl, hfound⟩), hbad⟩
    | inr hrest =>
      obtain ⟨found, hfound, hbad⟩ := walk_members_finds_other (position + 1) rest hrest haccept hother
      exact ⟨found, List.mem_append_right _ hfound, hbad⟩

end

end subobject
