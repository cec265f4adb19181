import Krepe.Capture.ViewDump.Prefix

open std hdf5

namespace krepe

/-- A name of one entry of a directory or group, other than the names of the
    directory itself and of its parent. -/
structure DirectEntry (name : String) : Prop where
  nonempty : name ≠ ""
  chars : ∀ c ∈ name.toList, c.isAlphanum ∨ c = '_' ∨ c = '-' ∨ c = '.'
  separator : '/' ∉ name.toList
  terminator : '\x00' ∉ name.toList
  not_self : name ≠ "."
  not_parent : name ≠ ".."

theorem is_name_char_iff {c : Char} :
    is_name_char c = true ↔ c.isAlphanum = true ∨ c = '_' ∨ c = '-' ∨ c = '.' := by
  simp [is_name_char, or_assoc]

/-- A sanitized name has safe characters only. -/
theorem sanitize_name_chars (value : String) :
    ∀ c ∈ (sanitize_name value).toList, is_name_char c = true := by
  have hreplaced : ∀ c ∈ value.toList.map fun c => if is_name_char c then c else '_',
      is_name_char c = true := by
    intro c hc
    obtain ⟨original, _, rfl⟩ := List.mem_map.mp hc
    split
    · next hname => exact hname
    · rfl
  intro c hc
  simp only [sanitize_name] at hc
  split at hc
  · have hunnamed : "unnamed".toList.all is_name_char = true := rfl
    exact List.all_eq_true.mp hunnamed c hc
  · rw [String.toList_ofList] at hc
    exact hreplaced c (List.mem_of_mem_take hc)

theorem to_string_isDigit (value : Nat) : ∀ c ∈ (to_string value).toList, c.isDigit = true := by
  intro c hc
  rw [to_string, Nat.toString_eq_ofList_toDigits, String.toList_ofList] at hc
  exact Nat.isDigit_of_mem_toDigits (by omega) (by omega) hc

/-- Numbers have safe characters only. -/
theorem to_string_chars (value : Nat) : ∀ c ∈ (to_string value).toList, is_name_char c = true := by
  intro c hc
  simp [is_name_char, Char.isAlphanum, to_string_isDigit value c hc]

/-- Text which starts with a letter and has no other characters than those of
    generated names. -/
theorem direct_entry_of_letter {first : Char} {rest : List Char} (hfirst : first.isAlpha = true)
    (hrest : ∀ c ∈ rest, is_name_char c = true) : DirectEntry (String.ofList (first :: rest)) := by
  have hnotDot : first ≠ '.' := by
    rintro rfl
    cases hfirst
  have hchars : ∀ c ∈ (String.ofList (first :: rest)).toList, c.isAlphanum ∨ c = '_' ∨ c = '-' ∨ c = '.' := by
    intro c hc
    rw [String.toList_ofList] at hc
    rcases List.mem_cons.mp hc with rfl | hc
    · simp [Char.isAlphanum, hfirst]
    · exact is_name_char_iff.mp (hrest c hc)
  refine { nonempty := by simp, chars := hchars, separator := fun hmem => ?_, terminator := fun hmem => ?_,
           not_self := ?_, not_parent := ?_ }
  · simpa using hchars _ hmem
  · simpa using hchars _ hmem
  · intro heq
    have hchars := congrArg String.toList heq
    simp [hnotDot] at hchars
  · intro heq
    have hchars := congrArg String.toList heq
    simp [hnotDot] at hchars

private theorem fixed_chars :
    (∀ c ∈ "repe_".toList, is_name_char c = true) ∧ (∀ c ∈ "iew_".toList, is_name_char c = true) ∧
      (∀ c ∈ "_".toList, is_name_char c = true) ∧ ∀ c ∈ ".h5".toList, is_name_char c = true :=
  ⟨List.all_eq_true.mp rfl, List.all_eq_true.mp rfl, List.all_eq_true.mp rfl, List.all_eq_true.mp rfl⟩

/-- No label leads a dump out of its directory. -/
theorem dump_filename_direct (label : String) (kernel_id : Nat) :
    DirectEntry (dump_filename label kernel_id) := by
  have hname : dump_filename label kernel_id = String.ofList ('k' :: ("repe_".toList ++
      (sanitize_name label).toList ++ "_".toList ++ (to_string kernel_id).toList ++ ".h5".toList)) := by
    refine String.toList_inj.mp ?_
    simp [dump_filename]
  obtain ⟨hstart, _, hunderscore, hsuffix⟩ := fixed_chars
  rw [hname]
  refine direct_entry_of_letter (by simp) fun c hc => ?_
  simp only [List.mem_append] at hc
  rcases hc with (((hc | hc) | hc) | hc) | hc
  · exact hstart c hc
  · exact sanitize_name_chars label c hc
  · exact hunderscore c hc
  · exact to_string_chars kernel_id c hc
  · exact hsuffix c hc

/-- No label leads the group of an allocation out of its group. -/
theorem view_name_direct (allocation : ActiveAllocation) (index : Nat) :
    DirectEntry (view_name allocation index) := by
  have hname : view_name allocation index = String.ofList ('v' :: ("iew_".toList ++
      (to_string index).toList ++ "_".toList ++ (sanitize_name allocation.record.label).toList)) := by
    refine String.toList_inj.mp ?_
    simp [view_name]
  obtain ⟨_, hstart, hunderscore, _⟩ := fixed_chars
  rw [hname]
  refine direct_entry_of_letter (by simp) fun c hc => ?_
  simp only [List.mem_append] at hc
  rcases hc with ((hc | hc) | hc) | hc
  · exact hstart c hc
  · exact to_string_chars index c hc
  · exact hunderscore c hc
  · exact sanitize_name_chars allocation.record.label c hc

/-- The id of a kernel stands between the last underscore of the name, which no
    digit is, and the suffix. -/
theorem dump_filename_kernel_id {left right : String} {i j : Nat}
    (heq : dump_filename left i = dump_filename right j) : i = j := by
  have hparsed : ∀ label (kernel_id : Nat),
      (((dump_filename label kernel_id).toList.reverse.drop 3).takeWhile Char.isDigit).reverse =
        (to_string kernel_id).toList := by
    intro label kernel_id
    have hdigits : ∀ c ∈ (to_string kernel_id).toList.reverse, c.isDigit = true :=
      fun c hc => to_string_isDigit kernel_id c (List.mem_reverse.mp hc)
    have htext : (dump_filename label kernel_id).toList.reverse.drop 3 =
        (to_string kernel_id).toList.reverse ++ '_' :: ("krepe_" ++ sanitize_name label).toList.reverse := by
      simp [dump_filename]
    rw [htext, List.takeWhile_append_of_pos hdigits, List.takeWhile_cons_of_neg (by simp), List.append_nil,
      List.reverse_reverse]
  have hdigits := hparsed left i
  rw [heq, hparsed right j] at hdigits
  exact to_string_injective (String.toList_inj.mp hdigits).symm

theorem mem_view_names {allocations : List ActiveAllocation} {index : Nat} {name : String}
    (hname : name ∈ view_names allocations index) :
    ∃ allocation, ∃ i, index ≤ i ∧ name = view_name allocation i := by
  induction allocations generalizing index with
  | nil => cases hname
  | cons allocation rest ih =>
    rcases List.mem_cons.mp hname with rfl | hname
    · exact ⟨allocation, index, le_refl _, rfl⟩
    · obtain ⟨other, i, hle, hother⟩ := ih hname
      exact ⟨other, i, by omega, hother⟩

/-- The groups of a snapshot have different names, since their indices differ. -/
theorem view_names_nodup (allocations : List ActiveAllocation) (index : Nat) :
    (view_names allocations index).Nodup := by
  induction allocations generalizing index with
  | nil => exact List.nodup_nil
  | cons allocation rest ih =>
    refine List.nodup_cons.mpr ⟨fun hmem => ?_, ih (index + 1)⟩
    obtain ⟨other, i, hle, heq⟩ := mem_view_names hmem
    have hindex := view_name_index heq
    omega

theorem view_names_length (allocations : List ActiveAllocation) (index : Nat) :
    (view_names allocations index).length = allocations.length := by
  induction allocations generalizing index with
  | nil => rfl
  | cons allocation rest ih => rw [view_names, List.length_cons, ih, List.length_cons]

/-- The names of the groups which some calls create in a group. -/
def created_groups (loc : Path) (calls : List Call) : List String :=
  calls.filterMap fun
    | .H5Gcreate2 parent name => if parent = loc then some name else none
    | _ => none

/-- These are among the calls which the links of the group depend on. -/
theorem created_groups_filter (loc : Path) (calls : List Call) :
    created_groups loc (calls.filter (links_relevant loc)) = created_groups loc calls := by
  rw [created_groups, List.filterMap_filter]
  refine List.filterMap_congr fun call _ => ?_
  cases call with
  | H5Gcreate2 parent name => by_cases hparent : parent = loc <;> simp [links_relevant, hparent]
  | _ => simp

/-- The groups which the writing of a snapshot creates are those of its allocations, in their
    order. -/
theorem created_groups_write_snapshot (machine : CaptureMachine) (name : String)
    (snapshot : AllocationSnapshot) :
    created_groups [name, "views"] (write_snapshot machine name snapshot) =
      view_names snapshot.allocations 0 := by
  rw [← created_groups_filter, filter_links_write_snapshot]
  simp [created_groups, List.filterMap_map]

/-- For all labels: dumps of different kernels have different names, the groups of a snapshot
    have different names, one for each allocation in the order of the snapshot, and each name is
    that of a direct entry of its directory or group. -/
theorem generated_names :
    (∀ left i right j, dump_filename left i = dump_filename right j → i = j) ∧
      (∀ label kernel_id, DirectEntry (dump_filename label kernel_id)) ∧
      ∀ machine name snapshot,
        let names := created_groups [name, "views"] (write_snapshot machine name snapshot)
        names.length = snapshot.allocations.length ∧ names.Nodup ∧ ∀ name ∈ names, DirectEntry name := by
  refine ⟨fun _ _ _ _ => dump_filename_kernel_id, dump_filename_direct, fun machine name snapshot => ?_⟩
  simp only [created_groups_write_snapshot]
  refine ⟨view_names_length _ _, view_names_nodup _ _, fun child hchild => ?_⟩
  obtain ⟨allocation, index, _, rfl⟩ := mem_view_names hchild
  exact view_name_direct allocation index

end krepe
