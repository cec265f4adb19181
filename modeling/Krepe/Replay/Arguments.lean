import Krepe.Common.Text

open std

namespace krepe

section

variable {P : Type}

/-- The passes of the loop which swaps `argv[i]` and `argv[i + n]`, from `i` on. -/
def remove_cli_args_loop (argv : Array P) (n i : Nat) : Nat → Array P
  | 0 => argv
  | count + 1 => remove_cli_args_loop (argv.swapIfInBounds i (i + n)) n (i + 1) count

/-- Shifts the arguments behind the removed ones down, and lowers `argc`. -/
def remove_cli_args (argc : Nat) (argv : Array P) (pos n : Nat) : Nat × Array P :=
  (argc - n, if pos + n < argc then remove_cli_args_loop argv n pos (argc - n - pos) else argv)

/-- The text after the first `=`. -/
def after_equal (text : String) : String :=
  String.ofList ((text.toList.dropWhile (· ≠ '=')).drop 1)

/-- The scan of the arguments from `i` on. `text` reads the C string of an
    argument, and no result stands for a view without data. -/
def find_flag_argument_loop (text : P → String) (flag : String) (argc : Nat) (argv : Array P) (i : Nat) :
    Nat → Option String × Nat × Array P
  | 0 => (none, argc, argv)
  | count + 1 =>
    match argv[i]? with
    | none => (none, argc, argv)
    | some arg =>
      let current_arg := text arg
      if current_arg.length > flag.length ∧ starts_with current_arg flag ∧
          current_arg.toList[flag.length]? = some '=' then
        (some (after_equal current_arg), remove_cli_args argc argv i 1)
      else if current_arg = flag then
        if i + 1 = argc then (none, argc, argv)
        else (argv[i + 1]?.map text, remove_cli_args argc argv i 2)
      else find_flag_argument_loop text flag argc argv (i + 1) count

/-- Looks for the flag from the second argument on, and takes it out together with its value. -/
def find_flag_argument (text : P → String) (argc : Nat) (argv : Array P) (flag : String) :
    Option String × Nat × Array P :=
  find_flag_argument_loop text flag argc argv 1 (argc - 1)

/-- The swaps move a block of arguments behind the later ones. -/
theorem getElem?_remove_cli_args_loop {n : Nat} (hn : 0 < n) {argv : Array P} {i count : Nat}
    (hsize : i + count + n ≤ argv.size) (index : Nat) :
    (index < i → (remove_cli_args_loop argv n i count)[index]? = argv[index]?) ∧
      (i ≤ index → index < i + count →
        (remove_cli_args_loop argv n i count)[index]? = argv[index + n]?) ∧
      (i + count + n ≤ index → (remove_cli_args_loop argv n i count)[index]? = argv[index]?) := by
  induction count generalizing i argv with
  | zero => exact ⟨fun _ => rfl, fun _ _ => by omega, fun _ => rfl⟩
  | succ count ih =>
    have hswapped : ∀ index, (argv.swapIfInBounds i (i + n))[index]? =
        if index = i then argv[i + n]? else if index = i + n then argv[i]? else argv[index]? := by
      intro index
      rw [Array.swapIfInBounds, dif_pos (by omega), dif_pos (by omega), Array.getElem?_swap]
      grind
    obtain ⟨hbelow, hmoved, habove⟩ :=
      @ih (argv.swapIfInBounds i (i + n)) (i + 1) (by simp only [Array.size_swapIfInBounds]; omega)
    rw [remove_cli_args_loop]
    refine ⟨fun hlt => ?_, fun hle hlt => ?_, fun hle => ?_⟩
    · rw [hbelow (by omega), hswapped, if_neg (by omega), if_neg (by omega)]
    · rcases Nat.lt_or_ge index (i + 1) with hfirst | hlater
      · obtain rfl : index = i := by omega
        rw [hbelow hfirst, hswapped, if_pos rfl]
      · rw [hmoved hlater (by omega), hswapped, if_neg (by omega), if_neg (by omega)]
    · rw [habove (by omega), hswapped, if_neg (by omega), if_neg (by omega)]

/-- The loop only exchanges arguments. -/
theorem remove_cli_args_loop_perm (argv : Array P) (n i count : Nat) :
    (remove_cli_args_loop argv n i count).Perm argv := by
  induction count generalizing i argv with
  | zero => exact Array.Perm.refl _
  | succ count ih =>
    refine (ih _ _).trans ?_
    unfold Array.swapIfInBounds
    split
    · split
      · exact Array.swap_perm _ _
      · exact Array.Perm.refl _
    · exact Array.Perm.refl _

/-- Removing `n` arguments from `pos` on keeps the order of the others, and
    puts the removed ones behind them. -/
theorem remove_cli_args_take {argc pos n : Nat} (hn : 0 < n) {argv : Array P} (hsize : argc ≤ argv.size)
    (hpos : pos + n ≤ argc) :
    (remove_cli_args argc argv pos n).2.toList.take (argc - n) =
      argv.toList.take pos ++ (argv.toList.take argc).drop (pos + n) := by
  have hlength : (argv.toList.take pos).length = pos := by simp; omega
  refine List.ext_getElem? fun index => ?_
  simp only [remove_cli_args]
  split
  · next hlast =>
    obtain ⟨hbelow, hmoved, _⟩ := 
      @getElem?_remove_cli_args_loop P n hn argv pos (argc - n - pos) (by omega) index
    simp only [List.getElem?_take, Array.getElem?_toList, List.getElem?_append, hlength,
      List.getElem?_drop]
    grind
  · simp only [List.getElem?_take, List.getElem?_append, hlength, List.getElem?_drop]
    grind

/-- What lies behind the arguments stays. -/
theorem remove_cli_args_drop {argc pos n : Nat} (hn : 0 < n) {argv : Array P} (hsize : argc ≤ argv.size) :
    (remove_cli_args argc argv pos n).2.toList.drop argc = argv.toList.drop argc := by
  refine List.ext_getElem? fun index => ?_
  simp only [remove_cli_args]
  split
  · obtain ⟨_, _, habove⟩ := 
      @getElem?_remove_cli_args_loop P n hn argv pos (argc - n - pos) (by omega) (argc + index)
    simp only [List.getElem?_drop, Array.getElem?_toList]
    exact habove (by omega)
  · rfl

/-- The removal of arguments permutes them. -/
theorem remove_cli_args_perm (argc : Nat) (argv : Array P) (pos n : Nat) :
    (remove_cli_args argc argv pos n).2.Perm argv := by
  simp only [remove_cli_args]
  split
  · exact remove_cli_args_loop_perm _ _ _ _
  · exact Array.Perm.refl _

/-- An argument which is the flag, alone or with its value after a `=`. -/
def Names (flag arg : String) : Prop := arg = flag ∨ ∃ value, arg = flag ++ "=" ++ value

/-- What the first argument that names the flag contributes: its value, and the
    arguments left without the ones used up. -/
inductive Extracts (text : P → String) (flag : String) : List P → Option String → List P → Prop
  | absent {arguments} (hbefore : ∀ arg ∈ arguments, ¬ Names flag (text arg)) :
      Extracts text flag arguments none arguments
  | joined {before arg after value} (hbefore : ∀ arg ∈ before, ¬ Names flag (text arg))
      (harg : text arg = flag ++ "=" ++ value) :
      Extracts text flag (before ++ arg :: after) (some value) (before ++ after)
  | separate {before arg value after} (hbefore : ∀ arg ∈ before, ¬ Names flag (text arg))
      (harg : text arg = flag) :
      Extracts text flag (before ++ arg :: value :: after) (some (text value)) (before ++ after)
  -- a flag without a value is not used up
  | last {before arg} (hbefore : ∀ arg ∈ before, ¬ Names flag (text arg)) (harg : text arg = flag) :
      Extracts text flag (before ++ [arg]) none (before ++ [arg])

/-- An argument which is not the flag stays in front of the others. -/
theorem Extracts.cons {text : P → String} {flag : String} {arg : P} (hnot : ¬ Names flag (text arg))
    {arguments remaining : List P} {value : Option String}
    (hextracts : Extracts text flag arguments value remaining) :
    Extracts text flag (arg :: arguments) value (arg :: remaining) := by
  have hcons : ∀ {before : List P}, (∀ other ∈ before, ¬ Names flag (text other)) →
      ∀ other ∈ arg :: before, ¬ Names flag (text other) := by
    intro before hbefore other hother
    rcases List.mem_cons.mp hother with rfl | hother
    · exact hnot
    · exact hbefore other hother
  cases hextracts with
  | absent hbefore => exact .absent (hcons hbefore)
  | joined hbefore harg => exact .joined (hcons hbefore) harg
  | separate hbefore harg => exact .separate (hcons hbefore) harg
  | last hbefore harg => exact .last (hcons hbefore) harg

/-- An argument has the joined form if it is the flag, an equals sign and a value. -/
theorem joined_iff {flag arg : String} :
    (arg.length > flag.length ∧ starts_with arg flag ∧ arg.toList[flag.length]? = some '=') ↔
      ∃ value, arg = flag ++ "=" ++ value := by
  constructor
  · rintro ⟨-, hstarts, hequal⟩
    obtain ⟨rest, hrest⟩ := List.isPrefixOf_iff_prefix.mp hstarts
    rw [← hrest, ← String.length_toList, List.getElem?_append_right (le_refl _), Nat.sub_self] at hequal
    obtain ⟨value, rfl⟩ : ∃ value, rest = '=' :: value := by
      cases rest with
      | nil => cases hequal
      | cons first value =>
        cases hequal
        exact ⟨value, rfl⟩
    refine ⟨String.ofList value, String.toList_inj.mp ?_⟩
    simp [← hrest]
  · rintro ⟨value, rfl⟩
    have hequal : "=".length = 1 := rfl
    refine ⟨by simp only [String.length_append]; omega, List.isPrefixOf_iff_prefix.mpr ?_, ?_⟩
    · simp [String.toList_append]
    · rw [← String.length_toList]
      simp [String.toList_append]

/-- A flag without `=` ends at the first one. -/
theorem after_equal_joined {flag : String} (hflag : '=' ∉ flag.toList) (value : String) :
    after_equal (flag ++ "=" ++ value) = value := by
  have hskip : (flag.toList ++ '=' :: value.toList).dropWhile (· ≠ '=') = '=' :: value.toList := by
    rw [List.dropWhile_append_of_pos fun c hc => by simpa using fun heq : c = '=' => hflag (heq ▸ hc)]
    simp
  simp only [after_equal, String.toList_append]
  simpa using congrArg (fun chars => String.ofList (chars.drop 1)) hskip

/-- The outcome of a search among the arguments from position `i` on. -/
structure FlagFound (text : P → String) (flag : String) (argc : Nat) (argv : Array P) (i : Nat)
    (found : Option String × Nat × Array P) : Prop where
  extracts : ∃ remaining, Extracts text flag ((argv.toList.take argc).drop i) found.1 remaining ∧
    found.2.2.toList.take found.2.1 = argv.toList.take i ++ remaining ∧
    found.2.1 = i + remaining.length
  beyond : found.2.2.toList.drop argc = argv.toList.drop argc
  permutation : found.2.2.Perm argv
  untouched : found.1 = none → found.2 = (argc, argv)

section

variable {text : P → String} {flag : String} {argc : Nat} {argv : Array P} {i : Nat}

/-- Nothing changes when no value is found. -/
private theorem FlagFound.of_none (hi : i ≤ argc) (hsize : argc ≤ argv.size)
    (hextracts : Extracts text flag ((argv.toList.take argc).drop i) none ((argv.toList.take argc).drop i)) :
    FlagFound text flag argc argv i (none, argc, argv) where
  extracts := by
    refine ⟨_, hextracts, ?_, ?_⟩
    · conv_lhs => rw [← List.take_append_drop i (argv.toList.take argc)]
      rw [List.take_take, Nat.min_eq_left hi]
    · simp only [List.length_drop, List.length_take, Array.length_toList]
      omega
  beyond := rfl
  permutation := Array.Perm.refl _
  untouched := fun _ => rfl

/-- The `n` arguments from `i` on are used up for a value. -/
private theorem FlagFound.of_removed {n : Nat} (hn : 0 < n) (hi : i + n ≤ argc) (hsize : argc ≤ argv.size)
    {value : String} (hextracts : Extracts text flag ((argv.toList.take argc).drop i) (some value)
      ((argv.toList.take argc).drop (i + n))) :
    FlagFound text flag argc argv i (some value, remove_cli_args argc argv i n) where
  extracts := by
    refine ⟨_, hextracts, remove_cli_args_take hn hsize hi, ?_⟩
    simp only [remove_cli_args, List.length_drop, List.length_take, Array.length_toList]
    omega
  beyond := remove_cli_args_drop hn hsize
  permutation := remove_cli_args_perm _ _ _ _
  untouched := by simp

/-- An argument which does not name the flag is passed over. -/
private theorem FlagFound.skip {found : Option String × Nat × Array P}
    (hfound : FlagFound text flag argc argv (i + 1) found) (hi : i < argc) (hsize : argc ≤ argv.size)
    (hnot : ¬ Names flag (text argv[i])) : FlagFound text flag argc argv i found where
  extracts := by
    obtain ⟨remaining, hextracts, hkept, hlength⟩ := hfound.extracts
    have hhead : (argv.toList.take argc).drop i = argv[i] :: (argv.toList.take argc).drop (i + 1) := by
      rw [List.drop_eq_getElem_cons (by simp; omega)]
      simp
    refine ⟨argv[i] :: remaining, hhead ▸ hextracts.cons hnot, ?_, ?_⟩
    · rw [hkept, List.take_succ_eq_append_getElem (by simp; omega)]
      simp
    · rw [hlength, List.length_cons]
      omega
  beyond := hfound.beyond
  permutation := hfound.permutation
  untouched := hfound.untouched

/-- The scan from `i` on finds the first argument which names the flag. -/
theorem find_flag_argument_loop_found (hflag : '=' ∉ flag.toList) (hsize : argc ≤ argv.size) {count : Nat}
    (hcount : i + count = argc) :
    FlagFound text flag argc argv i (find_flag_argument_loop text flag argc argv i count) := by
  induction count generalizing i with
  | zero =>
    have hnone : (argv.toList.take argc).drop i = [] := by simp; omega
    exact .of_none (by omega) hsize (hnone ▸ Extracts.absent (by simp))
  | succ count ih =>
    have hi : i < argv.size := by omega
    have hhead : (argv.toList.take argc).drop i = argv[i] :: (argv.toList.take argc).drop (i + 1) := by
      rw [List.drop_eq_getElem_cons (by simp; omega)]
      simp
    simp only [find_flag_argument_loop, Array.getElem?_eq_getElem hi]
    split
    · next hjoined =>
      obtain ⟨value, hvalue⟩ := joined_iff.mp hjoined
      rw [hvalue, after_equal_joined hflag]
      refine .of_removed (by omega) (by omega) hsize ?_
      rw [hhead]
      exact @Extracts.joined P text flag [] _ _ value (by simp) hvalue
    · next hjoined =>
      split
      · next hequal =>
        split
        · next hlast =>
          have hnone : (argv.toList.take argc).drop (i + 1) = [] := by simp; omega
          refine .of_none (by omega) hsize ?_
          rw [hhead, hnone]
          exact @Extracts.last P text flag [] _ (by simp) hequal
        · next hlast =>
          have hnext : i + 1 < argv.size := by omega
          have hvalue : (argv.toList.take argc).drop (i + 1) =
              argv[i + 1] :: (argv.toList.take argc).drop (i + 2) := by
            rw [List.drop_eq_getElem_cons (by simp; omega)]
            simp
          rw [Array.getElem?_eq_getElem hnext, Option.map_some]
          refine .of_removed (by omega) (by omega) hsize ?_
          rw [hhead, hvalue]
          exact @Extracts.separate P text flag [] _ _ _ (by simp) hequal
      · next hequal =>
        have hnot : ¬ Names flag (text argv[i]) := by
          rintro (heq | hvalue)
          · exact hequal heq
          · exact hjoined (joined_iff.mpr hvalue)
        exact (ih (by omega)).skip (by omega) hsize hnot

/-- An argument which the flag is only a part of, with other text than a value
    after it. -/
def OnlyStarts (flag arg : String) : Prop :=
  starts_with arg flag ∧ arg ≠ flag ∧ arg.toList[flag.length]? ≠ some '='

theorem OnlyStarts.not_names {arg : String} (honly : OnlyStarts flag arg) : ¬ Names flag arg := by
  rintro (heq | hvalue)
  · exact honly.2.1 heq
  · exact honly.2.2 (joined_iff.mpr hvalue).2.2

/-- Only the value after a separate flag is used up without naming the flag. -/
theorem Extracts.kept_or_value {arguments remaining : List P} {value : Option String}
    (hextracts : Extracts text flag arguments value remaining) {arg : P} (harg : arg ∈ arguments)
    (hnot : ¬ Names flag (text arg)) :
    arg ∈ remaining ∨ ∃ before named after, arguments = before ++ named :: arg :: after ∧
      text named = flag ∧ remaining = before ++ after ∧ value = some (text arg) := by
  cases hextracts with
  | absent => exact .inl harg
  | @joined before named after value _ hnamed =>
    simp only [List.mem_append, List.mem_cons] at harg ⊢
    rcases harg with hbefore | rfl | hafter
    · exact .inl (.inl hbefore)
    · exact absurd (.inr ⟨value, hnamed⟩) hnot
    · exact .inl (.inr hafter)
  | @separate before named next after _ hnamed =>
    simp only [List.mem_append, List.mem_cons] at harg
    rcases harg with hbefore | rfl | rfl | hafter
    · exact .inl (List.mem_append_left _ hbefore)
    · exact absurd (.inl hnamed) hnot
    · exact .inr ⟨before, named, after, rfl, hnamed, rfl, rfl⟩
    · exact .inl (List.mem_append_right _ hafter)
  | last => exact .inl harg

/-- For a flag without an equals sign and any arguments: the search takes the first argument
    after the name of the program which is the flag, with its value in either form, out of the
    arguments and keeps the order of the others; without such an argument nothing changes. An
    argument which only starts like the flag is kept, unless it is the value of the flag. -/
theorem find_flag_argument_found (hflag : '=' ∉ flag.toList) (hargc : 1 ≤ argc) (hsize : argc ≤ argv.size) :
    FlagFound text flag argc argv 1 (find_flag_argument text argc argv flag) ∧
      ∀ arg ∈ (argv.toList.take argc).drop 1, OnlyStarts flag (text arg) →
        arg ∈ (find_flag_argument text argc argv flag).2.2.toList.take
          (find_flag_argument text argc argv flag).2.1 ∨
        ∃ before named after, (argv.toList.take argc).drop 1 = before ++ named :: arg :: after ∧
          text named = flag ∧ (find_flag_argument text argc argv flag).1 = some (text arg) := by
  have hfound : FlagFound text flag argc argv 1 (find_flag_argument text argc argv flag) :=
    find_flag_argument_loop_found hflag hsize (by omega)
  refine ⟨hfound, fun arg harg honly => ?_⟩
  obtain ⟨remaining, hextracts, hkept, -⟩ := hfound.extracts
  rcases hextracts.kept_or_value harg honly.not_names with hmem | ⟨before, named, after, hsplit, hnamed, -, hvalue⟩
  · exact .inl (hkept ▸ List.mem_append_right _ hmem)
  · exact .inr ⟨before, named, after, hsplit, hnamed, hvalue⟩

/-- The flag of the replayer, after an argument which only starts like it. -/
theorem find_flag_argument_found_example :
    FlagFound id "--kernel-replayer-dump" 5
        #["app", "--kernel-replayer-dumps", "--kernel-replayer-dump", "dump.h5", "--help"] 1
        (find_flag_argument id 5
          #["app", "--kernel-replayer-dumps", "--kernel-replayer-dump", "dump.h5", "--help"]
          "--kernel-replayer-dump") :=
  (find_flag_argument_found (by simp) (by simp) (by simp)).1

end

end

end krepe
