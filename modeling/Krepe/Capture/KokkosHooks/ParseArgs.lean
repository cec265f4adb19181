import Krepe.Capture.KokkosHooks.CaptureOnce

open std transition

namespace std

/-- `std::errc`, as far as `std::from_chars` returns it. -/
inductive Errc where
  | invalid_argument
  | result_out_of_range
  deriving DecidableEq, Repr

/-- `std::from_chars_result`: `ptr` is the text from there on. -/
structure FromCharsResult where
  ec : Option Errc
  ptr : List Char
  deriving DecidableEq, Repr

/-- `std::from_chars` for a `std::uint64_t`, which takes neither blanks nor a sign. -/
def from_chars (text : List Char) (value : Nat) : FromCharsResult × Nat :=
  let digits := text.takeWhile Char.isDigit
  let rest := text.drop digits.length
  let number := Nat.ofDigitChars 10 digits 0
  if digits = [] then (⟨some .invalid_argument, text⟩, value)
  else if 2 ^ 64 ≤ number then (⟨some .result_out_of_range, rest⟩, value)
  else (⟨none, rest⟩, number)

/-- A decimal numeral, which may start with zeros. -/
structure Denotes (text : String) (number : Nat) : Prop where
  nonempty : text ≠ ""
  digits : ∀ c ∈ text.toList, c.isDigit = true
  value : Nat.ofDigitChars 10 text.toList 0 = number

/-- All of a text is taken for a number when it is a numeral of one. -/
theorem from_chars_all {text : String} {value number : Nat} :
    from_chars text.toList value = (⟨none, []⟩, number) ↔ Denotes text number ∧ number < 2 ^ 64 := by
  have htake := List.takeWhile_append_dropWhile (p := Char.isDigit) (l := text.toList)
  have hrest : text.toList.drop (text.toList.takeWhile Char.isDigit).length = [] ↔
      text.toList.takeWhile Char.isDigit = text.toList := by
    rw [List.drop_eq_nil_iff]
    constructor
    · intro hlength
      have hlengths := congrArg List.length htake
      rw [List.length_append] at hlengths
      have hdrop : text.toList.dropWhile Char.isDigit = [] := List.length_eq_zero_iff.mp (by omega)
      rw [hdrop, List.append_nil] at htake
      exact htake
    · intro hall
      rw [hall]
  have hall : text.toList.takeWhile Char.isDigit = text.toList ↔ ∀ c ∈ text.toList, c.isDigit = true :=
    List.takeWhile_eq_self_iff
  have hempty : text.toList = [] ↔ text = "" := String.toList_eq_nil_iff
  unfold from_chars
  dsimp only
  constructor
  · intro hparsed
    split at hparsed
    · cases hparsed
    · next hsome =>
      split at hparsed
      · cases hparsed
      · next hfits =>
        simp only [Prod.mk.injEq, FromCharsResult.mk.injEq, true_and] at hparsed
        obtain ⟨hdrop, rfl⟩ := hparsed
        have hdigits := hrest.mp hdrop
        rw [hdigits] at hsome hfits ⊢
        exact ⟨⟨fun htext => hsome (hempty.mpr htext), hall.mp hdigits, rfl⟩, Nat.not_le.mp hfits⟩
  · rintro ⟨⟨hnonempty, hdigits, rfl⟩, hfits⟩
    rw [hall.mpr hdigits, if_neg (fun htext => hnonempty (hempty.mp htext)), if_neg (Nat.not_le.mpr hfits),
      List.drop_length]

end std

namespace krepe

/-- The option which selects the kernels of a label. -/
def dump_kernel_label_option : String := "--krepe-dump-kernel-label="

/-- The option which selects an invocation of the label. -/
def dump_kernel_invocation_option : String := "--krepe-dump-kernel-invocation="

/-- The whole text has to be the digits of a number that fits 64 bits and is not zero. -/
def parse_positive_uint64 (value : String) : Option Nat :=
  let (result, parsed) := from_chars value.toList 0
  if result.ec ≠ none ∨ result.ptr ≠ [] ∨ parsed = 0 then none else some parsed

/-- `argument.substr(n)`. -/
def substr_from (argument : String) (n : Nat) : String := String.ofList (argument.toList.drop n)

/-- One turn of the loop of `kokkosp_parse_args`. What it logs is left out. -/
def parse_argument (selection : DumpSelection) (argv : CString) : DumpSelection :=
  let argument := argv.getD ""
  if starts_with argument dump_kernel_label_option then
    { selection with dump_kernel_label := substr_from argument dump_kernel_label_option.length }
  else if starts_with argument dump_kernel_invocation_option then
    { selection with dump_kernel_invocation :=
        parse_positive_uint64 (substr_from argument dump_kernel_invocation_option.length) }
  else selection

/-- The arguments are taken in their order, so that the last of two options counts. -/
def kokkosp_parse_args (argv : List CString) (selection : DumpSelection) : DumpSelection :=
  argv.foldl parse_argument selection

/-- The selection before any argument: no label, and the first invocation. -/
def DumpSelection.initial : DumpSelection := ⟨"", some 1⟩

/-- The value of an option: the last argument which gives it decides. -/
def LastOption (option : String) (argv : List CString) (value : String) : Prop :=
  ∃ before after, argv = before ++ some (option ++ value) :: after ∧
    ∀ argument ∈ after, ∀ other, argument ≠ some (option ++ other)

/-- No argument starts with the option. -/
def NoOption (option : String) (argv : List CString) : Prop :=
  ∀ argument ∈ argv, ∀ value, argument ≠ some (option ++ value)

/-- The arguments ask for the dump of this invocation of the kernel. -/
def Asked (argv : List CString) (label : String) (invocation : Nat) : Prop :=
  label ≠ "" ∧ LastOption dump_kernel_label_option argv label ∧
    ((NoOption dump_kernel_invocation_option argv ∧ invocation = 1) ∨
      ∃ value, LastOption dump_kernel_invocation_option argv value ∧ Denotes value invocation ∧
        0 < invocation ∧ invocation < 2 ^ 64)

/-- A value is parsed as a number if its digits denote it, and it is positive and below `2^64`. -/
theorem parse_positive_uint64_eq_some {value : String} {number : Nat} :
    parse_positive_uint64 value = some number ↔ Denotes value number ∧ 0 < number ∧ number < 2 ^ 64 := by
  have hall := @from_chars_all value 0 number
  unfold parse_positive_uint64
  generalize from_chars value.toList 0 = parsed at hall ⊢
  obtain ⟨⟨ec, ptr⟩, found⟩ := parsed
  simp only [Prod.mk.injEq, FromCharsResult.mk.injEq] at hall
  dsimp only
  rw [Option.ite_none_left_eq_some, Option.some.injEq, not_or, not_or, not_ne_iff, not_ne_iff]
  constructor
  · rintro ⟨⟨hec, hptr, hpositive⟩, rfl⟩
    obtain ⟨hdenotes, hfits⟩ := hall.mp ⟨⟨hec, hptr⟩, rfl⟩
    exact ⟨hdenotes, Nat.pos_of_ne_zero hpositive, hfits⟩
  · rintro ⟨hdenotes, hpositive, hfits⟩
    obtain ⟨⟨hec, hptr⟩, rfl⟩ := hall.mpr ⟨hdenotes, hfits⟩
    exact ⟨⟨hec, hptr, hpositive.ne'⟩, rfl⟩

theorem starts_with_iff {text start : String} : starts_with text start = true ↔ ∃ value, text = start ++ value := by
  rw [starts_with, List.isPrefixOf_iff_prefix]
  constructor
  · rintro ⟨rest, hrest⟩
    exact ⟨String.ofList rest, String.toList_inj.mp (by simp [← hrest])⟩
  · rintro ⟨value, rfl⟩
    exact ⟨value.toList, by simp⟩

theorem substr_from_option (option value : String) : substr_from (option ++ value) option.length = value := by
  simp [substr_from, String.toList_append, ← String.length_toList]

/-- An argument gives one option at most. -/
theorem options_apart (value other : String) :
    dump_kernel_label_option ++ value ≠ dump_kernel_invocation_option ++ other := by
  intro hsame
  have hchars := congrArg (fun text => (text.toList.drop 20).head?) hsame
  simp [dump_kernel_label_option, dump_kernel_invocation_option, String.toList_append] at hchars

/-- The last argument has the option, or it has not and one before is the last with the option. -/
theorem last_option_concat {option : String} {argv : List CString} {argument : CString} {value : String} :
    LastOption option (argv ++ [argument]) value ↔ argument = some (option ++ value) ∨
      (∀ other, argument ≠ some (option ++ other)) ∧ LastOption option argv value := by
  constructor
  · rintro ⟨before, after, hsplit, hlast⟩
    cases after using List.reverseRecOn with
    | nil => exact Or.inl (List.append_inj_right' hsplit rfl |> List.singleton_inj.mp)
    | append_singleton after other =>
      rw [← List.cons_append, ← List.append_assoc] at hsplit
      obtain ⟨hargv, hargument⟩ := List.append_inj' hsplit rfl
      have hsame := List.singleton_inj.mp hargument
      exact Or.inr ⟨hsame ▸ hlast other (by simp),
        before, after, hargv, fun argument hargument => hlast argument (List.mem_append_left _ hargument)⟩
  · rintro (rfl | ⟨hother, before, after, rfl, hlast⟩)
    · exact ⟨argv, [], rfl, fun _ hmem => absurd hmem List.not_mem_nil⟩
    · refine ⟨before, after ++ [argument], by simp, fun earlier hmem => ?_⟩
      cases List.mem_append.mp hmem with
      | inl hafter => exact hlast earlier hafter
      | inr heq => exact List.mem_singleton.mp heq ▸ hother

theorem no_option_concat {option : String} {argv : List CString} {argument : CString} :
    NoOption option (argv ++ [argument]) ↔
      NoOption option argv ∧ ∀ value, argument ≠ some (option ++ value) := by
  simp [NoOption, or_imp, forall_and]

/-- What the arguments leave in a global: what the last of its options gives it,
    or what it was if there is none. -/
theorem parse_args_last {α : Type} {field : DumpSelection → α} {option : String} {of_value : String → α}
    (htaken : ∀ selection value, field (parse_argument selection (some (option ++ value))) = of_value value)
    (hkept : ∀ selection argument, (∀ value, argument ≠ some (option ++ value)) →
      field (parse_argument selection argument) = field selection)
    {argv : List CString} {selection : DumpSelection} {result : α} :
    field (kokkosp_parse_args argv selection) = result ↔
      (∃ value, LastOption option argv value ∧ of_value value = result) ∨
        NoOption option argv ∧ field selection = result := by
  induction argv using List.reverseRecOn with
  | nil => simp [kokkosp_parse_args, LastOption, NoOption]
  | append_singleton argv argument ih =>
    have hturn : kokkosp_parse_args (argv ++ [argument]) selection =
        parse_argument (kokkosp_parse_args argv selection) argument := List.foldl_concat _ _ _ _
    rw [hturn, no_option_concat]
    by_cases hgives : ∃ value, argument = some (option ++ value)
    · obtain ⟨value, rfl⟩ := hgives
      have hinjective : ∀ other, option ++ value = option ++ other ↔ value = other := by
        intro other
        rw [← String.toList_inj, String.toList_append, String.toList_append, List.append_cancel_left_eq,
          String.toList_inj]
      rw [htaken]
      simp [last_option_concat, hinjective]
    · rw [not_exists] at hgives
      rw [hkept _ _ hgives, ih]
      simp [last_option_concat, hgives]

/-- The label comes from the last option for it, or from the selection before if there is none. -/
theorem parse_args_label {argv : List CString} {selection : DumpSelection} {label : String} :
    (kokkosp_parse_args argv selection).dump_kernel_label = label ↔
      LastOption dump_kernel_label_option argv label ∨
        NoOption dump_kernel_label_option argv ∧ selection.dump_kernel_label = label := by
  have hlast := @parse_args_last String DumpSelection.dump_kernel_label dump_kernel_label_option id ?_ ?_
    argv selection label
  · simpa using hlast
  · intro selection value
    rw [parse_argument, Option.getD_some, if_pos (starts_with_iff.mpr ⟨value, rfl⟩), substr_from_option, id]
  · intro selection argument hother
    unfold parse_argument
    dsimp only
    split
    · next hstarts =>
      obtain ⟨value, hvalue⟩ := starts_with_iff.mp hstarts
      cases argument with
      | none => exact absurd hvalue (by simp [dump_kernel_label_option, ← String.toList_inj])
      | some text => exact absurd (congrArg some hvalue) (hother value)
    · split <;> rfl

/-- The invocation is the parsed value of the last option for it, or that of the selection
    before. -/
theorem parse_args_invocation {argv : List CString} {selection : DumpSelection} {invocation : Option Nat} :
    (kokkosp_parse_args argv selection).dump_kernel_invocation = invocation ↔
      (∃ value, LastOption dump_kernel_invocation_option argv value ∧
        parse_positive_uint64 value = invocation) ∨
      NoOption dump_kernel_invocation_option argv ∧ selection.dump_kernel_invocation = invocation := by
  refine parse_args_last ?_ ?_
  · intro selection value
    have hlabel : ¬ starts_with (dump_kernel_invocation_option ++ value) dump_kernel_label_option = true := by
      intro hstarts
      obtain ⟨other, hother⟩ := starts_with_iff.mp hstarts
      exact options_apart other value hother.symm
    rw [parse_argument, Option.getD_some, if_neg hlabel, if_pos (starts_with_iff.mpr ⟨value, rfl⟩),
      substr_from_option]
  · intro selection argument hother
    unfold parse_argument
    dsimp only
    split
    · rfl
    · split
      · next hstarts =>
        obtain ⟨value, hvalue⟩ := starts_with_iff.mp hstarts
        cases argument with
        | none => exact absurd hvalue (by simp [dump_kernel_invocation_option, ← String.toList_inj])
        | some text => exact absurd (congrArg some hvalue) (hother value)
      · rfl

/-- The launches which are dumped are those the arguments ask for. -/
theorem selected_iff_asked {argv : List CString} {label : String} {invocation : Nat} :
    should_dump_views_for_invocation (kokkosp_parse_args argv .initial) label invocation = true ↔
      Asked argv label invocation := by
  rw [should_dump_views_for_invocation_iff, parse_args_invocation]
  simp only [parse_positive_uint64_eq_some, Asked]
  constructor
  · rintro ⟨hnonempty, hlabel, hinvocation⟩
    have hlast : LastOption dump_kernel_label_option argv label := by
      cases parse_args_label.mp hlabel.symm with
      | inl hlast => exact hlast
      | inr hnone => exact absurd hnone.2.symm (hlabel ▸ hnonempty)
    refine ⟨fun hempty => hnonempty (hlabel ▸ hempty), hlast, ?_⟩
    cases hinvocation with
    | inl hgiven => exact Or.inr hgiven
    | inr hfirst => exact Or.inl ⟨hfirst.1, (Option.some.inj hfirst.2).symm⟩
  · rintro ⟨hnonempty, hlast, hinvocation⟩
    have hlabel := (@parse_args_label argv .initial label).mpr (Or.inl hlast)
    refine ⟨hlabel.symm ▸ hnonempty, hlabel.symm, ?_⟩
    cases hinvocation with
    | inl hfirst => exact Or.inr ⟨hfirst.1, congrArg some hfirst.2.symm⟩
    | inr hgiven => exact Or.inl hgiven

/-- For every vector of arguments and every interleaving of the hooks: a launch whose hook has
    returned was dumped if and only if the arguments ask for its label and the number of its
    invocation, counted in the log before it. -/
theorem command_line_dumps {Thread : Type} [DecidableEq Thread] (argv : List CString) (fence : Fence)
    {actions : List (Action Thread)} {s : System Thread}
    (hrun : Run (Step (kokkosp_parse_args argv .initial)) (System.initial fence) actions s) {id : Nat}
    (hreturned : .returned id ∈ s.log) :
    (∃ result, .created id result ∈ s.log) ↔
      ∃ before launch after, s.log = before ++ .registered launch :: after ∧ launch.id = id ∧
        Asked argv launch.kernel_label (before.countP (registers launch.kernel_label) + 1) := by
  have hlog := (run_invariant hrun).log
  have hchosen : ∀ {launch : Launch}, launch.Selected (kokkosp_parse_args argv .initial) ↔
      Asked argv launch.kernel_label launch.invocation := selected_iff_asked
  constructor
  · rintro ⟨result, hcreated⟩
    obtain ⟨launch, hlaunch, rfl, hselected⟩ := created_selected hlog hcreated
    obtain ⟨before, after, hsplit, _, _, hnumber⟩ := hlog.of_mem hlaunch
    exact ⟨before, launch, after, hsplit, rfl, hnumber ▸ hchosen.mp hselected⟩
  · rintro ⟨before, launch, after, hsplit, rfl, hasked⟩
    obtain ⟨_, _, hnumber⟩ := hlog before (.registered launch) after hsplit
    have hlaunch : .registered launch ∈ s.log := by simp [hsplit]
    obtain ⟨earlier, later, hreturn, returning, hmem, hid, hcreated⟩ := hlog.of_mem hreturned
    have hregistered : .registered returning ∈ s.log := hreturn ▸ List.mem_append_left _ hmem
    -- The launch which returns is the one which was registered with its number.
    have hsame := registered_unique hlog hlaunch hregistered hid.symm
    obtain ⟨result, hresult⟩ := hcreated (hsame ▸ hchosen.mpr (hnumber ▸ hasked))
    exact ⟨result, hreturn ▸ List.mem_append_left _ hresult⟩

/-- The arguments ask for the second launch of a label, so the first one is not dumped. -/
theorem command_line_dumps_example :
    ∃ (argv : List CString) (actions : List (Action Unit)) (s : System Unit),
      Run (Step (kokkosp_parse_args argv .initial)) (System.initial none) actions s ∧
        ¬ ∃ before launch after, s.log = before ++ .registered launch :: after ∧ launch.id = 1 ∧
          Asked argv launch.kernel_label (before.countP (registers launch.kernel_label) + 1) := by
  let argv : List CString :=
    [none, some "--krepe-dump-kernel-invocation=1", some "--krepe-dump-kernel-label=axpy",
      some "--krepe-dump-kernel-invocation=02"]
  let selection := kokkosp_parse_args argv .initial
  have hrun : Run (Step selection) (System.initial none : System Unit) [] (System.initial none) := .start
  have hbegin := hrun.step (@Step.begin Unit _ _ _ () .parallel_for (some "axpy") 0 rfl)
  have hregister := hbegin.step (@Step.register_other Unit _ _ _ () ⟨1, "axpy", 0, 0⟩ rfl (by decide))
  have hreturn := hregister.step (@Step.return Unit _ _ _ () ⟨1, "axpy", 0, 1⟩ rfl)
  have hdumps := command_line_dumps argv none hreturn (List.mem_append_right _ (List.mem_singleton_self _))
  refine ⟨argv, _, _, hreturn, fun hasked => ?_⟩
  obtain ⟨result, hcreated⟩ := hdumps.mpr hasked
  simp [System.initial] at hcreated

end krepe
