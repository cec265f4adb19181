import Krepe.Common.StringView
import Krepe.Outcome.Ends

open std outcome word

namespace krepe.compiler_plugins.gcc

/-- The strings of a version of the compiler which are compared, as views of them. -/
structure PluginGccVersion where
  basever : StringView
  configuration_arguments : StringView

/-- What the compiler tells the plugin about itself. -/
structure PluginNameArgs where
  base_name : String
  version : Option String
  help : Option String

/-- The event for which the plugin registers its callback. -/
inductive PluginEvent where
  | PLUGIN_PRE_GENERICIZE
  deriving DecidableEq, Repr

/-- The failures which the compiler counted, and the plugins which registered
    `ast_callback` for an event. -/
structure Compiler where
  errorcount : Nat
  sorrycount : Nat
  callbacks : List (String × PluginEvent)

/-- Callbacks are kept in the order of their registration. -/
def Compiler.register_callback (compiler : Compiler) (plugin_name : String) (event : PluginEvent) :
    Compiler :=
  { compiler with callbacks := compiler.callbacks ++ [(plugin_name, event)] }

/-- The text which precedes the target in the arguments of the compiler's configuration. -/
def target_flag : StringView := ⟨"--target=".toList, by decide⟩

theorem target_flag_length : target_flag.text.length = 9 := rfl

/-- What stands between the flag and the next blank; where there is no flag, the addition to
    `npos` wraps around. -/
def get_configuration_target (configuration_args : StringView) : Except Failure StringView :=
  let flag_start := configuration_args.find target_flag
  let arg_start := flag_start + target_flag.size
  let arg_end := configuration_args.find_char ' ' arg_start
  configuration_args.substr arg_start (arg_end - arg_start)

/-- The version up to its last point. -/
def get_version_without_patch (version_string : StringView) : Except Failure StringView :=
  version_string.substr 0 (version_string.find_last_of '.')

/-- `gcc_version` is that of the headers which the plugin was built with, `version`
    that of the compiler which loads it. The targets are compared if the versions agree. -/
def plugin_init (gcc_version : PluginGccVersion) (plugin_info : PluginNameArgs)
    (version : PluginGccVersion) (compiler : Compiler) :
    Except Failure (Int32 × PluginNameArgs × Compiler) := do
  if compiler.errorcount ≠ 0 ∨ compiler.sorrycount ≠ 0 then
    return (1, plugin_info, compiler)
  let plugin_info := { plugin_info with version := some "0.0.1", help := some "" }
  let version_without_patch ← get_version_without_patch version.basever
  let gcc_version_without_patch ← get_version_without_patch gcc_version.basever
  if version_without_patch ≠ gcc_version_without_patch then
    return (1, plugin_info, compiler)
  let configuration_target ← get_configuration_target version.configuration_arguments
  let gcc_configuration_target ← get_configuration_target gcc_version.configuration_arguments
  if configuration_target ≠ gcc_configuration_target then
    return (1, plugin_info, compiler)
  return (0, plugin_info, compiler.register_callback plugin_info.base_name .PLUGIN_PRE_GENERICIZE)

/-- The components of a version but the last, or the only one. -/
def release (version : List Char) : List (List Char) :=
  let components := version.splitOn '.'
  if components.length = 1 then components else components.dropLast

/-- The values of the `--target=` arguments of a configuration. -/
def targets (configuration : List Char) : List (List Char) :=
  (configuration.splitOn ' ').filterMap fun argument => argument.dropPrefix? target_flag.text

/-- A plugin which was built for one version works with the other one. -/
def Compatible (gcc_version version : PluginGccVersion) : Prop :=
  release version.basever.text = release gcc_version.basever.text ∧
    targets version.configuration_arguments.text = targets gcc_version.configuration_arguments.text

/-- The plugin is accepted by a compatible compiler, and refused by any other one. -/
def Checks (gcc_version : PluginGccVersion) (plugin_info : PluginNameArgs) (version : PluginGccVersion)
    (compiler : Compiler) : Prop :=
  ∃ code info next, plugin_init gcc_version plugin_info version compiler = .ok (code, info, next) ∧
    (code = 0 ↔ Compatible gcc_version version)

/-- There is no `--target=` at all. -/
def Unmarked (configuration : List Char) : Prop := ¬ target_flag.text <:+: configuration

/-- The first `--target=` is the start of an argument. -/
def Leading (configuration : List Char) : Prop :=
  ∃ before after, configuration.dropInfix? target_flag.text = some (before, after) ∧
    (before = [] ∨ before.getLast? = some ' ')

/-- The first `--target=` is inside of an argument, in front of the text `inner`. -/
def Inside (configuration inner : List Char) : Prop :=
  ∃ before after, configuration.dropInfix? target_flag.text = some (before, after) ∧
    ¬(before = [] ∨ before.getLast? = some ' ') ∧ inner = after.takeWhile (· ≠ ' ')

/-- What follows on the first eight characters in their argument. -/
def behind_eight (configuration : List Char) : List Char :=
  (configuration.drop 8).takeWhile (· ≠ ' ')

/-- The first `--target=` is in front of the target: it starts an argument, or the text
    behind it inside of an argument repeats the target. -/
def Marked (configuration : List Char) : Prop :=
  Leading configuration ∨ ∃ inner, Inside configuration inner ∧ inner ∈ targets configuration

/-- The first `--target=` is inside of an argument, in front of another text than the
    target. -/
def Stray (configuration : List Char) : Prop :=
  ∃ inner, Inside configuration inner ∧ inner ∉ targets configuration

/-- Two configurations, in one order, for which the check comes out right. Without a
    `--target=` the texts behind eight characters are taken for targets. -/
inductive DecidedInOrder (left right : List Char) : Prop where
  | marked (hleft : Marked left) (hright : Marked right)
  | unmarked (hleft : Unmarked left) (hright : Unmarked right)
      (hlengths : 8 ≤ left.length ∧ 8 ≤ right.length) (hsame : behind_eight left = behind_eight right)
  | marked_unmarked (hleft : Marked left) (hright : Unmarked right) (hlength : 8 ≤ right.length)
      (hother : behind_eight right ∉ targets left)

/-- Two configurations for which the check comes out right, in either order. -/
def Decided (left right : List Char) : Prop := DecidedInOrder left right ∨ DecidedInOrder right left

/-! What the code looks at in a configuration. -/

/-- Where the target is looked for: behind the first `--target=`, or, as the sum of
    `npos` and the length of the flag wraps around, behind eight characters. -/
def target_start (configuration : List Char) : Nat :=
  match configuration.dropInfix? target_flag.text with
  | some (before, _) => before.length + 9
  | none => 8

/-- The text which is taken for the target. -/
def found_target (configuration : List Char) : List Char :=
  (configuration.drop (target_start configuration)).takeWhile (· ≠ ' ')

/-- There is something to take for the target. -/
def Sized (configuration : List Char) : Prop :=
  target_flag.text <:+: configuration ∨ 8 ≤ configuration.length

/-- In both configurations there is a text to take for the target, and the texts
    are the same where the targets are. -/
structure TakenRight (left right : List Char) : Prop where
  sized : Sized left ∧ Sized right
  same : found_target left = found_target right ↔ targets left = targets right

/-- The version without its patch can always be taken, and its parts are those of the release. -/
theorem get_version_without_patch_ok (version_string : StringView) :
    ∃ version, get_version_without_patch version_string = .ok version ∧
      version.text.splitOn '.' = release version_string.text := by
  obtain ⟨part, hpart, hcases⟩ := version_string.substr_find_last_of '.'
  refine ⟨part, hpart, ?_⟩
  unfold release
  rcases hcases with ⟨hdot, htext⟩ | ⟨last, hlast, htext⟩
  · rw [htext, List.splitOn_eq_singleton hdot]
    rfl
  · have hlength : ((part.text ++ '.' :: last).splitOn '.').length ≠ 1 := by
      rw [List.splitOn_append_cons_self, List.splitOn_eq_singleton hlast, List.length_append]
      have hpos := List.length_pos_iff.mpr (List.splitOn_ne_nil '.' part.text)
      simp
    rw [htext]
    dsimp only
    rw [if_neg hlength, dropLast_splitOn hlast]

/-- A configuration is long enough if the target starts inside of it. -/
theorem sized_iff {configuration : List Char} :
    Sized configuration ↔ target_start configuration ≤ configuration.length := by
  unfold Sized target_start
  rw [← dropInfix?_isSome]
  cases hfound : configuration.dropInfix? target_flag.text with
  | none => exact or_iff_right Bool.false_ne_true
  | some found =>
    have hlength := congrArg List.length (append_of_dropInfix? hfound)
    rw [List.length_append, List.length_append, target_flag_length] at hlength
    have hle : found.1.length + 9 ≤ configuration.length := by omega
    exact iff_of_true (Or.inl rfl) hle

/-- The sum of a position and the length of the flag wraps around for `npos` only. -/
theorem arg_start_toNat (configuration_args : StringView) :
    (configuration_args.find target_flag + target_flag.size).toNat =
      target_start configuration_args.text := by
  have hsize := configuration_args.size_lt
  have hflag : target_flag.size.toNat = 9 := rfl
  unfold StringView.find target_start
  cases hfound : configuration_args.text.dropInfix? target_flag.text with
  | none => rfl
  | some found =>
    have hlength := congrArg List.length (append_of_dropInfix? hfound)
    rw [List.length_append, List.length_append] at hlength
    rw [UInt64.toNat_add, configuration_args.position_toNat (by omega), hflag, Nat.mod_eq_of_lt (by omega)]

/-- From a configuration which is long enough some target is taken. -/
theorem get_configuration_target_sized {configuration_args : StringView}
    (hsized : Sized configuration_args.text) :
    ∃ target, get_configuration_target configuration_args = .ok target ∧
      target.text = found_target configuration_args.text := by
  rw [sized_iff, ← arg_start_toNat] at hsized
  obtain ⟨target, htarget, htext⟩ := @StringView.substr_of_le configuration_args _
    (configuration_args.find_char ' ' (configuration_args.find target_flag + target_flag.size) -
      (configuration_args.find target_flag + target_flag.size)) hsized
  rw [StringView.take_find_char ' ' hsized, arg_start_toNat] at htext
  exact ⟨target, htarget, htext⟩

/-- A configuration which is too short throws. -/
theorem get_configuration_target_short {configuration_args : StringView}
    (hshort : ¬ Sized configuration_args.text) :
    get_configuration_target configuration_args = .error .out_of_range := by
  rw [sized_iff, ← arg_start_toNat, Nat.not_le] at hshort
  exact StringView.substr_of_lt hshort

/-- Behind the flag stands the target, up to the next blank. -/
theorem found_target_of_flag {configuration before after : List Char}
    (hfound : configuration.dropInfix? target_flag.text = some (before, after)) :
    found_target configuration = after.takeWhile (· ≠ ' ') := by
  have htext := append_of_dropInfix? hfound
  have hstart : (before ++ target_flag.text).length = before.length + 9 := by
    rw [List.length_append, target_flag_length]
  rw [found_target, target_start, hfound]
  dsimp only
  rw [htext, List.drop_left' hstart]

/-- A configuration with the flag is long enough. -/
theorem sized_of_flag {configuration before after : List Char}
    (hfound : configuration.dropInfix? target_flag.text = some (before, after)) :
    Sized configuration := by
  refine Or.inl (dropInfix?_isSome.mp ?_)
  rw [hfound]
  rfl

/-- Where the first `--target=` starts an argument, its value is found. -/
theorem found_target_mem_targets {configuration : List Char} (hleading : Leading configuration) :
    found_target configuration ∈ targets configuration := by
  obtain ⟨before, after, hfound, hbefore⟩ := hleading
  have htext := append_of_dropInfix? hfound
  have hflag : ∀ c ∈ target_flag.text, decide (c ≠ ' ') = true := List.all_eq_true.mp rfl
  have hargument := @takeWhile_mem_splitOn _ _ ' ' before (target_flag.text ++ after) hbefore
  rw [← List.append_assoc, ← htext, List.takeWhile_append_of_pos hflag] at hargument
  rw [targets, List.mem_filterMap, found_target_of_flag hfound]
  exact ⟨_, hargument, List.dropPrefix?_append_of_beq _ (beq_self_eq_true _)⟩

theorem Leading.sized {configuration : List Char} (hleading : Leading configuration) :
    Sized configuration := by
  obtain ⟨before, after, hfound, _⟩ := hleading
  exact sized_of_flag hfound

theorem Inside.sized {configuration inner : List Char} (hinside : Inside configuration inner) :
    Sized configuration := by
  obtain ⟨before, after, hfound, _⟩ := hinside
  exact sized_of_flag hfound

/-- The text inside of an argument is taken for the target. -/
theorem Inside.found_target {configuration inner : List Char} (hinside : Inside configuration inner) :
    found_target configuration = inner := by
  obtain ⟨before, after, hfound, _, rfl⟩ := hinside
  exact found_target_of_flag hfound

/-- What is found behind a `--target=` which is marked is a target. -/
theorem Marked.found {configuration : List Char} (hmarked : Marked configuration) :
    Sized configuration ∧ found_target configuration ∈ targets configuration := by
  rcases hmarked with hleading | ⟨inner, hinside, hmem⟩
  · exact ⟨hleading.sized, found_target_mem_targets hleading⟩
  · exact ⟨hinside.sized, hinside.found_target ▸ hmem⟩

/-- A marked configuration has the target which is found. -/
theorem targets_of_marked {configuration : List Char} (hmarked : Marked configuration)
    (hone : (targets configuration).length ≤ 1) :
    targets configuration = [found_target configuration] := by
  have hmem := hmarked.found.2
  cases htargets : targets configuration with
  | nil => simp [htargets] at hmem
  | cons target rest =>
    rw [htargets, List.length_cons, Nat.add_le_add_iff_right, Nat.le_zero, List.length_eq_zero_iff] at hone
    rw [htargets, hone, List.mem_singleton] at hmem
    rw [hone, hmem]

section

variable {configuration : List Char} (hunmarked : Unmarked configuration)

include hunmarked

/-- An unmarked configuration has no target. -/
theorem targets_of_unmarked : targets configuration = [] := by
  refine List.eq_nil_iff_forall_not_mem.mpr fun target htarget => hunmarked ?_
  obtain ⟨argument, hargument, hprefix⟩ := List.mem_filterMap.mp htarget
  obtain ⟨start, hstart, hflag⟩ := List.dropPrefix?_eq_some_iff.mp hprefix
  have hinfix : target_flag.text <:+: argument := by
    rw [hstart, eq_of_beq hflag]
    exact (List.prefix_append _ _).isInfix
  exact hinfix.trans (infix_of_mem_splitOn hargument)

/-- Without a flag, what stands behind the first eight characters is taken for a target. -/
theorem found_target_of_unmarked : found_target configuration = behind_eight configuration := by
  rw [Unmarked, ← dropInfix?_isSome, Option.not_isSome_iff_eq_none] at hunmarked
  rw [found_target, target_start, hunmarked]
  rfl

/-- Without a flag, eight characters are needed. -/
theorem sized_of_unmarked : Sized configuration ↔ 8 ≤ configuration.length :=
  or_iff_right hunmarked

end

/-- A configuration without a stray flag is marked or unmarked. -/
theorem marked_or_unmarked {configuration : List Char} (hstray : ¬ Stray configuration) :
    Marked configuration ∨ Unmarked configuration := by
  cases hfound : configuration.dropInfix? target_flag.text with
  | none =>
    refine Or.inr ?_
    rw [Unmarked, ← dropInfix?_isSome, hfound]
    exact Bool.false_ne_true
  | some found =>
    by_cases hbefore : found.1 = [] ∨ found.1.getLast? = some ' '
    · exact Or.inl (Or.inl ⟨found.1, found.2, hfound, hbefore⟩)
    · have hinside : Inside configuration (found.2.takeWhile (· ≠ ' ')) :=
        ⟨found.1, found.2, hfound, hbefore, rfl⟩
      by_contra hother
      exact hstray ⟨_, hinside, fun hmem => hother (Or.inl (Or.inr ⟨_, hinside, hmem⟩))⟩

theorem TakenRight.symm {left right : List Char} (htaken : TakenRight left right) :
    TakenRight right left :=
  ⟨htaken.sized.symm, eq_comm.trans (htaken.same.trans eq_comm)⟩

section

variable {left right : List Char}

/-- Two configurations with one target each are taken right. -/
theorem takenRight_marked (hleft : Marked left) (hright : Marked right)
    (hone : (targets left).length ≤ 1) (hother : (targets right).length ≤ 1) : TakenRight left right := by
  refine ⟨⟨hleft.found.1, hright.found.1⟩, ?_⟩
  rw [targets_of_marked hleft hone, targets_of_marked hright hother, List.singleton_inj]

/-- Two configurations without targets are taken right if both have eight characters and agree
    behind them. -/
theorem takenRight_unmarked_iff (hleft : Unmarked left) (hright : Unmarked right) :
    TakenRight left right ↔
      (8 ≤ left.length ∧ 8 ≤ right.length) ∧ behind_eight left = behind_eight right := by
  rw [← sized_of_unmarked hleft, ← sized_of_unmarked hright, ← found_target_of_unmarked hleft,
    ← found_target_of_unmarked hright]
  have htargets : targets left = targets right := by
    rw [targets_of_unmarked hleft, targets_of_unmarked hright]
  exact ⟨fun htaken => ⟨htaken.sized, htaken.same.mpr htargets⟩,
    fun ⟨hsized, hsame⟩ => ⟨hsized, iff_of_true hsame htargets⟩⟩

/-- A target and a text which is taken for one are the same by chance. -/
theorem takenRight_marked_unmarked_iff (hleft : Marked left) (hright : Unmarked right)
    (hone : (targets left).length ≤ 1) :
    TakenRight left right ↔ 8 ≤ right.length ∧ behind_eight right ∉ targets left := by
  have hsame : (found_target left = found_target right ↔ targets left = targets right) ↔
      behind_eight right ∉ targets left := by
    rw [targets_of_unmarked hright, targets_of_marked hleft hone, found_target_of_unmarked hright,
      List.mem_singleton, iff_false_right (List.cons_ne_nil _ _), eq_comm]
  rw [← sized_of_unmarked hright, ← hsame]
  exact ⟨fun htaken => ⟨htaken.sized.2, htaken.same⟩, fun ⟨hsized, hsame⟩ => ⟨⟨hleft.found.1, hsized⟩, hsame⟩⟩

variable (hone : (targets left).length ≤ 1) (hother : (targets right).length ≤ 1)

include hone hother

/-- Configurations which are decided are taken right. -/
theorem DecidedInOrder.takenRight (hdecided : DecidedInOrder left right) : TakenRight left right := by
  cases hdecided with
  | marked hleft hright => exact takenRight_marked hleft hright hone hother
  | unmarked hleft hright hlengths hsame =>
    exact (takenRight_unmarked_iff hleft hright).mpr ⟨hlengths, hsame⟩
  | marked_unmarked hleft hright hlength hvalue =>
    exact (takenRight_marked_unmarked_iff hleft hright hone).mpr ⟨hlength, hvalue⟩

/-- Where the condition on two configurations holds, the texts which are compared are
    there, and are the same exactly where the targets are. -/
theorem Decided.takenRight (hdecided : Decided left right) : TakenRight left right := by
  rcases hdecided with hdecided | hdecided
  · exact hdecided.takenRight hone hother
  · exact (hdecided.takenRight hother hone).symm

/-- No other configurations come out right, unless there is a stray `--target=`. -/
theorem decided_of_takenRight (hleft : ¬ Stray left) (hright : ¬ Stray right) (htaken : TakenRight left right) :
    Decided left right := by
  rcases marked_or_unmarked hleft with hleft | hleft
  · rcases marked_or_unmarked hright with hright | hright
    · exact Or.inl (.marked hleft hright)
    · obtain ⟨hlength, hvalue⟩ := (takenRight_marked_unmarked_iff hleft hright hone).mp htaken
      exact Or.inl (.marked_unmarked hleft hright hlength hvalue)
  · rcases marked_or_unmarked hright with hright | hright
    · obtain ⟨hlength, hvalue⟩ := (takenRight_marked_unmarked_iff hright hleft hother).mp htaken.symm
      exact Or.inr (.marked_unmarked hright hleft hlength hvalue)
    · obtain ⟨hlengths, hsame⟩ := (takenRight_unmarked_iff hleft hright).mp htaken
      exact Or.inl (.unmarked hleft hright hlengths hsame)

end

section

variable {gcc_version version : PluginGccVersion} {plugin_info : PluginNameArgs} {compiler : Compiler}

/-- A plugin which is refused leaves the compiler as it was. -/
theorem plugin_init_registers {code : Int32} {info : PluginNameArgs} {next : Compiler}
    (hinit : plugin_init gcc_version plugin_info version compiler = .ok (code, info, next)) :
    next = if code = 0 then compiler.register_callback plugin_info.base_name .PLUGIN_PRE_GENERICIZE
      else compiler := by
  unfold plugin_init at hinit
  split at hinit
  · cases hinit
    rfl
  · simp only [bind_eq_ok] at hinit
    obtain ⟨_, _, _, _, hinit⟩ := hinit
    split at hinit
    · cases hinit
      rfl
    · simp only [bind_eq_ok] at hinit
      obtain ⟨_, _, _, _, hinit⟩ := hinit
      split at hinit
      · cases hinit
        rfl
      · cases hinit
        rfl

variable (herrors : compiler.errorcount = 0 ∧ compiler.sorrycount = 0)

include herrors

/-- The targets decide about versions which agree. -/
theorem plugin_init_eq :
    plugin_init gcc_version plugin_info version compiler =
      let info := { plugin_info with version := some "0.0.1", help := some "" }
      if release version.basever.text = release gcc_version.basever.text then do
        let configuration_target ← get_configuration_target version.configuration_arguments
        let gcc_configuration_target ← get_configuration_target gcc_version.configuration_arguments
        if configuration_target = gcc_configuration_target then
          return (0, info, compiler.register_callback info.base_name .PLUGIN_PRE_GENERICIZE)
        else return (1, info, compiler)
      else return (1, info, compiler) := by
  obtain ⟨own, hown, howntext⟩ := get_version_without_patch_ok version.basever
  obtain ⟨built, hbuilt, hbuilttext⟩ := get_version_without_patch_ok gcc_version.basever
  have hsame : own = built ↔ release version.basever.text = release gcc_version.basever.text := by
    rw [← howntext, ← hbuilttext, (splitOn_injective '.').eq_iff]
    exact ⟨congrArg StringView.text, StringView.ext⟩
  have hstart : ¬ (compiler.errorcount ≠ 0 ∨ compiler.sorrycount ≠ 0) := by
    simp [herrors]
  unfold plugin_init
  simp only [if_neg hstart, hown, hbuilt, ok_bind, ne_eq, hsame, ite_not]

/-- Versions which do not agree are refused before the targets are looked for. -/
theorem plugin_init_other_release
    (hrelease : release version.basever.text ≠ release gcc_version.basever.text) :
    ∃ info, plugin_init gcc_version plugin_info version compiler = .ok (1, info, compiler) := by
  rw [plugin_init_eq herrors, if_neg hrelease]
  exact ⟨_, rfl⟩

section

variable (hrelease : release version.basever.text = release gcc_version.basever.text)

include hrelease

/-- Of compilers of one release whose configurations are long enough, the check returns, and
    accepts those whose found targets are the same. -/
theorem plugin_init_sized (hsized : Sized version.configuration_arguments.text)
    (hgccsized : Sized gcc_version.configuration_arguments.text) :
    ∃ code info next, plugin_init gcc_version plugin_info version compiler = .ok (code, info, next) ∧
      (code = 0 ↔ found_target version.configuration_arguments.text =
        found_target gcc_version.configuration_arguments.text) := by
  obtain ⟨own, hown, howntext⟩ := get_configuration_target_sized hsized
  obtain ⟨built, hbuilt, hbuilttext⟩ := get_configuration_target_sized hgccsized
  rw [plugin_init_eq herrors, if_pos hrelease, hown, hbuilt, ok_bind, ok_bind, ← howntext, ← hbuilttext]
  by_cases hsame : own = built
  · rw [if_pos hsame]
    exact ⟨_, _, _, rfl, iff_of_true rfl (hsame ▸ rfl)⟩
  · rw [if_neg hsame]
    exact ⟨_, _, _, rfl, iff_of_false (by simp) (mt StringView.ext hsame)⟩

/-- Of compilers of one release, the check throws where a configuration is too short. -/
theorem plugin_init_short (hshort : ¬ (Sized version.configuration_arguments.text ∧
      Sized gcc_version.configuration_arguments.text)) :
    plugin_init gcc_version plugin_info version compiler = .error .out_of_range := by
  rw [plugin_init_eq herrors, if_pos hrelease]
  by_cases hsized : Sized version.configuration_arguments.text
  · obtain ⟨own, hown, _⟩ := get_configuration_target_sized hsized
    rw [hown, ok_bind, get_configuration_target_short fun hgccsized => hshort ⟨hsized, hgccsized⟩]
    rfl
  · rw [get_configuration_target_short hsized]
    rfl

end

/-- Of compilers of one version, the check comes out right where the texts which it
    takes for the targets are there and are as the targets are. -/
theorem checks_iff_takenRight (hrelease : release version.basever.text = release gcc_version.basever.text) :
    Checks gcc_version plugin_info version compiler ↔
      TakenRight version.configuration_arguments.text gcc_version.configuration_arguments.text := by
  have hcompatible : Compatible gcc_version version ↔
      targets version.configuration_arguments.text = targets gcc_version.configuration_arguments.text :=
    and_iff_right hrelease
  by_cases hsized : Sized version.configuration_arguments.text ∧ Sized gcc_version.configuration_arguments.text
  · obtain ⟨code, info, next, hinit, hcode⟩ := plugin_init_sized herrors hrelease hsized.1 hsized.2
    refine ⟨fun hchecks => ⟨hsized, ?_⟩, fun htaken => ⟨code, info, next, hinit, ?_⟩⟩
    · obtain ⟨_, _, _, hother, hsame⟩ := hchecks
      cases hinit.symm.trans hother
      rw [← hcode, ← hcompatible]
      exact hsame
    · rw [hcode, hcompatible]
      exact htaken.same
  · refine iff_of_false (fun hchecks => ?_) fun htaken => hsized htaken.sized
    obtain ⟨_, _, _, hinit, _⟩ := hchecks
    rw [plugin_init_short herrors hrelease hsized] at hinit
    cases hinit

/-- For configurations with at most one `--target=` argument each, and where no
    failure was counted before: if the versions differ, or the configurations are
    decided, the check returns and accepts exactly the compatible compilers; and if
    neither configuration has a stray `--target=`, it does so in no other case. -/
theorem checks_iff (hone : (targets version.configuration_arguments.text).length ≤ 1)
    (hgccone : (targets gcc_version.configuration_arguments.text).length ≤ 1) :
    (release version.basever.text ≠ release gcc_version.basever.text ∨
        Decided version.configuration_arguments.text gcc_version.configuration_arguments.text →
      Checks gcc_version plugin_info version compiler) ∧
    (¬ Stray version.configuration_arguments.text → ¬ Stray gcc_version.configuration_arguments.text →
      Checks gcc_version plugin_info version compiler →
        release version.basever.text ≠ release gcc_version.basever.text ∨
          Decided version.configuration_arguments.text gcc_version.configuration_arguments.text) := by
  by_cases hrelease : release version.basever.text = release gcc_version.basever.text
  · have hchecks := @checks_iff_takenRight gcc_version version plugin_info compiler herrors hrelease
    rw [or_iff_right (not_not.mpr hrelease), hchecks]
    exact ⟨fun hdecided => hdecided.takenRight hone hgccone,
      fun hleft hright => decided_of_takenRight hone hgccone hleft hright⟩
  · refine ⟨fun _ => ?_, fun _ _ _ => Or.inl hrelease⟩
    obtain ⟨info, hinit⟩ := plugin_init_other_release herrors hrelease
    refine ⟨1, info, compiler, hinit, ?_⟩
    exact iff_of_false (by simp) fun hcompatible => hrelease hcompatible.1

end

/-- The versions agree but for the patch, and the same target stands at different
    places of the configurations. -/
theorem checks_iff_example :
    Checks ⟨⟨"13.2.0".toList, by decide⟩, ⟨"--target=arm --disable-nls".toList, by decide⟩⟩ ⟨"krepe", none, none⟩
      ⟨⟨"13.2.1".toList, by decide⟩, ⟨"--prefix=/usr --target=arm".toList, by decide⟩⟩ ⟨0, 0, []⟩ := by
  refine (checks_iff ⟨rfl, rfl⟩ (by decide) (by decide)).1 (Or.inr (Or.inl (.marked (.inl ?_) (.inl ?_))))
  · exact ⟨"--prefix=/usr ".toList, "arm".toList, rfl, Or.inr rfl⟩
  · exact ⟨[], "arm --disable-nls".toList, rfl, Or.inl rfl⟩

/-- A compiler of the version `13.2.0` which is configured with these arguments. -/
def gcc_13 (configuration_arguments : StringView) : PluginGccVersion :=
  ⟨⟨"13.2.0".toList, by decide⟩, configuration_arguments⟩

/-- Configurations without targets are told apart by the directory of the script, or
    too short; one with a target is taken for one without. -/
theorem not_checks_without_target :
    ¬ Checks (gcc_13 ⟨"../configure".toList, by decide⟩) ⟨"krepe", none, none⟩
        (gcc_13 ⟨"../src/configure".toList, by decide⟩) ⟨0, 0, []⟩ ∧
      ¬ Checks (gcc_13 ⟨[], by decide⟩) ⟨"krepe", none, none⟩ (gcc_13 ⟨[], by decide⟩) ⟨0, 0, []⟩ ∧
      ¬ Checks (gcc_13 ⟨"--build=arm".toList, by decide⟩) ⟨"krepe", none, none⟩
        (gcc_13 ⟨"--target=arm".toList, by decide⟩) ⟨0, 0, []⟩ := by
  refine ⟨?_, ?_, ?_⟩
  · rintro ⟨code, info, next, hinit, hcode⟩
    cases hinit
    cases hcode.mpr ⟨rfl, rfl⟩
  · rintro ⟨code, info, next, hinit, _⟩
    cases hinit
  · rintro ⟨code, info, next, hinit, hcode⟩
    cases hinit
    cases (hcode.mp rfl).2

end krepe.compiler_plugins.gcc
