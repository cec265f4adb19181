import Krepe.Extract.Metadata
import Krepe.Replay.Load.Metadata
import Krepe.RoundTrip.Host
import Krepe.RoundTrip.Written

open std hdf5 outcome

namespace krepe

open impl

/-- A text without null characters is passed as a whole. -/
theorem c_str_eq_self {text : String} : c_str text = text ↔ '\x00' ∉ text.toList := by
  rw [c_str, ← String.toList_inj, String.toList_ofList, List.takeWhile_eq_self_iff]
  constructor
  · intro hall hnull
    simpa using hall _ hnull
  · intro hnull c hc
    exact decide_eq_true fun heq => hnull (heq ▸ hc)

@[simp]
theorem c_str_c_str (text : String) : c_str (c_str text) = c_str text := by
  rw [c_str_eq_self, c_str, String.toList_ofList]
  intro hnull
  simpa using List.mem_takeWhile_imp hnull

section

variable {machine : CaptureMachine} {dump : KernelDump} {file : File}

/-- A value is stored under its key where the key is that of an attribute. -/
theorem DumpStored.metadata_attribute (hstored : DumpStored machine dump file)
    (hkeys : ∀ key value, AList.lookup key dump.metadata = some value → c_str key = key) (key : String) :
    (get_hdf5_string_attribute file ["metadata"] key).toOption = AList.lookup key dump.metadata := by
  obtain ⟨hnodup, hgroup⟩ := hstored.metadata
  cases hlookup : AList.lookup key dump.metadata with
  | none =>
    refine toOption_get_hdf5_string_attribute (File.group?_eq_some.mpr hgroup) fun hmem => ?_
    obtain ⟨attr, hattr, rfl⟩ := List.mem_map.mp hmem
    obtain ⟨⟨other, value⟩, hentry, rfl⟩ := List.mem_map.mp hattr
    have hother := UnorderedMap.mem_entries.mp hentry
    rw [hkeys other value hother, hother] at hlookup
    cases hlookup
  | some value =>
    have hattr : (key, string_data value) ∈ metadata_attributes dump.metadata :=
      List.mem_map.mpr ⟨⟨key, value⟩, UnorderedMap.mem_entries.mpr hlookup, by
        rw [hkeys key value hlookup]⟩
    rw [get_hdf5_string_attribute_of_attr? (File.attr?_of_mem hgroup hnodup hattr)]
    rfl

end

section

variable {app : Application} {tool_fence : Fence} {before : List AppAction} {action : AppAction}
  {capture after : CaptureMachine} {system : DumpSystem} {replay : ReplayMachine} {dump : KernelDump}
  {output : Option KernelOutput} {file : File} {guard : ScopeGuard}

/-- A key is found by the text which the tool was passed for it. -/
theorem get_metadata_of_written
    (hdump : (action.perform app (hooks_after app (CaptureHooks.initial tool_fence) before)).1.dump = some dump)
    (hwritten : Written capture after system dump output file)
    (hload : ScopeGuard.load replay file = .ok guard) (key : String) :
    get_metadata guard key = last_value (metadata_calls before) fun other => c_str other = key := by
  have hmetadata : dump.metadata = added_metadata (metadata_calls before) := by
    rw [perform_dump_metadata hdump, hooks_after_metadata]
  have hkeys : ∀ key value, AList.lookup key dump.metadata = some value → c_str key = key := by
    intro key value hlookup
    obtain ⟨call, _, rfl⟩ := added_metadata_keys (hmetadata ▸ hlookup)
    exact c_str_c_str call.1
  obtain ⟨created, hstored, hsame⟩ := hwritten.created_file
  rw [get_metadata_of_load hload, get_hdf5_string_attribute_congr (hsame ["metadata"] (by simp) (by simp)),
    hstored.metadata_attribute hkeys, hmetadata, lookup_added_metadata]

/-- For every sequence of actions before a dump which is written and loaded: the replayer finds
    under every key the value which was added last under it, and nothing under other keys, if
    and only if no added key has a null character. -/
theorem metadata_round_trip
    (hdump : (action.perform app (hooks_after app (CaptureHooks.initial tool_fence) before)).1.dump = some dump)
    (hwritten : Written capture after system dump output file)
    (hload : ScopeGuard.load replay file = .ok guard) :
    (∀ key, get_metadata guard key = last_metadata (metadata_calls before) key) ↔
      ∀ call ∈ metadata_calls before, '\x00' ∉ call.1.toList := by
  simp only [get_metadata_of_written hdump hwritten hload]
  constructor
  · intro hsame call hcall
    -- A value is found under the key, and so the key is the text of one.
    have hsome := @last_value_isSome _ (fun other => other = call.1) call hcall (by simp)
    rw [← last_metadata, ← hsame, last_value, Option.isSome_map, List.find?_isSome] at hsome
    obtain ⟨other, _, hother⟩ := hsome
    rw [← of_decide_eq_true hother, ← c_str_eq_self, c_str_c_str]
  · intro hnull key
    refine last_value_congr fun call hcall => ?_
    rw [c_str_eq_self.mpr (hnull call hcall)]

end

/-- An application whose first launch of `kernel` is dumped. -/
def host_application : Application where
  extract := ⟨false, false, false, false⟩
  run := {
    build := host_build
    selection := ⟨"kernel", some 1⟩
    create_kernel_dump := fun dump => ⟨true, dump_filename dump.label dump.kernel_id, ""⟩ }

/-- An application which only adds metadata. -/
def metadata_actions (calls : List (String × String)) : List AppAction :=
  calls.map fun call => .add_metadata call.1 call.2

theorem metadata_calls_actions (calls : List (String × String)) :
    metadata_calls (metadata_actions calls) = calls := by
  rw [metadata_calls, metadata_actions, List.filterMap_map]
  exact List.filterMap_some

theorem hooks_after_metadata_actions (app : Application) (hooks : CaptureHooks)
    (calls : List (String × String)) :
    hooks_after app hooks (metadata_actions calls) =
      { hooks with metadata := (hooks_after app hooks (metadata_actions calls)).metadata } := by
  induction calls generalizing hooks with
  | nil => rfl
  | cons call rest ih => exact ih _

/-- A launch after some metadata were added, its dump and a guard which loads it. -/
theorem metadata_run {calls : List (String × String)} (hnames : ∀ call ∈ calls, c_str call.1 ≠ "") :
    ∃ dump file guard, ((AppAction.launch (some "kernel") 0).perform host_application
        (hooks_after host_application (CaptureHooks.initial none) (metadata_actions calls))).1.dump =
          some dump ∧
      Written (host_capture fun _ => 0) (host_capture fun _ => 0) plain_system dump none file ∧
      ScopeGuard.load host_replay file = .ok guard := by
  have hhooks := hooks_after_metadata_actions host_application (CaptureHooks.initial none) calls
  have hmetadata := @hooks_after_metadata host_application none (metadata_actions calls)
  rw [metadata_calls_actions] at hmetadata
  rw [hmetadata] at hhooks
  obtain ⟨dump, hdump⟩ : ∃ dump, dump = dump_of_launch host_application
      { CaptureHooks.initial none with metadata := added_metadata calls } "kernel" := ⟨_, rfl⟩
  have hattrs : metadata_attributes dump.metadata =
      (added_metadata calls).entries.map fun entry => (entry.1, string_data entry.2) := by
    rw [hdump]
    refine List.map_congr_left fun entry hentry => ?_
    obtain ⟨call, _, hcall⟩ := added_metadata_keys (UnorderedMap.mem_entries.mp hentry)
    rw [← hcall, c_str_c_str]
  have hnodup : ((metadata_attributes dump.metadata).map Prod.fst).Nodup := by
    rw [hattrs, List.map_map]
    exact (added_metadata calls).nodupKeys
  have hnonempty : ∀ attr ∈ metadata_attributes dump.metadata, attr.1 ≠ "" := by
    rw [hattrs]
    intro attr hattr
    obtain ⟨entry, hentry, rfl⟩ := List.mem_map.mp hattr
    obtain ⟨call, hcall, hkey⟩ := added_metadata_keys (UnorderedMap.mem_entries.mp hentry)
    exact hkey ▸ hnames call hcall
  obtain ⟨final, hfinal, hstored⟩ := @create_calls_stored (host_capture fun _ => 0) dump hnonempty hnodup no_file
  have hcreate : create_kernel_dump (host_capture fun _ => 0) plain_system none dump no_file =
      (⟨true, dump_filename dump.label dump.kernel_id, ""⟩, final) :=
    create_kernel_dump_of_exec rfl hfinal
  obtain ⟨guard, hguard⟩ := host_dump_loads hstored (by rw [hdump]; rfl) (by rw [hdump]; rfl)
  refine ⟨dump, final, guard, ?_, ?_, (hstored.load host_replay).trans hguard⟩
  · rw [hhooks, hdump, AppAction.perform]
    rfl
  · have hwritten := @Written.created (host_capture fun _ => 0) (host_capture fun _ => 0) plain_system dump
      none no_file (by rw [hcreate])
    rwa [hcreate] at hwritten

/-- A value is overwritten, and what follows a null character in a value is kept. -/
theorem metadata_round_trip_example :
    let before := metadata_actions [("run", "1"), ("run", "2\x003")]
    ∃ dump file guard, ((AppAction.launch (some "kernel") 0).perform host_application
        (hooks_after host_application (CaptureHooks.initial none) before)).1.dump = some dump ∧
      Written (host_capture fun _ => 0) (host_capture fun _ => 0) plain_system dump none file ∧
      ScopeGuard.load host_replay file = .ok guard ∧
      ∀ key, get_metadata guard key = last_metadata (metadata_calls before) key := by
  intro before
  obtain ⟨dump, file, guard, hdump, hwritten, hload⟩ :=
    @metadata_run [("run", "1"), ("run", "2\x003")] (by decide)
  refine ⟨dump, file, guard, hdump, hwritten, hload, (metadata_round_trip hdump hwritten hload).mpr ?_⟩
  rw [metadata_calls_actions]
  decide

/-- A value which is added under a key with a null character is not found there, but under what
    precedes the null character. -/
theorem metadata_lost :
    let before := metadata_actions [("run\x00id", "7")]
    ∃ dump file guard, ((AppAction.launch (some "kernel") 0).perform host_application
        (hooks_after host_application (CaptureHooks.initial none) before)).1.dump = some dump ∧
      Written (host_capture fun _ => 0) (host_capture fun _ => 0) plain_system dump none file ∧
      ScopeGuard.load host_replay file = .ok guard ∧
      last_metadata (metadata_calls before) "run\x00id" = some "7" ∧
      get_metadata guard "run\x00id" = none ∧ get_metadata guard "run" = some "7" := by
  intro before
  obtain ⟨dump, file, guard, hdump, hwritten, hload⟩ := @metadata_run [("run\x00id", "7")] (by decide)
  have hget := get_metadata_of_written hdump hwritten hload
  rw [metadata_calls_actions] at hget
  refine ⟨dump, file, guard, hdump, hwritten, hload, ?_, ?_, ?_⟩
  · rw [metadata_calls_actions]
    decide
  · rw [hget]
    decide
  · rw [hget]
    decide

end krepe
