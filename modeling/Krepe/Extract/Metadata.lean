import Krepe.Extract.DumpContents

open std

namespace krepe

/-- The key and the value of a call of `add_metadata`. -/
def AppAction.metadata : AppAction → Option (String × String)
  | .add_metadata key value => some (key, value)
  | _ => none

/-- The keys and values which the application adds, in their order. -/
def metadata_calls (actions : List AppAction) : List (String × String) :=
  actions.filterMap AppAction.metadata

/-- The value of the last call whose key satisfies a condition. -/
def last_value (calls : List (String × String)) (matching : String → Bool) : Option String :=
  (calls.reverse.find? fun call => matching call.1).map Prod.snd

/-- The value of the last call with a key. -/
def last_metadata (calls : List (String × String)) (key : String) : Option String :=
  last_value calls fun other => other = key

/-- The metadata after calls which pass their keys as `const char*`. -/
def added_metadata (calls : List (String × String)) : UnorderedMap String String :=
  calls.foldl (fun metadata call => metadata.insert (c_str call.1) call.2) ∅

/-- A value that is added last is the last one for the keys it matches. -/
theorem last_value_concat (calls : List (String × String)) (call : String × String)
    (matching : String → Bool) :
    last_value (calls ++ [call]) matching =
      if matching call.1 then some call.2 else last_value calls matching := by
  unfold last_value
  rw [List.reverse_append, List.reverse_singleton, List.singleton_append, List.find?_cons]
  cases matching call.1 <;> rfl

/-- Tests which agree on the keys find the same value. -/
theorem last_value_congr {calls : List (String × String)} {first second : String → Bool}
    (hsame : ∀ call ∈ calls, first call.1 = second call.1) :
    last_value calls first = last_value calls second := by
  induction calls using List.reverseRecOn with
  | nil => rfl
  | append_singleton before call ih =>
    rw [last_value_concat, last_value_concat, hsame call (by simp),
      ih fun other hother => hsame other (List.mem_append_left _ hother)]

theorem last_value_isSome {calls : List (String × String)} {matching : String → Bool} {call : String × String}
    (hcall : call ∈ calls) (hmatching : matching call.1 = true) :
    (last_value calls matching).isSome = true := by
  rw [last_value, Option.isSome_map, List.find?_isSome]
  exact ⟨call, List.mem_reverse.mpr hcall, hmatching⟩

/-- Calls whose keys start alike up to a null character overwrite each other. -/
theorem lookup_added_metadata (calls : List (String × String)) (key : String) :
    AList.lookup key (added_metadata calls) = last_value calls fun other => c_str other = key := by
  induction calls using List.reverseRecOn with
  | nil => rfl
  | append_singleton before call ih =>
    rw [last_value_concat, ← ih, added_metadata, List.foldl_append, ← added_metadata, List.foldl_cons,
      List.foldl_nil]
    by_cases hkey : c_str call.1 = key
    · subst hkey
      simp
    · rw [AList.lookup_insert_ne (Ne.symm hkey)]
      simp [hkey]

/-- Every key of the metadata is one which was added, up to its null character. -/
theorem added_metadata_keys {calls : List (String × String)} {key value : String}
    (hlookup : AList.lookup key (added_metadata calls) = some value) :
    ∃ call ∈ calls, c_str call.1 = key := by
  rw [lookup_added_metadata, last_value, Option.map_eq_some_iff] at hlookup
  obtain ⟨call, hcall, _⟩ := hlookup
  exact ⟨call, List.mem_reverse.mp (List.mem_of_find?_eq_some hcall), by simpa using List.find?_some hcall⟩

section

variable {app : Application}

theorem metadata_calls_concat (before : List AppAction) (action : AppAction) :
    metadata_calls (before ++ [action]) = metadata_calls before ++ action.metadata.toList := by
  unfold metadata_calls
  rw [List.filterMap_append]
  cases hmetadata : action.metadata <;> simp [hmetadata]

theorem predicted_launch_metadata (hooks : CaptureHooks) (label : String) (desc : PolicyDesc)
    (functor : FunctorObject) (device_id : UInt32) :
    (predicted_launch app hooks label desc functor device_id).2.metadata = hooks.metadata := by
  unfold predicted_launch
  dsimp only
  rw [(kokkos_launch_keeps app _ _ device_id).metadata, (replay_functor_keeps app _ functor).2.2]
  rfl

/-- Only a call of `add_metadata` changes the metadata. -/
theorem perform_metadata (hooks : CaptureHooks) (action : AppAction) :
    (action.perform app hooks).2.metadata =
      action.metadata.toList.foldl (fun metadata call => metadata.insert (c_str call.1) call.2)
        hooks.metadata := by
  cases action with
  | parallel_for label policy functor device_id =>
    obtain ⟨desc, hdesc⟩ := impl.register_bounds_ok app.extract policy
    rw [AppAction.perform, parallel_for_eq hooks label policy functor device_id hdesc]
    split
    · exact predicted_launch_metadata hooks label desc functor device_id
    · exact (kokkos_launch_keeps app _ _ device_id).metadata
  | replay_functor functor => exact (replay_functor_keeps app hooks functor).2.2
  | launch label device_id => exact (kokkos_launch_keeps app hooks label device_id).metadata
  | next_invocation_will_dump label => rfl
  | allocate_data queries space label ptr size => rfl
  | deallocate_data space label ptr size => rfl
  | add_metadata key value => rfl

/-- The metadata of the hooks are those which the actions added, by induction on these. -/
theorem hooks_after_metadata (tool_fence : Fence) (actions : List AppAction) :
    (hooks_after app (CaptureHooks.initial tool_fence) actions).metadata =
      added_metadata (metadata_calls actions) := by
  induction actions using List.reverseRecOn with
  | nil => rfl
  | append_singleton before action ih =>
    rw [metadata_calls_concat, added_metadata, List.foldl_append, ← added_metadata, ← ih, hooks_after,
      List.foldl_append]
    exact perform_metadata _ action

/-- A dump has the metadata of the hooks. -/
theorem kokkos_launch_dump_metadata {hooks : CaptureHooks} {label : CString} {device_id : UInt32}
    {dump : KernelDump} (hdump : (kokkos_launch app hooks label device_id).1 = some dump) :
    dump.metadata = hooks.metadata := by
  rw [kokkos_launch_dump] at hdump
  split at hdump
  · cases hdump
    rfl
  · cases hdump

/-- A dump has the metadata from before its launch. -/
theorem perform_dump_metadata {hooks : CaptureHooks} {action : AppAction} {dump : KernelDump}
    (hdump : (action.perform app hooks).1.dump = some dump) : dump.metadata = hooks.metadata := by
  cases action with
  | parallel_for label policy functor device_id =>
    obtain ⟨desc, hdesc⟩ := impl.register_bounds_ok app.extract policy
    rw [AppAction.perform, parallel_for_eq hooks label policy functor device_id hdesc] at hdump
    split at hdump
    · rw [kokkos_launch_dump_metadata hdump, (replay_functor_keeps app _ functor).2.2]
      rfl
    · dsimp only at hdump
      have hmetadata := kokkos_launch_dump_metadata hdump
      exact hmetadata
  | launch label device_id => exact kokkos_launch_dump_metadata hdump
  | _ => cases hdump

end

end krepe
