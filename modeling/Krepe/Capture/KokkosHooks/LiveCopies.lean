import Krepe.Capture.AllocationTracker.History
import Krepe.Capture.Host
import Krepe.Transition.Run

open std transition

namespace krepe

/-- The copy of an allocation comes to the call which reads its memory. -/
def reads_memory (machine : CaptureMachine) (allocation : ActiveAllocation) : Bool :=
  let space := allocation.record.space
  allocation.record.data_size_known && allocation.record.size != 0 &&
    (is_host_accessible_space space || is_cuda_device_space space || is_hip_device_space space) &&
    (machine.cuda_dump || !is_cuda_device_space space) && (machine.hip_dump || !is_hip_device_space space) &&
    (machine.resize_error allocation.record.size).isNone && allocation.record.p_data != 0

/-- A step while one thread runs a hook which dumps: a call which reaches the tracker
    from another thread, or from the same one before its snapshot, the snapshot of
    the hook, and the copy of one of its entries. -/
inductive DumpAction where
  | call (event : TrackerEvent)
  | snapshot
  | copied (allocation : ActiveAllocation)

/-- Where the hook is: before its snapshot, or before the copies of some entries. -/
inductive DumpPc where
  | begun
  | copying (rest : List ActiveAllocation)

/-- The tracker and the place of the thread which makes the dump. -/
structure DumpState where
  tracker : AllocationTracker
  pc : DumpPc

/-- An empty tracker, and a dump which has not taken its snapshot. -/
def DumpState.initial : DumpState := ⟨AllocationTracker.empty, .begun⟩

variable (build : CaptureBuild) (machine : CaptureMachine)

/-- The lock of the tracker is held for one step only, so the steps of the threads
    interleave in any order. -/
inductive DumpStep : DumpState → DumpAction → DumpState → Prop where
  | call {s : DumpState} (event : TrackerEvent) :
    DumpStep s (.call event) ⟨event.apply build s.tracker, s.pc⟩
  | snapshot {s : DumpState} (hpc : s.pc = .begun) :
    DumpStep s .snapshot ⟨(s.tracker.snapshot build.compiler_plugins).2,
      .copying (s.tracker.snapshot build.compiler_plugins).1.allocations⟩
  | copied {s : DumpState} {allocation : ActiveAllocation} {rest : List ActiveAllocation}
      (hpc : s.pc = .copying (allocation :: rest)) :
    DumpStep s (.copied allocation) ⟨s.tracker, .copying rest⟩

/-- What an action does to the tracker, if anything. -/
def DumpAction.tracker_event : DumpAction → Option TrackerEvent
  | .call event => some event
  | .snapshot => some .snapshot
  | .copied _ => none

/-- The allocation whose bytes an action copies. -/
def DumpAction.copied_allocation : DumpAction → Option ActiveAllocation
  | .copied allocation => some allocation
  | _ => none

/-- The calls which have reached the tracker. -/
def tracker_calls (actions : List DumpAction) : List TrackerEvent := actions.filterMap DumpAction.tracker_event

/-- The entries which have been copied. -/
def copied_entries (actions : List DumpAction) : List ActiveAllocation :=
  actions.filterMap DumpAction.copied_allocation

/-- The call is a deallocation, after which the memory is freed. -/
def TrackerEvent.Deallocates (event : TrackerEvent) (key : String × Pointer) : Prop :=
  ∃ space label size, event = .deallocate_data space label key.2 size ∧ space.space = key.1

/-- The step is the call which deallocates the memory at a space and a pointer. -/
def DumpAction.Deallocates (action : DumpAction) (key : String × Pointer) : Prop :=
  ∃ event, action = .call event ∧ event.Deallocates key

/-- An allocation is live and, in a build with plugins, used after some calls. -/
def InUse (calls : List TrackerEvent) (allocation : ActiveAllocation) : Prop :=
  live build calls allocation.key = some allocation.record ∧
    (build.compiler_plugins = true → ∃ q, Registered calls allocation.record.space q ∧
      allocation.record.p_data ≤ q ∧ q ≤ allocation.record.p_data + allocation.record.size)

/-- If the action copies the bytes of an allocation, and the build reads them from memory, the
    memory was not deallocated between the snapshot and the copy. -/
def CopiesLive (before : List DumpAction) (action : DumpAction) : Prop :=
  ∀ allocation earlier later, action = .copied allocation → reads_memory machine allocation = true →
    before = earlier ++ .snapshot :: later → ∀ other ∈ later, ¬ other.Deallocates allocation.key

/-- No call of `during` deallocates an allocation which is in use after the calls
    of `before` and whose bytes the build can read. -/
def Spares (before during : List TrackerEvent) : Prop :=
  ∀ event ∈ during, ∀ allocation, InUse build before allocation → reads_memory machine allocation = true →
    ¬ event.Deallocates allocation.key

/-- The calls between the snapshot of a hook and its copies spare what is in use
    at the snapshot, whichever entries were copied before them. -/
def Undisturbed (actions : List DumpAction) : Prop :=
  ∀ earlier later last after, actions = earlier ++ .snapshot :: (later ++ .copied last :: after) →
    Spares build machine (tracker_calls earlier) (tracker_calls later)

/-- The steps of a hook up to its last copy, with the calls of `before` in front
    of its snapshot and those of `during` anywhere behind it. -/
def Interleaves (before during : List TrackerEvent) (actions : List DumpAction) : Prop :=
  ∃ earlier later last, actions = earlier ++ .snapshot :: (later ++ [.copied last]) ∧
    tracker_calls earlier = before ∧ tracker_calls later = during

section

variable {build machine} {actions : List DumpAction} {s : DumpState}

/-- The memory of an entry is read by the copy of its range, and by nothing else. -/
theorem copy_allocation_bytes_eq (machine : CaptureMachine) (allocation : ActiveAllocation) :
    if reads_memory machine allocation = true then
      copy_allocation_bytes machine allocation =
        copy_range machine allocation.record.space allocation.record.p_data allocation.record.size
    else (copy_allocation_bytes machine allocation).2 = [] := by
  have hstaging : (machine.resize_error allocation.record.size).isNone = true ↔
      allocate_staging_buffer machine allocation = "" := by
    rw [allocate_staging_buffer_eq_empty, Option.isNone_iff_eq_none]
  split
  · next hreads =>
    simp only [reads_memory, Bool.and_eq_true, Bool.or_eq_true, hstaging, bne_iff_ne, ne_eq] at hreads
    obtain ⟨⟨⟨⟨⟨⟨hknown, hsize⟩, hspace⟩, hcuda⟩, hhip⟩, hreason⟩, hdata⟩ := hreads
    simp only [copy_allocation_bytes, hknown, Bool.not_true, Bool.false_eq_true, hsize, if_false, hreason, ne_eq,
      not_true_eq_false, hdata]
    rw [if_neg, if_neg, if_neg]
    · grind
    · grind
    · grind
  · next hreads =>
    unfold copy_allocation_bytes
    dsimp only
    split_ifs with hknown hsize hspace hcuda hhip hreason hdata
    · rfl
    · rfl
    · rfl
    · rfl
    · rfl
    · rfl
    · rfl
    · refine absurd ?_ hreads
      simp only [reads_memory, Bool.and_eq_true, Bool.or_eq_true, hstaging, bne_iff_ne, ne_eq]
      refine ⟨⟨⟨⟨⟨⟨?_, hsize⟩, ?_⟩, ?_⟩, ?_⟩, not_not.mp hreason⟩, hdata⟩ <;> grind

theorem tracker_calls_concat (actions : List DumpAction) (action : DumpAction) :
    tracker_calls (actions ++ [action]) = tracker_calls actions ++ action.tracker_event.toList := by
  unfold tracker_calls
  rw [List.filterMap_append]
  cases haction : action.tracker_event <;> simp [haction]

theorem copied_entries_concat (actions : List DumpAction) (action : DumpAction) :
    copied_entries (actions ++ [action]) = copied_entries actions ++ action.copied_allocation.toList := by
  unfold copied_entries
  rw [List.filterMap_append]
  cases haction : action.copied_allocation <;> simp [haction]

theorem mem_copied_entries {allocation : ActiveAllocation} :
    allocation ∈ copied_entries actions ↔ .copied allocation ∈ actions := by
  simp only [copied_entries, List.mem_filterMap]
  constructor
  · rintro ⟨action, haction, hcopied⟩
    cases action with
    | copied other =>
      cases hcopied
      exact haction
    | _ => cases hcopied
  · intro hmem
    exact ⟨.copied allocation, hmem, rfl⟩

/-- The snapshot was taken once, and its entries are copied in turn. -/
structure Snapshotted (build : CaptureBuild) (actions : List DumpAction) (rest : List ActiveAllocation)
    (earlier later : List DumpAction) : Prop where
  split : actions = earlier ++ .snapshot :: later
  first : .snapshot ∉ earlier
  last : .snapshot ∉ later
  uncopied : copied_entries earlier = []
  entries : copied_entries later ++ rest = (snapshot_after build (tracker_calls earlier)).allocations

/-- What a hook has done where it is. -/
def DumpPc.Reached (build : CaptureBuild) (actions : List DumpAction) : DumpPc → Prop
  | .begun => .snapshot ∉ actions ∧ copied_entries actions = []
  | .copying rest => ∃ earlier later, Snapshotted build actions rest earlier later

/-- In a run the tracker is what the calls made of it, and the place of the hook agrees with its
    actions. -/
theorem reached_of_run (hrun : Run (DumpStep build) DumpState.initial actions s) :
    s.tracker = tracker_after build (tracker_calls actions) ∧ s.pc.Reached build actions := by
  induction hrun with
  | start => exact ⟨rfl, List.not_mem_nil, rfl⟩
  | @step actions state next action _ hstep ih =>
    obtain ⟨htracker, hreached⟩ := ih
    cases hstep with
    | call event =>
      refine ⟨?_, ?_⟩
      · rw [tracker_calls_concat, DumpAction.tracker_event, Option.toList_some, tracker_after_concat, ← htracker]
      · cases hpc : state.pc with
        | begun =>
          rw [hpc] at hreached
          refine ⟨by simpa using hreached.1, ?_⟩
          rw [copied_entries_concat, hreached.2]
          rfl
        | copying rest =>
          rw [hpc] at hreached
          obtain ⟨earlier, later, hsnapshot⟩ := hreached
          refine ⟨earlier, later ++ [.call event], by simp [hsnapshot.split], hsnapshot.first,
            by simpa using hsnapshot.last, hsnapshot.uncopied, ?_⟩
          rw [copied_entries_concat, ← hsnapshot.entries]
          simp [DumpAction.copied_allocation]
    | snapshot hpc =>
      rw [hpc] at hreached
      refine ⟨?_, actions, [], rfl, hreached.1, List.not_mem_nil, hreached.2, ?_⟩
      · rw [tracker_calls_concat, DumpAction.tracker_event, Option.toList_some, tracker_after_concat, ← htracker]
        rfl
      · rw [snapshot_after, ← htracker]
        rfl
    | @copied allocation rest hpc =>
      rw [hpc] at hreached
      obtain ⟨earlier, later, hsnapshot⟩ := hreached
      refine ⟨?_, earlier, later ++ [.copied allocation], by simp [hsnapshot.split], hsnapshot.first,
        by simpa using hsnapshot.last, hsnapshot.uncopied, ?_⟩
      · rw [tracker_calls_concat, DumpAction.tracker_event, Option.toList_none, List.append_nil, htracker]
      · rw [copied_entries_concat, ← hsnapshot.entries]
        simp [DumpAction.copied_allocation]

/-- A run of a hook takes one snapshot. -/
theorem Snapshotted.unique {rest : List ActiveAllocation} {earlier later before after : List DumpAction}
    (hsnapshot : Snapshotted build actions rest earlier later)
    (hsplit : actions = before ++ .snapshot :: after) : before = earlier ∧ after = later := by
  rw [hsnapshot.split] at hsplit
  obtain ⟨rfl, _, rfl⟩ := (List.append_cons_inj_of_notMem hsnapshot.first hsnapshot.last).mp hsplit
  exact ⟨rfl, rfl⟩

/-- A run with a snapshot has it at one place, with what was copied of it behind it. -/
theorem snapshotted_of_mem (hrun : Run (DumpStep build) DumpState.initial actions s)
    (hmem : .snapshot ∈ actions) : ∃ rest earlier later, Snapshotted build actions rest earlier later := by
  obtain ⟨_, hreached⟩ := reached_of_run hrun
  cases hpc : s.pc with
  | begun =>
    rw [hpc] at hreached
    exact absurd hmem hreached.1
  | copying rest =>
    rw [hpc] at hreached
    obtain ⟨earlier, later, hsnapshot⟩ := hreached
    exact ⟨rest, earlier, later, hsnapshot⟩

/-- What was in use at the snapshot has been copied, or is still to be copied. -/
theorem Snapshotted.inUse {rest : List ActiveAllocation} {earlier later : List DumpAction}
    (hsnapshot : Snapshotted build actions rest earlier later) {allocation : ActiveAllocation} :
    InUse build (tracker_calls earlier) allocation ↔ .copied allocation ∈ later ∨ allocation ∈ rest := by
  rw [← mem_copied_entries, ← List.mem_append, hsnapshot.entries]
  exact mem_snapshot_after.symm

/-- Undisturbed copies read live memory. -/
theorem copiesLive_of_undisturbed (hrun : Run (DumpStep build) DumpState.initial actions s)
    (hundisturbed : Undisturbed build machine actions) : Throughout (CopiesLive machine) actions := by
  rintro before action after hactions allocation earlier later rfl hreads rfl other hother ⟨event, rfl, hfreed⟩
  have hsplit : actions = earlier ++ .snapshot :: (later ++ .copied allocation :: after) := by
    rw [hactions, List.append_assoc, List.cons_append]
  obtain ⟨rest, _, _, hsnapshot⟩ := snapshotted_of_mem hrun (hsplit ▸ by simp)
  obtain ⟨rfl, rfl⟩ := hsnapshot.unique hsplit
  have hused : InUse build (tracker_calls earlier) allocation := hsnapshot.inUse.mpr (Or.inl (by simp))
  have hcall : event ∈ tracker_calls later := List.mem_filterMap.mpr ⟨.call event, hother, rfl⟩
  exact hundisturbed earlier later allocation after hsplit event hcall allocation hused hreads hfreed

theorem tracker_calls_append (before after : List DumpAction) :
    tracker_calls (before ++ after) = tracker_calls before ++ tracker_calls after := List.filterMap_append

@[simp]
theorem tracker_calls_map_call (calls : List TrackerEvent) : tracker_calls (calls.map .call) = calls := by
  rw [tracker_calls, List.filterMap_map]
  exact List.filterMap_some

@[simp]
theorem tracker_calls_map_copied (entries : List ActiveAllocation) :
    tracker_calls (entries.map .copied) = [] := by
  rw [tracker_calls, List.filterMap_eq_nil_iff]
  intro action haction
  obtain ⟨entry, _, rfl⟩ := List.mem_map.mp haction
  rfl

/-- The other threads can make calls at any time. -/
theorem run_calls (hrun : Run (DumpStep build) DumpState.initial actions s) (calls : List TrackerEvent) :
    ∃ tracker, Run (DumpStep build) DumpState.initial (actions ++ calls.map .call) ⟨tracker, s.pc⟩ := by
  induction calls generalizing actions s with
  | nil => exact ⟨s.tracker, by simpa using hrun⟩
  | cons event rest ih =>
    obtain ⟨tracker, hrest⟩ := ih (hrun.step (.call event))
    exact ⟨tracker, by simpa using hrest⟩

/-- The hook can copy its entries at any time. -/
theorem run_copies {tracker : AllocationTracker} {entries : List ActiveAllocation}
    (hrun : Run (DumpStep build) DumpState.initial actions ⟨tracker, .copying entries⟩) :
    Run (DumpStep build) DumpState.initial (actions ++ entries.map .copied) ⟨tracker, .copying []⟩ := by
  induction entries generalizing actions with
  | nil => simpa using hrun
  | cons entry rest ih =>
    have hcopied := ih (hrun.step (.copied rfl))
    simpa using hcopied

/-- A hook can make all its copies behind the calls of `during`. -/
theorem run_delayed (build : CaptureBuild) (before during : List TrackerEvent) :
    ∃ tracker, Run (DumpStep build) DumpState.initial
      (before.map .call ++ .snapshot ::
        (during.map .call ++ (snapshot_after build before).allocations.map .copied))
      ⟨tracker, .copying []⟩ := by
  obtain ⟨tracker, hbefore⟩ := run_calls (.start : Run (DumpStep build) DumpState.initial [] _) before
  have htracker : tracker = tracker_after build (tracker_calls ([] ++ before.map .call)) :=
    (reached_of_run hbefore).1
  rw [List.nil_append, tracker_calls_map_call] at htracker
  subst htracker
  obtain ⟨tracker, hduring⟩ := run_calls (hbefore.step (.snapshot rfl)) during
  refine ⟨tracker, ?_⟩
  simpa [snapshot_after] using run_copies hduring

/-- Calls which all interleavings with a hook survive spare what it copies: one
    of the interleavings has every copy behind the calls. -/
theorem spares_of_copiesLive {before during : List TrackerEvent}
    (hall : ∀ actions s, Run (DumpStep build) DumpState.initial actions s → s.pc = .copying [] →
      Interleaves before during actions → Throughout (CopiesLive machine) actions) :
    Spares build machine before during := by
  intro event hevent allocation hused hreads hfreed
  have hmem : allocation ∈ (snapshot_after build before).allocations := mem_snapshot_after.mpr hused
  obtain ⟨tracker, hrun⟩ := run_delayed build before during
  have hinterleaves : Interleaves before during
      (before.map .call ++ .snapshot ::
        (during.map .call ++ (snapshot_after build before).allocations.map .copied)) := by
    obtain hnil | ⟨first, last, hlast⟩ := List.eq_nil_or_concat (snapshot_after build before).allocations
    · rw [hnil] at hmem
      cases hmem
    · refine ⟨before.map .call, during.map .call ++ first.map .copied, last, ?_, tracker_calls_map_call _, ?_⟩
      · simp [hlast]
      · simp [tracker_calls_append]
  have hlive := hall _ _ hrun rfl hinterleaves
  obtain ⟨start, finish, hentries⟩ := List.append_of_mem hmem
  refine hlive (before.map .call ++ .snapshot :: (during.map .call ++ start.map .copied)) (.copied allocation)
    (finish.map .copied) ?_ allocation (before.map .call) (during.map .call ++ start.map .copied) rfl hreads rfl
    (.call event) ?_ ⟨event, rfl, hfreed⟩
  · simp [hentries]
  · simp [hevent]

/-- The copies of a hook read live memory in every run whose calls between the
    snapshot and a copy deallocate nothing that was in use at the snapshot and can
    be read; and calls are safe in all their interleavings with the hook exactly
    if they deallocate nothing of this kind. -/
theorem copies_live_iff (build : CaptureBuild) (machine : CaptureMachine) :
    (∀ actions s, Run (DumpStep build) DumpState.initial actions s → Undisturbed build machine actions →
      Throughout (CopiesLive machine) actions) ∧
    ∀ before during,
      (∀ actions s, Run (DumpStep build) DumpState.initial actions s → s.pc = .copying [] →
        Interleaves before during actions → Throughout (CopiesLive machine) actions) ↔
      Spares build machine before during := by
  refine ⟨fun actions s => copiesLive_of_undisturbed, fun before during =>
    ⟨spares_of_copiesLive, fun hspares actions s hrun _ hinterleaves => ?_⟩⟩
  obtain ⟨earlier, later, last, hactions, rfl, rfl⟩ := hinterleaves
  apply copiesLive_of_undisturbed hrun
  intro earlier' later' last' after hsplit event hevent
  obtain ⟨rest, _, _, hsnapshot⟩ := snapshotted_of_mem hrun (hsplit ▸ by simp)
  obtain ⟨rfl, rfl⟩ := hsnapshot.unique hactions
  obtain ⟨rfl, hlater⟩ := hsnapshot.unique hsplit
  apply hspares
  -- The calls in front of any copy are among those in front of the last one.
  have hmem : event ∈ tracker_calls (later ++ [.copied last]) := by
    rw [← hlater, tracker_calls_append]
    exact List.mem_append_left _ hevent
  rw [tracker_calls_concat] at hmem
  simpa [DumpAction.tracker_event] using hmem

end

/-- The hooks of an allocation of 16 bytes on the host and of its deallocation. -/
def allocate_values : TrackerEvent := .allocate_data ⟨16, none, none⟩ ⟨"Host"⟩ (some "values") 4096 16

/-- The deallocation of the view `values` of 16 bytes at an address of the host. -/
def deallocate_values (ptr : Pointer) : TrackerEvent := .deallocate_data ⟨"Host"⟩ (some "values") ptr 16

/-- The allocation of `values` as the tracker has it. -/
def values_allocation : ActiveAllocation := ⟨4096, ⟨"values", "Host", 4224, 16, 16, true⟩⟩

/-- Another thread deallocates between the snapshot of a hook and its only copy. -/
def disturbed_actions (ptr : Pointer) : List DumpAction :=
  [.call allocate_values, .snapshot, .call (deallocate_values ptr), .copied values_allocation]

/-- The actions of the example are a run of the hook to its end, whatever is deallocated. -/
theorem disturbed_run (ptr : Pointer) :
    ∃ s, Run (DumpStep host_build) DumpState.initial (disturbed_actions ptr) s ∧ s.pc = .copying [] := by
  have hstart : Run (DumpStep host_build) DumpState.initial [] DumpState.initial := .start
  have hallocated := hstart.step (.call allocate_values)
  have hsnapshot := hallocated.step (.snapshot rfl)
  have hfreed := hsnapshot.step (.call (deallocate_values ptr))
  have hcopied := hfreed.step (@DumpStep.copied host_build _ values_allocation [] rfl)
  exact ⟨_, hcopied, rfl⟩

/-- Memory which is not part of the snapshot is freed between the snapshot and the copy, which
    disturbs nothing. -/
theorem copies_live_example :
    ∃ s, Run (DumpStep host_build) DumpState.initial (disturbed_actions 8192) s ∧
      Throughout (CopiesLive (host_capture fun _ => 0)) (disturbed_actions 8192) := by
  obtain ⟨s, hrun, hpc⟩ := disturbed_run 8192
  have hinterleaves : Interleaves [allocate_values] [deallocate_values 8192] (disturbed_actions 8192) :=
    ⟨[.call allocate_values], [.call (deallocate_values 8192)], values_allocation, rfl, rfl, rfl⟩
  refine ⟨s, hrun, ((copies_live_iff host_build (host_capture fun _ => 0)).2 [allocate_values]
    [deallocate_values 8192]).mpr ?_ _ s hrun hpc hinterleaves⟩
  rintro event hevent allocation ⟨hlive, _⟩ _ ⟨space, label, size, rfl, hspace⟩
  have hkey : allocation.key = ("Host", 8192) := by
    simp only [deallocate_values, List.mem_singleton, TrackerEvent.deallocate_data.injEq] at hevent
    obtain ⟨rfl, _, hptr, _⟩ := hevent
    exact Prod.ext hspace.symm hptr
  have hnone : live host_build [allocate_values] ("Host", 8192) = none := by decide
  rw [hkey, hnone] at hlive
  cases hlive

/-- The memory of the snapshot is freed between the snapshot and the copy, which then reads it. -/
theorem freed_memory_read :
    ∃ s, Run (DumpStep host_build) DumpState.initial (disturbed_actions 4096) s ∧ s.pc = .copying [] ∧
      ¬ Throughout (CopiesLive (host_capture fun _ => 0)) (disturbed_actions 4096) := by
  obtain ⟨s, hrun, hpc⟩ := disturbed_run 4096
  refine ⟨s, hrun, hpc, fun hlive => ?_⟩
  refine hlive [.call allocate_values, .snapshot, .call (deallocate_values 4096)] (.copied values_allocation) [] rfl
    values_allocation [.call allocate_values] [.call (deallocate_values 4096)] rfl (by decide) rfl
    (.call (deallocate_values 4096)) (List.mem_singleton_self _) ?_
  exact ⟨_, rfl, ⟨"Host"⟩, some "values", 16, rfl, by decide⟩

end krepe
