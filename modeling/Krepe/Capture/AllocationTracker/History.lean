import Mathlib.Data.List.Induction
import Krepe.Capture.AllocationTracker.Snapshot
import Krepe.Capture.KokkosHooks.Allocation

open std

namespace krepe

/-- The calls which reach the tracker. -/
inductive TrackerEvent where
  | allocate_data (queries : AllocationQueries) (space : SpaceHandle) (label : CString)
      (ptr : Pointer) (size : UInt64)
  | deallocate_data (space : SpaceHandle) (label : CString) (ptr : Pointer) (size : UInt64)
  | record_used_allocation (space : String) (ptr : Pointer)
  | clear_used_allocations
  | snapshot

variable (build : CaptureBuild)

/-- One event, made by the hook or the member function of the tracker it stands for. -/
def TrackerEvent.apply (event : TrackerEvent) (tracker : AllocationTracker) : AllocationTracker :=
  match event with
  | allocate_data queries space label ptr size =>
    kokkosp_allocate_data build queries space label ptr size tracker
  | deallocate_data space label ptr size => kokkosp_deallocate_data space label ptr size tracker
  | record_used_allocation space ptr => tracker.record_used_allocation space ptr
  | clear_used_allocations => tracker.clear_used_allocations
  | snapshot => (tracker.snapshot build.compiler_plugins).2

/-- The tracker after a history, from its initial state. -/
def tracker_after (history : List TrackerEvent) : AllocationTracker :=
  history.foldl (fun tracker event => event.apply build tracker) AllocationTracker.empty

/-- The snapshot which a history of events ends in. -/
def snapshot_after (history : List TrackerEvent) : AllocationSnapshot :=
  ((tracker_after build history).snapshot build.compiler_plugins).1

/-! What the calls say of the allocations is read off their arguments here,
apart from the functions which the hooks use for it. -/

/-- The characters of an array of `n` before its first null one; all of them if
    none is null. -/
def chars_up_to_null : Nat → List Char → List Char
  | 0, _ => []
  | _ + 1, [] => []
  | n + 1, c :: rest => if c = '\x00' then [] else c :: chars_up_to_null n rest

/-- The space which the 64 characters of a handle name. -/
def SpaceHandle.space (handle : SpaceHandle) : String :=
  String.ofList (chars_up_to_null 64 handle.name.toList)

/-- The label which an allocation is recorded with: the one it was made with, or
    a fixed one for the null pointer. -/
def given_label : CString → String
  | some label => label
  | none => "<unknown>"

/-- The beginnings of the labels of allocations which Kokkos makes for itself. -/
def internal_starts : List String :=
  ["Kokkos::", "HostSpace::", "CudaSpace::", "HIPSpace::", "SYCLSpace::", "OpenACCSpace::",
    "NextSiliconSpace::", "KOKKOS_", "kokkos."]

/-- A label begins with one of `internal_starts`. -/
def InternalLabel (label : String) : Prop :=
  ∃ start ∈ internal_starts, start.toList <+: label.toList

instance (label : String) : Decidable (InternalLabel label) :=
  inferInstanceAs (Decidable (∃ start ∈ internal_starts, start.toList <+: label.toList))

/-- The record of an allocation. Its data lies behind the header; the size is
    the one which `allocation_data_size` makes of the reported one, 0 where that
    is unknown. -/
def allocation_record (queries : AllocationQueries) (space : SpaceHandle) (label : CString)
    (ptr : Pointer) (size : UInt64) : AllocationRecord :=
  let p_data := ptr + build.allocation_header_size
  let data_size := allocation_data_size build queries space.space ptr p_data size
  ⟨given_label label, space.space, p_data, data_size.getD 0, size, data_size.isSome⟩

/-- What an event says about an allocation, if it is tracked: a record, or that
    there is none any more. An allocation is tracked if its pointer is not null
    and its label not internal, a deallocation if its pointer is not null. -/
def TrackerEvent.tracked : TrackerEvent → Option ((String × Pointer) × Option AllocationRecord)
  | allocate_data queries space label ptr size =>
    if ptr ≠ 0 ∧ ¬InternalLabel (given_label label) then
      some ((space.space, ptr), some (allocation_record build queries space label ptr size))
    else none
  | deallocate_data space _ ptr _ => if ptr ≠ 0 then some ((space.space, ptr), none) else none
  | _ => none

/-- The record of the last tracked event of a space and a pointer, if that event
    is an allocation. -/
def live (history : List TrackerEvent) (key : String × Pointer) : Option AllocationRecord :=
  ((history.filterMap (TrackerEvent.tracked build)).filter (·.1 = key)).getLast?.bind Prod.snd

/-- A pointer was registered for a space since the last time all were cleared. -/
def Registered (history : List TrackerEvent) (space : String) (q : Pointer) : Prop :=
  ∃ before after, history = before ++ .record_used_allocation space q :: after ∧
    TrackerEvent.clear_used_allocations ∉ after

variable {build}

theorem chars_up_to_null_eq (n : Nat) (chars : List Char) :
    chars_up_to_null n chars = (chars.take n).takeWhile (· ≠ '\x00') := by
  induction n generalizing chars with
  | zero => simp [chars_up_to_null]
  | succ n ih =>
    cases chars with
    | nil => simp [chars_up_to_null]
    | cons c rest =>
      by_cases hnull : c = '\x00'
      · simp [chars_up_to_null, hnull]
      · simp [chars_up_to_null, hnull, ih]

/-- The hooks read the name of a space up to its first null character. -/
theorem space_name_eq (handle : SpaceHandle) : space_name handle = handle.space := by
  rw [space_name, bounded_string, SpaceHandle.space, chars_up_to_null_eq]

theorem label_or_unknown_eq (label : CString) : label_or_unknown label = given_label label := by
  cases label <;> rfl

/-- The test on labels accepts the beginnings of `internal_starts` and no other. -/
theorem is_internal_label_iff (label : String) :
    is_internal_label label = true ↔ InternalLabel label := by
  simp only [is_internal_label, starts_with, Bool.or_eq_true, List.isPrefixOf_iff_prefix, or_assoc,
    InternalLabel, internal_starts, List.mem_cons, List.not_mem_nil, or_false,
    exists_eq_or_imp, exists_eq_left]

/-- The hook takes up exactly the allocations which are tracked. -/
theorem should_track_allocation_iff (label : CString) (ptr : Pointer) :
    should_track_allocation label ptr = true ↔ ptr ≠ 0 ∧ ¬InternalLabel (given_label label) := by
  rw [should_track_allocation, label_or_unknown_eq, Bool.and_eq_true, bne_iff_ne,
    Bool.not_eq_true', ← Bool.not_eq_true, is_internal_label_iff]

/-- What is live after one more event: only the key of an event which tracks something changes. -/
theorem live_concat (history : List TrackerEvent) (event : TrackerEvent) (key : String × Pointer) :
    live build (history ++ [event]) key =
      match event.tracked build with
      | none => live build history key
      | some (tracked, record) => if tracked = key then record else live build history key := by
  cases htracked : event.tracked build with
  | none => simp [live, htracked]
  | some entry =>
    obtain ⟨tracked, record⟩ := entry
    by_cases hkey : tracked = key
    · simp [live, htracked, hkey]
    · simp [live, htracked, hkey]

/-- A live record names the memory space it is found under. -/
theorem live_space {history : List TrackerEvent} {key : String × Pointer} {record : AllocationRecord}
    (hlive : live build history key = some record) : record.space = key.1 := by
  induction history using List.reverseRecOn with
  | nil => simp [live] at hlive
  | append_singleton history event ih =>
    rw [live_concat] at hlive
    split at hlive
    · exact ih hlive
    · next tracked found htracked =>
      by_cases hkey : tracked = key
      · rw [if_pos hkey] at hlive
        subst hkey
        cases event with
        | allocate_data queries space label ptr size =>
          simp only [TrackerEvent.tracked, Option.ite_none_right_eq_some, Option.some.injEq,
            Prod.mk.injEq] at htracked
          obtain ⟨_, rfl, rfl⟩ := htracked
          cases hlive
          rfl
        | deallocate_data space label ptr size =>
          simp only [TrackerEvent.tracked, Option.ite_none_right_eq_some, Option.some.injEq,
            Prod.mk.injEq] at htracked
          obtain ⟨_, _, rfl⟩ := htracked
          cases hlive
        | _ => cases htracked
      · rw [if_neg hkey] at hlive
        exact ih hlive

/-- What is registered after one more event: a recorded use is, and a clearing leaves nothing of
    before. -/
theorem registered_concat (history : List TrackerEvent) (event : TrackerEvent) (space : String)
    (q : Pointer) :
    Registered (history ++ [event]) space q ↔
      event = .record_used_allocation space q ∨
        event ≠ .clear_used_allocations ∧ Registered history space q := by
  constructor
  · rintro ⟨before, after, hhistory, hclear⟩
    induction after using List.reverseRecOn with
    | nil =>
      obtain ⟨_, hevent⟩ := List.append_inj' hhistory rfl
      exact .inl (by simpa using hevent)
    | append_singleton after last _ =>
      rw [← List.cons_append, ← List.append_assoc] at hhistory
      obtain ⟨hbefore, hlast⟩ := List.append_inj' hhistory rfl
      obtain rfl : event = last := by simpa using hlast
      rw [List.mem_append, not_or] at hclear
      exact .inr ⟨fun heq => hclear.2 (by simp [heq]), before, after, hbefore, hclear.1⟩
  · rintro (rfl | ⟨hclear, before, after, rfl, hafter⟩)
    · exact ⟨history, [], rfl, by simp⟩
    · refine ⟨before, after ++ [event], by simp, ?_⟩
      simp [hafter, hclear.symm]

/-- The tracker holds what its history says of allocations and of registered
    pointers. -/
structure Tracks (build : CaptureBuild) (history : List TrackerEvent) (tracker : AllocationTracker) :
    Prop where
  active : ∀ space ptr, tracker.active_record space ptr = live build history (space, ptr)
  used : ∀ space q, q ∈ tracker.used_pointers space ↔ Registered history space q

theorem Tracks.wellPlaced {history : List TrackerEvent} {tracker : AllocationTracker}
    (htracks : Tracks build history tracker) : tracker.WellPlaced := by
  intro space ptr record hrecord
  rw [htracks.active] at hrecord
  exact live_space hrecord

/-- Every call keeps the tracker in step with the history. -/
theorem Tracks.step {history : List TrackerEvent} {tracker : AllocationTracker}
    (htracks : Tracks build history tracker) (event : TrackerEvent) :
    Tracks build (history ++ [event]) (event.apply build tracker) := by
  constructor
  · intro space ptr
    rw [live_concat]
    cases event with
    | allocate_data queries handle label base size =>
      by_cases htrack : base ≠ 0 ∧ ¬InternalLabel (given_label label)
      · simp only [TrackerEvent.apply, kokkosp_allocate_data,
          (should_track_allocation_iff label base).mpr htrack, if_true, TrackerEvent.tracked,
          if_pos htrack, space_name_eq, label_or_unknown_eq, allocation_data_pointer,
          AllocationTracker.record_allocation_active_record _ _ _ _ _ _ _ _ _ _ htrack.1, htracks.active]
        rfl
      · have hskip : ¬should_track_allocation label base = true :=
          fun htaken => htrack ((should_track_allocation_iff label base).mp htaken)
        simp only [TrackerEvent.apply, kokkosp_allocate_data, if_neg hskip, TrackerEvent.tracked,
          if_neg htrack]
        exact htracks.active space ptr
    | deallocate_data handle label base size =>
      by_cases hbase : base = 0
      · simp only [TrackerEvent.apply, kokkosp_deallocate_data, TrackerEvent.tracked, hbase, ne_eq,
          not_true_eq_false, if_false]
        exact htracks.active space ptr
      · simp only [TrackerEvent.apply, kokkosp_deallocate_data, TrackerEvent.tracked, ne_eq, hbase,
          not_false_eq_true, if_true, space_name_eq,
          AllocationTracker.record_deallocation_active_record _ _ _ _ _ hbase, htracks.active]
    | record_used_allocation other q => exact htracks.active space ptr
    | clear_used_allocations => exact htracks.active space ptr
    | snapshot =>
      simp only [TrackerEvent.apply, TrackerEvent.tracked, AllocationTracker.snapshot]
      split
      · rw [AllocationTracker.snapshot_used_active_record, htracks.active]
      · exact htracks.active space ptr
  · intro space q
    rw [registered_concat, ← htracks.used]
    cases event with
    | allocate_data queries handle label base size =>
      simp only [TrackerEvent.apply, kokkosp_allocate_data]
      split <;> simp
    | deallocate_data handle label base size =>
      simp only [TrackerEvent.apply, kokkosp_deallocate_data]
      split <;> simp
    | record_used_allocation other p =>
      simp only [TrackerEvent.apply, AllocationTracker.mem_record_used_allocation,
        TrackerEvent.record_used_allocation.injEq, ne_eq, reduceCtorEq, not_false_eq_true, true_and]
    | clear_used_allocations =>
      simp [TrackerEvent.apply, AllocationTracker.clear_used_allocations_used_pointers]
    | snapshot =>
      simp only [TrackerEvent.apply, AllocationTracker.snapshot, reduceCtorEq, ne_eq, not_false_eq_true,
        true_and, false_or]
      split
      · exact (AllocationTracker.snapshot_used_pointers_perm tracker space).mem_iff
      · rfl

theorem tracker_after_concat (history : List TrackerEvent) (event : TrackerEvent) :
    tracker_after build (history ++ [event]) = event.apply build (tracker_after build history) := by
  simp [tracker_after]

/-- The tracker holds what the history says, by induction on the history. -/
theorem tracks_history (history : List TrackerEvent) :
    Tracks build history (tracker_after build history) := by
  induction history using List.reverseRecOn with
  | nil =>
    constructor
    · intro space ptr
      rfl
    · intro space q
      simp [tracker_after, AllocationTracker.used_pointers, AllocationTracker.empty, Registered]
  | append_singleton history event ih =>
    rw [tracker_after_concat]
    exact ih.step event

/-- The allocations of a snapshot, as the history determines them. -/
theorem mem_snapshot_after {history : List TrackerEvent} {allocation : ActiveAllocation} :
    allocation ∈ (snapshot_after build history).allocations ↔
      live build history allocation.key = some allocation.record ∧
        (build.compiler_plugins = true → ∃ q, Registered history allocation.record.space q ∧
          allocation.record.p_data ≤ q ∧
          q ≤ allocation.record.p_data + allocation.record.size) := by
  have htracks : Tracks build history (tracker_after build history) := tracks_history history
  have hkey : ∀ space, live build history (space, allocation.ptr) = some allocation.record →
      space = allocation.record.space := fun space hlive => (live_space hlive).symm
  cases hplugins : build.compiler_plugins with
  | false =>
    simp only [snapshot_after, AllocationTracker.snapshot, hplugins, Bool.false_eq_true, if_false,
      AllocationTracker.mem_snapshot_active, htracks.active, false_implies, and_true]
    constructor
    · rintro ⟨space, hlive⟩
      rwa [ActiveAllocation.key, ← hkey space hlive]
    · intro hlive
      exact ⟨_, hlive⟩
  | true =>
    simp only [snapshot_after, AllocationTracker.snapshot, hplugins, if_true, true_implies,
      AllocationTracker.mem_snapshot_used, htracks.active, AllocationTracker.Hit, htracks.used]
    constructor
    · rintro ⟨space, hlive, hhit⟩
      have hspace := hkey space hlive
      subst hspace
      exact ⟨hlive, hhit⟩
    · rintro ⟨hlive, hhit⟩
      exact ⟨_, hlive, hhit⟩

/-- A snapshot has at most one entry for each memory space and pointer. -/
theorem snapshot_after_nodup (history : List TrackerEvent) :
    ((snapshot_after build history).allocations.map ActiveAllocation.key).Nodup := by
  have hplaced : (tracker_after build history).WellPlaced := (tracks_history history).wellPlaced
  unfold snapshot_after AllocationTracker.snapshot
  split
  · exact AllocationTracker.snapshot_used_nodup hplaced
  · exact AllocationTracker.snapshot_active_nodup hplaced

/-- A sum of machine words wraps once, however many terms it has. -/
theorem toNat_sum (sizes : List UInt64) :
    sizes.sum.toNat = (sizes.map UInt64.toNat).sum % 2 ^ 64 := by
  induction sizes with
  | nil => rfl
  | cons size rest ih => simp [ih, UInt64.toNat_add]

/-- The bytes of a snapshot are the sum of the sizes of its entries, as a machine word. -/
theorem snapshot_after_active_bytes (history : List TrackerEvent) :
    (snapshot_after build history).active_bytes.toNat =
      ((snapshot_after build history).allocations.map (·.record.size.toNat)).sum % 2 ^ 64 := by
  rw [snapshot_after, AllocationTracker.snapshot_active_bytes, toNat_sum, List.map_map]
  rfl

/-- A snapshot within a history leaves no trace in what the history says. -/
theorem live_snapshot (history later : List TrackerEvent) (key : String × Pointer) :
    live build (history ++ .snapshot :: later) key = live build (history ++ later) key := by
  have hnone : TrackerEvent.snapshot.tracked build = none := rfl
  rw [live, live, List.filterMap_append, List.filterMap_append, List.filterMap_cons_none hnone]

/-- Taking a snapshot changes nothing in what is registered. -/
theorem registered_snapshot (history later : List TrackerEvent) (space : String) (q : Pointer) :
    Registered (history ++ .snapshot :: later) space q ↔ Registered (history ++ later) space q := by
  induction later using List.reverseRecOn with
  | nil =>
    rw [registered_concat, List.append_nil]
    simp
  | append_singleton later event ih =>
    rw [← List.cons_append, ← List.append_assoc, ← List.append_assoc, registered_concat,
      registered_concat, ih]

/-- What the snapshot after a history has to be: one entry for each memory space and pointer,
    which are the live records, with the plugins only those into which a registered pointer of
    their memory space points; the sum of their sizes; and the same whether or not a snapshot
    was taken in between. -/
structure SnapshotRefines (build : CaptureBuild) (history : List TrackerEvent) : Prop where
  once : ((snapshot_after build history).allocations.map ActiveAllocation.key).Nodup
  without_plugins : build.compiler_plugins = false → ∀ space ptr record,
    (⟨ptr, record⟩ ∈ (snapshot_after build history).allocations ∧ record.space = space) ↔
      live build history (space, ptr) = some record
  with_plugins : build.compiler_plugins = true → ∀ space ptr record,
    record.p_data.toNat + record.size.toNat < 2 ^ 64 →
    ((⟨ptr, record⟩ ∈ (snapshot_after build history).allocations ∧ record.space = space) ↔
      live build history (space, ptr) = some record ∧
        ∃ q, Registered history space q ∧ record.p_data.toNat ≤ q.toNat ∧
          q.toNat ≤ record.p_data.toNat + record.size.toNat)
  active_bytes : (snapshot_after build history).active_bytes.toNat =
    ((snapshot_after build history).allocations.map (·.record.size.toNat)).sum % 2 ^ 64
  /-- A snapshot in the middle changes no later one. -/
  unchanged : ∀ before later, history = before ++ later →
    (snapshot_after build (before ++ .snapshot :: later)).allocations.Perm
        (snapshot_after build history).allocations ∧
      (snapshot_after build (before ++ .snapshot :: later)).active_bytes =
        (snapshot_after build history).active_bytes

/-- For every build and every history of calls, the snapshot is the one of the abstract history.
    It has the live records, of which the build with plugins keeps those that a registered
    pointer of their memory space points into (where the data end in the address space); each
    memory space and pointer is there once, the bytes are the sum of the sizes, and earlier
    snapshots make no difference. -/
theorem snapshot_refines (build : CaptureBuild) (history : List TrackerEvent) :
    SnapshotRefines build history := by
  constructor
  · exact snapshot_after_nodup history
  · intro hplugins space ptr record
    rw [mem_snapshot_after, hplugins]
    constructor
    · rintro ⟨⟨hlive, _⟩, rfl⟩
      exact hlive
    · intro hlive
      have hspace : record.space = space := live_space hlive
      subst hspace
      exact ⟨⟨hlive, fun hfalse => nomatch hfalse⟩, rfl⟩
  · intro hplugins space ptr record hfit
    have hstop : (record.p_data + record.size).toNat = record.p_data.toNat + record.size.toNat := by
      rw [UInt64.toNat_add, Nat.mod_eq_of_lt hfit]
    simp only [mem_snapshot_after, hplugins, true_implies, UInt64.le_iff_toNat_le, hstop]
    constructor
    · rintro ⟨⟨hlive, hhit⟩, rfl⟩
      exact ⟨hlive, hhit⟩
    · rintro ⟨hlive, hhit⟩
      have hspace : record.space = space := live_space hlive
      subst hspace
      exact ⟨⟨hlive, hhit⟩, rfl⟩
  · exact snapshot_after_active_bytes history
  · rintro before later rfl
    have hperm : (snapshot_after build (before ++ .snapshot :: later)).allocations.Perm
        (snapshot_after build (before ++ later)).allocations := by
      apply (List.perm_ext_iff_of_nodup (snapshot_after_nodup _).of_map
        (snapshot_after_nodup _).of_map).mpr
      intro allocation
      simp only [mem_snapshot_after, live_snapshot, registered_snapshot]
    refine ⟨hperm, ?_⟩
    apply UInt64.toNat_inj.mp
    rw [snapshot_after_active_bytes, snapshot_after_active_bytes, (hperm.map _).sum_nat]

end krepe
