import Mathlib.Data.List.Induction
import Krepe.Capture.KokkosHooks.Steps

open std transition

namespace krepe

/-- The identifier which an event takes from the counter of kernels. -/
def Event.fetched_id : Event → Option Nat
  | .fetched id => some id
  | _ => none

/-- The event creates a dump. -/
def Event.is_created : Event → Bool
  | .created _ _ => true
  | _ => false

/-- The event appends the output to a dump. -/
def Event.is_appended : Event → Bool
  | .appended _ _ _ => true
  | _ => false

/-- The `invocation`-th launch with the selected label, counted as launches were
    registered. -/
def SelectedLaunch (selection : DumpSelection) (log : List Event) (id : Nat) : Prop :=
  ∃ before launch after invocation, log = before ++ .registered launch :: after ∧ launch.id = id ∧
    selection.dump_kernel_label ≠ "" ∧ launch.kernel_label = selection.dump_kernel_label ∧
    selection.dump_kernel_invocation = some invocation ∧
    before.countP (registers selection.dump_kernel_label) + 1 = invocation

/-- What holds of the log after any interleaving: identifiers are fresh, the table has the
    pending kernels, one dump at most is created, and only by the selected launch, one output at
    most is appended, and to a dump that was created, and each snapshot comes after the fence
    that was set. -/
structure CapturesOnce {Thread : Type} (selection : DumpSelection) (initial : Fence)
    (s : System Thread) : Prop where
  fresh_ids : (s.log.filterMap Event.fetched_id).Nodup
  kernel_states : ∀ id, id ∈ s.hooks.kernel_states ↔ Pending s.log id
  created_once : s.log.countP Event.is_created ≤ 1
  created_selected : ∀ id result, .created id result ∈ s.log → SelectedLaunch selection s.log id
  selected_created : ∀ id, SelectedLaunch selection s.log id → .returned id ∈ s.log →
    ∃ result, .created id result ∈ s.log
  appended_once : s.log.countP Event.is_appended ≤ 1
  appended_created : ∀ before id filename result after,
    s.log = before ++ .appended id filename result :: after →
      ∃ created, .created id created ∈ before ∧ created.ok = true ∧ created.filename = filename
  /-- The fence function is read before each snapshot, and called if it is set. -/
  fenced_input : ∀ before id after, s.log = before ++ .snapshot id .input :: after →
    ∃ launch fence, .registered launch ∈ before ∧ launch.id = id ∧ .read_fence id fence ∈ before ∧
      (fence ≠ none → .fence id .input launch.device_id ∈ before)
  fenced_output : ∀ before id after, s.log = before ++ .snapshot id .output :: after →
    ∃ launch state fence, .registered launch ∈ before ∧ launch.id = id ∧
      .ended id state fence ∈ before ∧ state.dump_path ≠ "" ∧
      (fence ≠ none → .fence id .output launch.device_id ∈ before)
  reads : ∀ before id fence after, s.log = before ++ .read_fence id fence :: after →
    fence = current_fence initial before
  takes : ∀ before id state fence after, s.log = before ++ .ended id state fence :: after →
    fence = current_fence initial before

/-- No identifier is taken twice from the counter. -/
theorem fetched_nodup {selection : DumpSelection} {initial : Fence} {log : List Event}
    (hlog : Throughout (Allowed selection initial) log) : (log.filterMap Event.fetched_id).Nodup := by
  induction log using List.reverseRecOn with
  | nil => exact List.nodup_nil
  | append_singleton log event ih =>
    obtain ⟨hbefore, hevent⟩ := throughout_concat.mp hlog
    have hlast : [event].filterMap Event.fetched_id = event.fetched_id.toList := by cases event <;> rfl
    rw [List.filterMap_append, List.nodup_append, hlast]
    refine ⟨ih hbefore, by cases event.fetched_id <;> simp, fun id hid other hother heq => ?_⟩
    obtain ⟨earlier, hearlier, hfetched⟩ := List.mem_filterMap.mp hid
    rw [Option.mem_toList, ← heq] at hother
    cases event with
    | fetched last =>
      cases earlier with
      | fetched first =>
        cases hfetched
        cases hother
        exact hevent hearlier
      | _ => cases hfetched
    | _ => cases hother

/-- An event of a kind is in a history once, if none is allowed after another. -/
theorem countP_le_one {Event : Type} {Allowed : List Event → Event → Prop} {kind : Event → Bool}
    {log : List Event} (hlog : Throughout Allowed log)
    (honce : ∀ before event, Throughout Allowed before → Allowed before event → kind event = true →
      before.countP kind = 0) : log.countP kind ≤ 1 := by
  induction log using List.reverseRecOn with
  | nil => exact Nat.zero_le _
  | append_singleton log event ih =>
    obtain ⟨hbefore, hevent⟩ := throughout_concat.mp hlog
    rw [List.countP_append]
    by_cases hkind : kind event = true
    · rw [honce log event hbefore hevent hkind, List.countP_cons_of_pos hkind]
      simp
    · rw [List.countP_cons_of_neg hkind]
      simpa using ih hbefore

/-- A registered launch with the selected label and invocation is the selected one. -/
theorem selectedLaunch_of_selected {selection : DumpSelection} {initial : Fence} {log : List Event}
    (hlog : Throughout (Allowed selection initial) log) {launch : Launch}
    (hlaunch : .registered launch ∈ log) (hselected : launch.Selected selection) :
    SelectedLaunch selection log launch.id := by
  obtain ⟨before, after, hsplit, _, _, hcount⟩ := hlog.of_mem hlaunch
  obtain ⟨hnonempty, hlabel, hinvocation⟩ := hselected.eq
  refine ⟨before, launch, after, launch.invocation, hsplit, rfl, hnonempty, hlabel, hinvocation, ?_⟩
  rw [← hlabel, hcount]

/-- The selected launch was registered with the selected label and invocation. -/
theorem SelectedLaunch.selected {selection : DumpSelection} {initial : Fence} {log : List Event} {id : Nat}
    (hlog : Throughout (Allowed selection initial) log) (hselected : SelectedLaunch selection log id) :
    ∃ launch, .registered launch ∈ log ∧ launch.id = id ∧ launch.Selected selection := by
  obtain ⟨before, launch, after, invocation, hsplit, hid, hnonempty, hlabel, hinvocation, hcount⟩ := hselected
  refine ⟨launch, by simp [hsplit], hid, ?_⟩
  obtain ⟨_, _, hnumber⟩ := hlog before (.registered launch) after hsplit
  rw [hlabel, hcount] at hnumber
  simp [Launch.Selected, should_dump_views_for_invocation, should_dump_views_for_label, hnonempty, hlabel,
    hinvocation, hnumber]

/-- A launch is registered once, so its id tells which it is. -/
theorem registered_unique {selection : DumpSelection} {initial : Fence} {log : List Event}
    (hlog : Throughout (Allowed selection initial) log) {launch other : Launch}
    (hlaunch : .registered launch ∈ log) (hother : .registered other ∈ log)
    (hid : launch.id = other.id) : launch = other := by
  induction log using List.reverseRecOn with
  | nil => cases hlaunch
  | append_singleton log event ih =>
    obtain ⟨hbefore, hevent⟩ := throughout_concat.mp hlog
    rw [List.mem_append, List.mem_singleton] at hlaunch hother
    cases hlaunch with
    | inl hlaunch =>
      cases hother with
      | inl hother => exact ih hbefore hlaunch hother
      | inr hlast =>
        rw [← hlast] at hevent
        exact absurd hid (hevent.2.1 launch hlaunch)
    | inr hlast =>
      cases hother with
      | inl hother =>
        rw [← hlast] at hevent
        exact absurd hid.symm (hevent.2.1 other hother)
      | inr hlast' => exact Event.registered.inj (hlast.trans hlast'.symm)

/-- For every interleaving of begin and end hooks from any number of threads: identifiers are
    fresh and the table has the kernels between their hooks; at most one dump is created, by the
    selected launch and by no other; an output is appended at most once, to a dump which was
    created; and the fence is called before each snapshot if it is set. -/
theorem captures_once {Thread : Type} [DecidableEq Thread] (selection : DumpSelection) (initial : Fence)
    {actions : List (Action Thread)} {s : System Thread}
    (hrun : Run (Step selection) (System.initial initial) actions s) :
    CapturesOnce selection initial s := by
  have hinv := run_invariant hrun
  have hlog := hinv.log
  refine ⟨fetched_nodup hlog, hinv.pending, ?_, ?_, ?_, ?_, ?_, ?_, ?_, ?_, ?_⟩
  · apply countP_le_one hlog
    intro before event hbefore hevent hkind
    cases event with
    | created id result =>
      obtain ⟨launch, hlaunch, rfl, hselected, hfirst⟩ := hevent
      rw [List.countP_eq_zero]
      intro earlier hearlier hcreated
      cases earlier with
      | created other result' =>
        -- An earlier dump would be of the same launch.
        obtain ⟨launch', hlaunch', rfl, hselected'⟩ := created_selected hbefore hearlier
        rw [selected_unique hbefore hlaunch' hselected' hlaunch hselected] at hearlier
        exact hfirst result' hearlier
      | _ => cases hcreated
    | _ => cases hkind
  · intro id result hcreated
    obtain ⟨launch, hlaunch, rfl, hselected⟩ := created_selected hlog hcreated
    exact selectedLaunch_of_selected hlog hlaunch hselected
  · intro id hselected hreturned
    obtain ⟨launch, hlaunch, hid, hchosen⟩ := hselected.selected hlog
    obtain ⟨before, after, hsplit, launch', hlaunch', hid', hcreated⟩ := hlog.of_mem hreturned
    have hmem : Event.registered launch' ∈ s.log := hsplit ▸ List.mem_append_left _ hlaunch'
    rw [registered_unique hlog hlaunch hmem (hid.trans hid'.symm)] at hchosen
    obtain ⟨result, hresult⟩ := hcreated hchosen
    exact ⟨result, hsplit ▸ List.mem_append_left _ hresult⟩
  · apply countP_le_one hlog
    intro before event hbefore hevent hkind
    cases event with
    | appended id filename result =>
      rw [List.countP_eq_zero]
      intro earlier hearlier happended
      cases earlier with
      | appended other filename' result' => exact hevent.2 other filename' result' hearlier
      | _ => cases happended
    | _ => cases hkind
  · intro before id filename result after hsplit
    obtain ⟨⟨state, fence, hended, hpath, rfl⟩, _⟩ := hlog before _ after hsplit
    obtain ⟨earlier, later, rfl, _, hstate⟩ := (hsplit ▸ hlog).of_append.of_mem hended
    obtain ⟨_, created, hcreated, hok, hfilename⟩ := hstate hpath
    exact ⟨created, List.mem_append_left _ hcreated, hok, hfilename⟩
  · intro before id after hsplit
    exact hlog before _ after hsplit
  · intro before id after hsplit
    obtain ⟨state, fence, hended, hpath, hfenced⟩ := hlog before _ after hsplit
    obtain ⟨earlier, later, rfl, _, hstate⟩ := (hsplit ▸ hlog).of_append.of_mem hended
    obtain ⟨⟨launch, hlaunch, hid, hdevice⟩, _⟩ := hstate hpath
    exact ⟨launch, state, fence, List.mem_append_left _ hlaunch, hid, hended, hpath, hdevice ▸ hfenced⟩
  · intro before id fence after hsplit
    exact hlog before _ after hsplit
  · intro before id state fence after hsplit
    exact (hlog before _ after hsplit).1

/-- A thread launches the selected kernel, which is dumped, and ends it, which appends the
    output. -/
theorem captures_once_example :
    ∃ (actions : List (Action Unit)) (s : System Unit),
      Run (Step ⟨"axpy", some 1⟩) (System.initial (some 4096)) actions s ∧
        Event.appended 1 "krepe_axpy_1.h5" ⟨true, "krepe_axpy_1.h5", ""⟩ ∈ s.log ∧
        CapturesOnce ⟨"axpy", some 1⟩ (some 4096) s := by
  let launch : Launch := ⟨1, "axpy", 0, 1⟩
  let state : KernelState := ⟨0, 1, "krepe_axpy_1.h5"⟩
  let result : ViewDumpResult := ⟨true, "krepe_axpy_1.h5", ""⟩
  have hrun : Run (Step ⟨"axpy", some 1⟩) (System.initial (some 4096) : System Unit) []
      (System.initial (some 4096)) := .start
  have hbegin := hrun.step (@Step.begin Unit _ _ _ () .parallel_for (some "axpy") 0 rfl)
  have hregister := hbegin.step (@Step.register_selected Unit _ _ _ () ⟨1, "axpy", 0, 0⟩ rfl (by decide))
  have hread := hregister.step (@Step.read_fence Unit _ _ _ () launch rfl)
  have hfence := hread.step (@Step.begin_fence Unit _ _ _ () launch 4096 rfl)
  have hsnapshot := hfence.step (@Step.begin_snapshot Unit _ _ _ () launch rfl)
  have hcreate := hsnapshot.step (@Step.create Unit _ _ _ () launch result rfl)
  have hstore := hcreate.step (@Step.store Unit _ _ _ () launch result rfl)
  have hreturn := hstore.step (@Step.return Unit _ _ _ () launch rfl)
  have hend := hreturn.step (@Step.end_dumped Unit _ _ _ () .parallel_for 1 rfl
    (fun _ hbegins => hbegins.elim fun _ hlaunch => nomatch hlaunch.1) (by decide))
  have hendFence := hend.step (@Step.end_fence Unit _ _ _ () 1 state 4096 rfl)
  have hendSnapshot := hendFence.step (@Step.end_snapshot Unit _ _ _ () 1 state rfl)
  have happend := hendSnapshot.step (@Step.append Unit _ _ _ () 1 state result rfl)
  exact ⟨_, _, happend, List.mem_append_right _ (List.mem_singleton_self _), captures_once _ _ happend⟩

end krepe
