import Mathlib.Data.List.Find
import Krepe.OutputLookup

open std hdf5 outcome

namespace krepe

open impl

section

variable (machine : CaptureMachine) (done : List hdf5.Call) (position : ActiveAllocation × Nat)

/-- There is a dataset for the bytes of an output. -/
def BytesCreated : Prop :=
  .H5Dcreate2 (position_path "out" position) "bytes" .uchar
    [(copy_allocation_bytes machine position.1).2.length] ∈ done

/-- All the bytes of an output were written. -/
def BytesWritten : Prop :=
  let bytes := (copy_allocation_bytes machine position.1).2
  BytesCreated machine done position ∧
    (bytes = [] ∨ .H5Dwrite (position_path "out" position) "bytes" (.uchar bytes) ∈ done)

end

section

variable (machine : CaptureMachine) (replay : ReplayMachine) (allocations : List ActiveAllocation)
  (done : List hdf5.Call)

/-- An output is in the table for the key of another one, and all its bytes were written. -/
def WrittenLike (position other : ActiveAllocation × Nat) : Prop :=
  other ∈ allocations.zipIdx ∧ Keyed position.1.memory_space position.1.record.label other.1 ∧
    BytesWritten machine done other

/-- Of the groups which were made, the replayer visits one before another. -/
def VisitedBefore (position later : ActiveAllocation × Nat) : Prop :=
  [view_name position.1 position.2, view_name later.1 later.2].Sublist
    (replay.iteration_order ((begun_positions "out" allocations done).map fun position =>
      view_name position.1 position.2))

/-- An output whose bytes were not written is not found under its key: there is a complete
    one, and the dataset is read as empty, or a later one with bytes takes its place, or a
    complete one has as many zeros. -/
structure Hidden (position : ActiveAllocation × Nat) : Prop where
  written : ∃ other, WrittenLike machine allocations done position other
  replaced : ReadsEmpty position.1 ∨
    (∃ later ∈ allocations.zipIdx, Keyed position.1.memory_space position.1.record.label later.1 ∧
      BytesCreated machine done later ∧ ¬ ReadsEmpty later.1 ∧
      VisitedBefore replay allocations done position later) ∨
    ∃ other, WrittenLike machine allocations done position other ∧
      (copy_allocation_bytes machine other.1).2 = List.replicate position.1.record.size.toNat 0

/-- A guard has what was there before the append, and the output which it finds under a key
    is one whose bytes were all written. -/
structure Unspoiled (original guard : ScopeGuard) : Prop where
  memory : guard.memory = original.memory
  inputs : guard.allocations = original.allocations
  metadata : guard.metadata = original.metadata
  functor_data : guard.functor_data = original.functor_data
  nvcc_inner_lambda_data : guard.nvcc_inner_lambda_data = original.nvcc_inner_lambda_data
  replay_policy : guard.replay_policy = original.replay_policy
  outputs : ∀ memory_space label, guard.has_out_allocation replay memory_space label = .ok true →
    ∃ position ∈ allocations.zipIdx, Keyed memory_space label position.1 ∧ BytesWritten machine done position ∧
      guard.get_out_allocation replay memory_space label =
        .ok (if ReadsEmpty position.1 then none else some (copy_allocation_bytes machine position.1).2)

/-- No output which was begun stops a load, or is taken for a complete one. -/
structure Harmless : Prop where
  flags : ∀ position ∈ allocations.zipIdx,
    .H5Gcreate2 ScopeGuard.out_views (view_name position.1 position.2) ∈ done →
      .H5Acreate2 (position_path "out" position) "bytes_dumped" .int ∈ done
  datasets : ∀ position ∈ allocations.zipIdx,
    .H5Awrite (position_path "out" position) "bytes_dumped" (.int 1) ∈ done →
      BytesCreated machine done position
  readable : ∀ position ∈ allocations.zipIdx, BytesCreated machine done position →
    Readable position.1.record.size.toNat ∧ Available replay position.1
  bytes : ∀ position ∈ allocations.zipIdx, BytesCreated machine done position →
    ¬ BytesWritten machine done position → Hidden machine replay allocations done position

end

section

variable {machine : CaptureMachine} {replay : ReplayMachine} {snapshot : AllocationSnapshot}
  {done : List hdf5.Call} {position : ActiveAllocation × Nat}

/-- The dataset of an output is made after its flag, its flag after its group. -/
theorem begun_of_created (hposition : position ∈ snapshot.allocations.zipIdx)
    (hdone : done <+: write_snapshot machine "out" snapshot) (hcreated : BytesCreated machine done position) :
    Dumped machine position.1 ∧ .H5Awrite (position_path "out" position) "bytes_dumped" (.int 1) ∈ done := by
  obtain ⟨before, after, hallocations, hlength⟩ := split_of_mem_zipIdx hposition
  rw [BytesCreated, position_path, ← hlength] at hcreated
  rw [position_path, ← hlength]
  exact flag_of_bytes hallocations hdone hcreated

/-- An output whose flag was written has all that is written before the flag. -/
theorem begun_of_flag (hposition : position ∈ snapshot.allocations.zipIdx)
    (hdone : done <+: write_snapshot machine "out" snapshot)
    (hflag : .H5Awrite (position_path "out" position) "bytes_dumped" (.int 1) ∈ done) :
    .H5Acreate2 (position_path "out" position) "bytes_dumped" .int ∈ done ∧
      .H5Gcreate2 ScopeGuard.out_views (view_name position.1 position.2) ∈ done := by
  have hdumped := dumped_of_flag hposition hdone hflag
  obtain ⟨before, after, hallocations, hlength⟩ := split_of_mem_zipIdx hposition
  rw [position_path, ← hlength] at hflag
  rw [position_path, ← hlength]
  refine ⟨created_of_flag hallocations hdone (by simpa [hdumped] using hflag), ?_⟩
  exact group_of_read hallocations hdone (by simp [read_relevant, attr_relevant]) hflag

/-- An output is read with bytes if its dataset was created, and its size can be read. -/
theorem bytes_of_done_readable :
    (∃ bytes, bytes_of_done machine (position_path "out" position) position.1 done = some bytes ∧
        Readable bytes.length) ↔
      BytesCreated machine done position ∧ Readable (copy_allocation_bytes machine position.1).2.length := by
  unfold bytes_of_done BytesCreated
  dsimp only
  by_cases hcreated : .H5Dcreate2 (position_path "out" position) "bytes" .uchar
      [(copy_allocation_bytes machine position.1).2.length] ∈ done
  · rw [if_pos hcreated]
    split <;> simp [hcreated]
  · simp [hcreated]

/-- An output does not stop a load when its flag is there, and its bytes are when it is set. -/
theorem output_of_done_allocatable (hposition : position ∈ snapshot.allocations.zipIdx)
    (hdone : done <+: write_snapshot machine "out" snapshot) :
    (output_of_done machine (position_path "out" position) position.1 done).Allocatable replay ↔
      .H5Acreate2 (position_path "out" position) "bytes_dumped" .int ∈ done ∧
        (.H5Awrite (position_path "out" position) "bytes_dumped" (.int 1) ∈ done →
          BytesCreated machine done position ∧ Readable position.1.record.size.toNat ∧
            Available replay position.1) := by
  unfold output_of_done
  by_cases hflag : .H5Acreate2 (position_path "out" position) "bytes_dumped" .int ∈ done
  · by_cases hset : .H5Awrite (position_path "out" position) "bytes_dumped" (.int 1) ∈ done
    · have hdumped := dumped_of_flag hposition hdone hset
      rw [if_neg (not_not.mpr hflag), if_neg (not_not.mpr hset)]
      have hreadable := @bytes_of_done_readable machine done position
      rw [hdumped.bytes, memory_bytes_length] at hreadable
      refine (and_congr_left' hreadable).trans ?_
      rw [and_assoc]
      exact ⟨fun hgood => ⟨hflag, fun _ => hgood⟩, fun hgood => hgood.2 hset⟩
    · rw [if_neg (not_not.mpr hflag), if_pos hset]
      exact ⟨fun _ => ⟨hflag, fun hset' => absurd hset' hset⟩, fun _ => trivial⟩
  · rw [if_pos hflag]
    exact ⟨fun hfalse => hfalse.elim, fun hgood => absurd hgood.1 hflag⟩

/-- A created dataset is read as the bytes, or as zeros if they were not written. -/
theorem bytes_of_done_eq (hcreated : BytesCreated machine done position) :
    bytes_of_done machine (position_path "out" position) position.1 done =
      some (if .H5Dwrite (position_path "out" position) "bytes"
          (.uchar (copy_allocation_bytes machine position.1).2) ∈ done then
        (copy_allocation_bytes machine position.1).2
      else List.replicate (copy_allocation_bytes machine position.1).2.length 0) := by
  unfold BytesCreated at hcreated
  unfold bytes_of_done
  dsimp only
  rw [if_pos hcreated]
  split <;> rfl

/-- An output whose bytes were written is read with them. -/
theorem bytes_of_done_written (hwritten : BytesWritten machine done position) :
    bytes_of_done machine (position_path "out" position) position.1 done =
      some (copy_allocation_bytes machine position.1).2 := by
  rw [bytes_of_done_eq hwritten.1]
  split
  · rfl
  · next hnot =>
    rcases hwritten.2 with hempty | hwrite
    · rw [hempty]
      rfl
    · exact absurd hwrite hnot

/-- The dataset of an output is read as zeros until it is written. -/
theorem bytes_of_done_unwritten (hdumped : Dumped machine position.1) (hcreated : BytesCreated machine done position)
    (hnot : ¬ BytesWritten machine done position) :
    bytes_of_done machine (position_path "out" position) position.1 done =
      some (List.replicate position.1.record.size.toNat 0) := by
  rw [bytes_of_done_eq hcreated, if_neg fun hwrite => hnot ⟨hcreated, Or.inr hwrite⟩, hdumped.bytes,
    memory_bytes_length]

/-- What is read of an output which was begun has its size, and may be read as empty. -/
theorem data_of_done (hdumped : Dumped machine position.1) (hcreated : BytesCreated machine done position)
    (hreadable : Readable position.1.record.size.toNat) {bytes : List UInt8}
    (hbytes : bytes_of_done machine (position_path "out" position) position.1 done = some bytes) :
    (entry_of_done machine (position_path "out" position) position.1 done).data =
        (if ReadsEmpty position.1 then [] else bytes) ∧
      ((entry_of_done machine (position_path "out" position) position.1 done).data = [] ↔
        ReadsEmpty position.1) := by
  have hlength : bytes.length = position.1.record.size.toNat := by
    have hread := Option.some.inj (hbytes.symm.trans (bytes_of_done_eq hcreated))
    rw [hread, hdumped.bytes]
    split
    · exact memory_bytes_length _ _ _
    · rw [List.length_replicate, memory_bytes_length]
  have hdata : (entry_of_done machine (position_path "out" position) position.1 done).data =
      if ReadsEmpty position.1 then [] else bytes := by
    rw [Entry.data]
    simp only [entry_of_done, hbytes, hlength]
    by_cases hempty : ReadsEmpty position.1
    · rw [if_pos hempty]
      split
      · next hlt =>
        have hzero := Nat.eq_zero_of_dvd_of_lt hempty (by omega)
        exact List.eq_nil_of_length_eq_zero (hlength.trans hzero)
      · rfl
    · rw [if_neg hempty, if_pos (hreadable.resolve_right hempty)]
  refine ⟨hdata, ?_⟩
  rw [hdata]
  by_cases hempty : ReadsEmpty position.1
  · rw [if_pos hempty]
    exact ⟨fun _ => hempty, fun _ => rfl⟩
  · rw [if_neg hempty]
    refine ⟨fun hnil => absurd ?_ hempty, fun hno => absurd hno hempty⟩
    rw [ReadsEmpty, ← hlength, hnil]
    exact Nat.dvd_zero _

/-- The positions whose flag was set, as they are visited. -/
def flagged (order : List (ActiveAllocation × Nat)) (done : List hdf5.Call) : List (ActiveAllocation × Nat) :=
  order.filter fun position => .H5Awrite (position_path "out" position) "bytes_dumped" (.int 1) ∈ done

/-- The outputs which were begun are allocated as far as their flag was set. -/
theorem dumped_of_done {order : List (ActiveAllocation × Nat)}
    (hflags : ∀ position ∈ order, .H5Awrite (position_path "out" position) "bytes_dumped" (.int 1) ∈ done →
      .H5Acreate2 (position_path "out" position) "bytes_dumped" .int ∈ done) :
    dumped_entries (order.map fun position =>
        output_of_done machine (position_path "out" position) position.1 done) =
      (flagged order done).map fun position =>
        entry_of_done machine (position_path "out" position) position.1 done := by
  rw [dumped_entries, flagged, List.filterMap_map, ← List.filterMap_eq_map, List.filterMap_filter]
  refine List.filterMap_congr fun position hposition => ?_
  simp only [Function.comp_apply, output_of_done, decide_eq_true_iff]
  by_cases hset : .H5Awrite (position_path "out" position) "bytes_dumped" (.int 1) ∈ done
  · rw [if_neg (not_not.mpr (hflags position hposition hset)), if_neg (not_not.mpr hset), if_pos hset]
  · rw [if_neg hset]
    by_cases hflag : .H5Acreate2 (position_path "out" position) "bytes_dumped" .int ∈ done
    · rw [if_neg (not_not.mpr hflag), if_pos hset]
    · rw [if_pos hflag]

section

variable (hdone : done <+: write_snapshot machine "out" snapshot) {order : List (ActiveAllocation × Nat)}
  (horder : VisitsBegun replay "out" snapshot.allocations done order)

include hdone horder

/-- The outputs which a load looks at are those whose flag was written. -/
theorem mem_flagged :
    position ∈ flagged order done ↔ position ∈ snapshot.allocations.zipIdx ∧
      .H5Awrite (position_path "out" position) "bytes_dumped" (.int 1) ∈ done := by
  rw [flagged, List.mem_filter, decide_eq_true_iff, horder.mem]
  constructor
  · rintro ⟨⟨hposition, _⟩, hset⟩
    exact ⟨hposition, hset⟩
  · rintro ⟨hposition, hset⟩
    exact ⟨⟨hposition, (begun_of_flag hposition hdone hset).2⟩, hset⟩

omit hdone in
/-- A load looks at each output once. -/
theorem flagged_nodup : (flagged order done).Nodup :=
  (horder.perm.nodup_iff.mpr ((nodup_zipIdx _).filter _)).filter _

omit hdone in
/-- One output is visited before another if it comes first among those which a load looks at. -/
theorem visited_before_iff {later : ActiveAllocation × Nat} (hposition : position ∈ flagged order done)
    (hlater : later ∈ flagged order done) :
    VisitedBefore replay snapshot.allocations done position later ↔
      [position, later].Sublist (flagged order done) := by
  have hall : ∀ other ∈ order, other ∈ snapshot.allocations.zipIdx := fun other hother => (horder.mem.mp hother).1
  have hsub : (flagged order done).Sublist order := List.filter_sublist
  rw [VisitedBefore, horder.names]
  constructor
  · intro hnames
    obtain ⟨found, hfound, heq⟩ := List.sublist_map_iff.mp hnames
    obtain ⟨first, second, rfl⟩ : ∃ first second, found = [first, second] := by
      refine List.length_eq_two.mp ?_
      rw [← List.length_map, ← heq]
      rfl
    simp only [List.map_cons, List.map_nil, List.cons.injEq, and_true] at heq
    have hfirst := position_of_name (hall _ (hsub.subset hposition)) (hall _ (hfound.subset (by simp))) heq.1
    have hsecond := position_of_name (hall _ (hsub.subset hlater)) (hall _ (hfound.subset (by simp))) heq.2
    subst hfirst hsecond
    have hfiltered := hfound.filter fun position =>
      .H5Awrite (position_path "out" position) "bytes_dumped" (.int 1) ∈ done
    rwa [List.filter_eq_self.mpr] at hfiltered
    intro other hother
    rcases List.mem_pair.mp hother with rfl | rfl
    · exact (List.mem_filter.mp hposition).2
    · exact (List.mem_filter.mp hlater).2
  · intro hpair
    have hnames := List.Sublist.map (fun position : ActiveAllocation × Nat => view_name position.1 position.2)
      (hpair.trans hsub)
    simpa only [List.map_cons, List.map_nil] using hnames

variable {original : ScopeGuard} (hlabels : ∀ memory_space, original.output_labels memory_space = ∅)

include hlabels

/-- There is an output for a label where a flag was set. -/
theorem output_labels_of_done (memory_space : MemorySpaceType) (label : String) :
    label ∈ (allocate_entries original (dumped_entries (order.map fun position =>
        output_of_done machine (position_path "out" position) position.1 done))).output_labels memory_space ↔
      ∃ position ∈ flagged order done, Keyed memory_space label position.1 := by
  rw [allocate_entries_labels, hlabels, dumped_of_done fun position hposition hset =>
    (begun_of_flag (horder.mem.mp hposition).1 hdone hset).1]
  constructor
  · rintro (⟨entry, hentry, hkey⟩ | hempty)
    · obtain ⟨position, hposition, rfl⟩ := List.mem_map.mp hentry
      exact ⟨position, hposition, hkey⟩
    · exact absurd hempty (Finset.notMem_empty label)
  · rintro ⟨position, hposition, hkey⟩
    exact Or.inl ⟨_, List.mem_map_of_mem hposition, hkey⟩

end

/-- The last output of a key which is not read as empty. -/
def last_with_bytes (memory_space : MemorySpaceType) (label : String) (order : List (ActiveAllocation × Nat)) :
    Option (ActiveAllocation × Nat) :=
  order.reverse.find? fun position => Keyed memory_space label position.1 ∧ ¬ ReadsEmpty position.1

section

variable {memory_space : MemorySpaceType} {label : String} {order : List (ActiveAllocation × Nat)}
  {last : ActiveAllocation × Nat}

/-- No output of a label has bytes if all of them are read as empty. -/
theorem last_with_bytes_eq_none :
    last_with_bytes memory_space label order = none ↔
      ∀ position ∈ order, Keyed memory_space label position.1 → ReadsEmpty position.1 := by
  rw [last_with_bytes, List.find?_eq_none]
  simp only [List.mem_reverse, decide_eq_true_iff, not_and, not_not]

/-- Every other output of the key with bytes comes before the last one, and none after it. -/
theorem last_with_bytes_spec (hnodup : order.Nodup) (hlast : last_with_bytes memory_space label order = some last) :
    (last ∈ order ∧ Keyed memory_space label last.1 ∧ ¬ ReadsEmpty last.1) ∧
      (∀ other ∈ order, Keyed memory_space label other.1 → ¬ ReadsEmpty other.1 →
        other = last ∨ [other, last].Sublist order) ∧
      ∀ later, [last, later].Sublist order → Keyed memory_space label later.1 → ReadsEmpty later.1 := by
  obtain ⟨hfound, after, before, hreverse, hnone⟩ := List.find?_eq_some_iff_append.mp hlast
  have hsplit : order = before.reverse ++ last :: after.reverse := by
    rw [← List.reverse_reverse order, hreverse]
    simp
  have hrest : ∀ other ∈ after.reverse, Keyed memory_space label other.1 → ReadsEmpty other.1 := by
    intro other hother hkey
    simpa [hkey] using hnone other (List.mem_reverse.mp hother)
  refine ⟨⟨by simp [hsplit], of_decide_eq_true hfound⟩, fun other hother hkey hbytes => ?_,
    fun later hpair hkey => ?_⟩
  · rw [hsplit, List.mem_append, List.mem_cons] at hother
    rcases hother with hearlier | rfl | hlater
    · rw [hsplit]
      exact Or.inr ((List.singleton_sublist.mpr hearlier).append (List.singleton_sublist.mpr List.mem_cons_self))
    · exact Or.inl rfl
    · exact absurd (hrest other hlater hkey) hbytes
  · rw [hsplit] at hpair hnodup
    have hlast_notin : last ∉ before.reverse := fun hmem =>
      (List.disjoint_of_nodup_append hnodup) hmem List.mem_cons_self
    obtain ⟨first, second, hsame, hfirst, hsecond⟩ := List.sublist_append_iff.mp hpair
    cases first with
    | nil =>
      rw [List.nil_append] at hsame
      subst hsame
      exact hrest later (List.singleton_sublist.mp (List.cons_sublist_cons.mp hsecond)) hkey
    | cons head tail =>
      have hhead : last = head := (List.cons.inj hsame).1
      exact absurd (hfirst.subset (hhead ▸ List.mem_cons_self)) hlast_notin

end

section

variable (hdone : done <+: write_snapshot machine "out" snapshot) {order : List (ActiveAllocation × Nat)}
  (horder : VisitsBegun replay "out" snapshot.allocations done order)

include hdone horder

/-- No output stops a load where the ones which were begun are harmless. -/
theorem Harmless.allocatable (hharmless : Harmless machine replay snapshot.allocations done) :
    ∀ stored ∈ order.map (fun position =>
      output_of_done machine (position_path "out" position) position.1 done), stored.Allocatable replay := by
  intro stored hstored
  obtain ⟨position, hvisited, rfl⟩ := List.mem_map.mp hstored
  obtain ⟨hposition, hgroup⟩ := horder.mem.mp hvisited
  refine (output_of_done_allocatable hposition hdone).mpr ⟨hharmless.flags position hposition hgroup,
    fun hset => ?_⟩
  have hcreated := hharmless.datasets position hposition hset
  exact ⟨hcreated, hharmless.readable position hposition hcreated⟩

/-- Where a flag was set and a dataset made, the output is among those which are allocated. -/
theorem flagged_of_created (hposition : position ∈ snapshot.allocations.zipIdx)
    (hcreated : BytesCreated machine done position) :
    Dumped machine position.1 ∧ position ∈ flagged order done := by
  obtain ⟨hdumped, hset⟩ := begun_of_created hposition hdone hcreated
  exact ⟨hdumped, (mem_flagged hdone horder).mpr ⟨hposition, hset⟩⟩

variable {original : ScopeGuard} (hlabels : ∀ memory_space, original.output_labels memory_space = ∅)
  (houtputs : ∀ memory_space, original.output_allocations memory_space = ∅)
  (hcreated : ∀ position ∈ flagged order done, BytesCreated machine done position ∧
    Readable position.1.record.size.toNat)

include hcreated

/-- Where no output of a key has bytes, harmless calls have written an empty one of it. -/
theorem Harmless.written_of_none (hharmless : Harmless machine replay snapshot.allocations done)
    {memory_space : MemorySpaceType} {label : String} {keyed : ActiveAllocation × Nat}
    (hkeyed : keyed ∈ flagged order done) (hkey : Keyed memory_space label keyed.1)
    (hlast : last_with_bytes memory_space label (flagged order done) = none) :
    ∃ other ∈ snapshot.allocations.zipIdx, Keyed memory_space label other.1 ∧
      BytesWritten machine done other ∧ ReadsEmpty other.1 := by
  have hempty := last_with_bytes_eq_none.mp hlast
  have hmem := ((mem_flagged hdone horder).mp hkeyed).1
  by_cases hcomplete : BytesWritten machine done keyed
  · exact ⟨keyed, hmem, hkey, hcomplete, hempty keyed hkeyed hkey⟩
  · obtain ⟨other, hother, hsame, hwritten⟩ :=
      (hharmless.bytes keyed hmem (hcreated keyed hkeyed).1 hcomplete).written
    have hotherKey : Keyed memory_space label other.1 := ⟨hsame.1.trans hkey.1, hsame.2.trans hkey.2⟩
    have hflagged := (flagged_of_created hdone horder hother hwritten.1).2
    exact ⟨other, hother, hotherKey, hwritten, hempty other hflagged hotherKey⟩

/-- What is read of the last output of a key with bytes is what harmless calls have written of
    it, or of another one of the key. -/
theorem Harmless.written_of_some (hharmless : Harmless machine replay snapshot.allocations done)
    {memory_space : MemorySpaceType} {label : String} {last : ActiveAllocation × Nat}
    (hlast : last_with_bytes memory_space label (flagged order done) = some last) :
    ∃ other ∈ snapshot.allocations.zipIdx, Keyed memory_space label other.1 ∧
      BytesWritten machine done other ∧ ¬ ReadsEmpty other.1 ∧
        (entry_of_done machine (position_path "out" last) last.1 done).data =
          (copy_allocation_bytes machine other.1).2 := by
  obtain ⟨⟨hmem, hlastKey, hbytes⟩, _, hnone_later⟩ := last_with_bytes_spec (flagged_nodup horder) hlast
  obtain ⟨hlastCreated, hreadable⟩ := hcreated last hmem
  have hposition := ((mem_flagged hdone horder).mp hmem).1
  have hdumped := (begun_of_created hposition hdone hlastCreated).1
  have hsame_key : ∀ other : ActiveAllocation, Keyed last.1.memory_space last.1.record.label other →
      Keyed memory_space label other := fun other hsame =>
    ⟨hsame.1.trans hlastKey.1, hsame.2.trans hlastKey.2⟩
  by_cases hcomplete : BytesWritten machine done last
  · refine ⟨last, hposition, hlastKey, hcomplete, hbytes, ?_⟩
    rw [(data_of_done hdumped hlastCreated hreadable (bytes_of_done_written hcomplete)).1, if_neg hbytes]
  · obtain ⟨_, hreplaced⟩ := hharmless.bytes last hposition hlastCreated hcomplete
    rcases hreplaced with hempty | ⟨later, hlater, hlaterKey, hlaterCreated, hlaterBytes, hbefore⟩ |
      ⟨other, ⟨hother, hotherKey, hotherWritten⟩, hzeros⟩
    · exact absurd hempty hbytes
    · have hflagged := (flagged_of_created hdone horder hlater hlaterCreated).2
      exact absurd (hnone_later later ((visited_before_iff horder hmem hflagged).mp hbefore)
        (hsame_key later.1 hlaterKey)) hlaterBytes
    · have hotherDumped := (flagged_of_created hdone horder hother hotherWritten.1).1
      have hotherBytes : ¬ ReadsEmpty other.1 := by
        have hsize := congrArg List.length hzeros
        rw [hotherDumped.bytes, memory_bytes_length, List.length_replicate] at hsize
        rwa [ReadsEmpty, hsize]
      refine ⟨other, hother, hsame_key other.1 hotherKey, hotherWritten, hotherBytes, ?_⟩
      rw [(data_of_done hdumped hlastCreated hreadable
        (bytes_of_done_unwritten hdumped hlastCreated hcomplete)).1, if_neg hbytes, hzeros]

include houtputs

/-- Under a key the last output which is not read as empty is found. -/
theorem get_out_allocation_of_done {memory_space : MemorySpaceType}
    (hdevice : memory_space = .DEVICE → replay.has_device_space = true) (label : String) :
    (allocate_entries original (dumped_entries (order.map fun position =>
        output_of_done machine (position_path "out" position) position.1 done))).get_out_allocation
        replay memory_space label =
      .ok ((last_with_bytes memory_space label (flagged order done)).map fun position =>
        (entry_of_done machine (position_path "out" position) position.1 done).data) := by
  have hno : ¬ (memory_space = .DEVICE ∧ !replay.has_device_space) := by
    rintro ⟨htype, hhas⟩
    simp [hdevice htype] at hhas
  have hnone : AList.lookup label (original.output_allocations memory_space) = none := by
    rw [houtputs]
    exact AList.lookup_empty label
  have hlast : last_entry memory_space label (((flagged order done).map fun position =>
        entry_of_done machine (position_path "out" position) position.1 done).filter fun entry => entry.data ≠ []) =
      (last_with_bytes memory_space label (flagged order done)).map fun position =>
        entry_of_done machine (position_path "out" position) position.1 done := by
    rw [last_entry, ← List.filter_reverse, List.find?_filter, ← List.map_reverse, List.find?_map, last_with_bytes]
    refine congrArg _ (List.find?_congr fun position hposition => ?_)
    have hflagged := List.mem_reverse.mp hposition
    obtain ⟨hmade, hreadable⟩ := hcreated position hflagged
    have hdumped := (begun_of_created ((mem_flagged hdone horder).mp hflagged).1 hdone hmade).1
    have hnil := (data_of_done hdumped hmade hreadable (bytes_of_done_eq hmade)).2
    have hkey : ((entry_of_done machine (position_path "out" position) position.1 done).memory_space = memory_space ∧
        (entry_of_done machine (position_path "out" position) position.1 done).label = label) ↔
          Keyed memory_space label position.1 := Iff.rfl
    simp only [Function.comp_apply, decide_eq_true_eq, hkey, ne_eq, hnil]
    rw [decide_eq_decide]
    exact and_comm
  rw [ScopeGuard.get_out_allocation, if_neg hno, allocate_entries_lookup, hnone, Option.or_none,
    dumped_of_done fun position hposition hset => (begun_of_flag (horder.mem.mp hposition).1 hdone hset).1, hlast,
    Option.map_map]
  rfl

include hlabels

/-- Harmless calls leave the guard as it was, but for outputs which were completely written. -/
theorem Harmless.unspoiled (hharmless : Harmless machine replay snapshot.allocations done) :
    Unspoiled machine replay snapshot.allocations done original
      (allocate_entries original (dumped_entries (order.map fun position =>
        output_of_done machine (position_path "out" position) position.1 done))) := by
  have hrest := allocate_entries_rest original (dumped_entries (order.map fun position =>
    output_of_done machine (position_path "out" position) position.1 done))
  refine ⟨by rw [hrest], by rw [hrest], by rw [hrest], by rw [hrest], by rw [hrest], by rw [hrest],
    fun memory_space label hhas => ?_⟩
  obtain ⟨hdevice, hlabel⟩ := ScopeGuard.has_out_allocation_eq_true.mp hhas
  obtain ⟨keyed, hkeyed, hkey⟩ := (output_labels_of_done hdone horder hlabels memory_space label).mp hlabel
  rw [get_out_allocation_of_done hdone horder houtputs hcreated hdevice]
  cases hlast : last_with_bytes memory_space label (flagged order done) with
  | none =>
    obtain ⟨other, hother, hotherKey, hwritten, hempty⟩ :=
      hharmless.written_of_none hdone horder hcreated hkeyed hkey hlast
    refine ⟨other, hother, hotherKey, hwritten, ?_⟩
    rw [if_pos hempty]
    rfl
  | some last =>
    obtain ⟨other, hother, hotherKey, hwritten, hbytes, hdata⟩ :=
      hharmless.written_of_some hdone horder hcreated hlast
    refine ⟨other, hother, hotherKey, hwritten, ?_⟩
    rw [if_neg hbytes, Option.map_some, hdata]

/-- An output whose bytes were not written is hidden where what is found was written. -/
theorem Unspoiled.hidden
    (hunspoiled : Unspoiled machine replay snapshot.allocations done original
      (allocate_entries original (dumped_entries (order.map fun position =>
        output_of_done machine (position_path "out" position) position.1 done))))
    (hposition : position ∈ flagged order done) (hnot : ¬ BytesWritten machine done position)
    (hdevice : position.1.memory_space = .DEVICE → replay.has_device_space = true) :
    Hidden machine replay snapshot.allocations done position := by
  obtain ⟨other, hother, hotherKey, hotherWritten, hget⟩ := hunspoiled.outputs position.1.memory_space
    position.1.record.label (ScopeGuard.has_out_allocation_eq_true.mpr ⟨hdevice,
      (output_labels_of_done hdone horder hlabels _ _).mpr ⟨position, hposition, rfl, rfl⟩⟩)
  refine ⟨⟨other, hother, hotherKey, hotherWritten⟩, ?_⟩
  by_cases hempty : ReadsEmpty position.1
  · exact Or.inl hempty
  · obtain ⟨hmade, hreadable⟩ := hcreated position hposition
    have hdumped := (begun_of_created ((mem_flagged hdone horder).mp hposition).1 hdone hmade).1
    rw [get_out_allocation_of_done hdone horder houtputs hcreated hdevice, Except.ok.injEq] at hget
    cases hlast : last_with_bytes position.1.memory_space position.1.record.label (flagged order done) with
    | none => exact absurd (last_with_bytes_eq_none.mp hlast position hposition ⟨rfl, rfl⟩) hempty
    | some last =>
      obtain ⟨⟨hmem, hlastKey, hbytes⟩, hearlier, _⟩ := last_with_bytes_spec (flagged_nodup horder) hlast
      rcases hearlier position hposition ⟨rfl, rfl⟩ hempty with rfl | hpair
      · refine Or.inr (Or.inr ⟨other, ⟨hother, hotherKey, hotherWritten⟩, ?_⟩)
        rw [hlast, Option.map_some, (data_of_done hdumped hmade hreadable
          (bytes_of_done_unwritten hdumped hmade hnot)).1, if_neg hempty] at hget
        split at hget
        · cases hget
        · exact (Option.some.inj hget).symm
      · have hlater := ((mem_flagged hdone horder).mp hmem).1
        refine Or.inr (Or.inl ⟨last, hlater, hlastKey, (hcreated last hmem).1, hbytes, ?_⟩)
        exact (visited_before_iff horder hposition hmem).mpr hpair

omit hcreated in
/-- Outputs which were begun are harmless where they are all allocated, and only the
    complete ones are found. -/
theorem Unspoiled.harmless
    (hall : ∀ stored ∈ order.map (fun position =>
      output_of_done machine (position_path "out" position) position.1 done), stored.Allocatable replay)
    (hunspoiled : Unspoiled machine replay snapshot.allocations done original
      (allocate_entries original (dumped_entries (order.map fun position =>
        output_of_done machine (position_path "out" position) position.1 done)))) :
    Harmless machine replay snapshot.allocations done := by
  have hallocatable : ∀ position ∈ snapshot.allocations.zipIdx,
      .H5Gcreate2 ScopeGuard.out_views (view_name position.1 position.2) ∈ done →
      .H5Acreate2 (position_path "out" position) "bytes_dumped" .int ∈ done ∧
        (.H5Awrite (position_path "out" position) "bytes_dumped" (.int 1) ∈ done →
          BytesCreated machine done position ∧ Readable position.1.record.size.toNat ∧
            Available replay position.1) := fun position hposition hgroup =>
    (output_of_done_allocatable hposition hdone).mp
      (hall _ (List.mem_map_of_mem (horder.mem.mpr ⟨hposition, hgroup⟩)))
  have hset : ∀ position ∈ flagged order done, BytesCreated machine done position ∧
      Readable position.1.record.size.toNat ∧ Available replay position.1 := by
    intro position hflagged
    obtain ⟨hposition, hflag⟩ := (mem_flagged hdone horder).mp hflagged
    exact (hallocatable position hposition (begun_of_flag hposition hdone hflag).2).2 hflag
  have hcreated : ∀ position ∈ flagged order done, BytesCreated machine done position ∧
      Readable position.1.record.size.toNat := fun position hflagged =>
    ⟨(hset position hflagged).1, (hset position hflagged).2.1⟩
  refine ⟨fun position hposition hgroup => (hallocatable position hposition hgroup).1,
    fun position hposition hflag => (hset position ((mem_flagged hdone horder).mpr ⟨hposition, hflag⟩)).1,
    fun position hposition hmade => (hset position (flagged_of_created hdone horder hposition hmade).2).2,
    fun position hposition hmade hnot => ?_⟩
  have hflagged := (flagged_of_created hdone horder hposition hmade).2
  exact hunspoiled.hidden hdone horder hlabels houtputs hcreated hflagged hnot (hset position hflagged).2.2

end

/-- Outputs of which everything was written are harmless, if they can be read at all. -/
theorem harmless_of_snapshot
    (hreadable : ∀ allocation ∈ snapshot.allocations, Dumped machine allocation →
      Readable allocation.record.size.toNat ∧ Available replay allocation) :
    Harmless machine replay snapshot.allocations (write_snapshot machine "out" snapshot) where
  flags _ hposition _ := (flag_of_snapshot hposition).1
  datasets _ hposition hset := (written_of_snapshot hposition ((flag_of_snapshot hposition).2.mp hset)).1
  readable position hposition hcreated :=
    hreadable position.1 (List.fst_mem_of_mem_zipIdx hposition)
      (begun_of_created hposition (List.prefix_refl _) hcreated).1
  bytes _ hposition hcreated hnot :=
    absurd (written_of_snapshot hposition (begun_of_created hposition (List.prefix_refl _) hcreated).1) hnot

/-- After the first group was made, it has no flag yet. -/
theorem first_group_begun (active_bytes : UInt64) (allocation : ActiveAllocation)
    (rest : List ActiveAllocation) :
    let done := (write_snapshot machine "out" ⟨active_bytes, allocation :: rest⟩).take 13
    .H5Gcreate2 ScopeGuard.out_views (view_name allocation 0) ∈ done ∧
      .H5Acreate2 (position_path "out" (allocation, 0)) "bytes_dumped" .int ∉ done := by
  simp [write_snapshot, write_uint64_attribute, write_allocation_groups, write_allocation_group,
    ScopeGuard.out_views]

end

section

variable {before after : CaptureMachine} {replay : ReplayMachine} {system : DumpSystem} {dump : KernelDump}
  {output : KernelOutput} {file : File} {position : Nat} {original : ScopeGuard}

/-- A guard which was loaded from a dump alone has no outputs. -/
theorem no_outputs_of_load (hwritten : Written before after system dump none file)
    (hload : ScopeGuard.load replay file = .ok original) (memory_space : MemorySpaceType) :
    original.output_labels memory_space = ∅ ∧ original.output_allocations memory_space = ∅ := by
  rw [hwritten.stored.load] at hload
  obtain ⟨_, _, _, _, _, _, _, rfl⟩ := hwritten.load_input_ok hload
  exact ⟨congrFun (restore_entries_outputs _ _).1 memory_space,
    congrFun (restore_entries_outputs _ _).2 memory_space⟩

/-- After a failed append, the inputs are loaded as before, and then the outputs
    which were begun are visited. -/
theorem load_of_failed_append (hwritten : Written before after system dump none file)
    (hfailed : (append_kernel_output after system (some position) output file).1.ok = false)
    (replay : ReplayMachine) :
    let final := (append_kernel_output after system (some position) output file).2
    let done := (write_snapshot after "out" output.output_snapshot).take (position - 1)
    ScopeGuard.load_input replay final = ScopeGuard.load replay file ∧
      ∃ order, VisitsBegun replay "out" output.output_snapshot.allocations done order ∧
        LoadsOutputs replay final (order.map fun position =>
          output_of_done after (position_path "out" position) position.1 done) := by
  intro final done
  have hstored := hwritten.stored
  have hexec : exec done file = some final := append_calls_failed hstored hfailed
  have hdone : done <+: write_snapshot after "out" output.output_snapshot := List.take_prefix _ _
  obtain ⟨root, hroot, hlinks⟩ := hstored.root
  refine ⟨(load_input_of_done hdone hexec replay).trans (hstored.load replay).symm, ?_⟩
  exact loads_outputs_of_done hdone hexec (File.links?_of_group hroot) (by simp [hlinks]) hstored.free replay

/-- Let a dump be written and loaded, and let the append of its output fail at any call. The
    file which is left is loaded with the same inputs, metadata, functor and policy, and with no
    outputs but those which were completely written, if and only if the calls made before the
    fault are harmless: the groups which they began can be read, and none of them hides an
    output of its label that was written before it. -/
theorem failed_append_harmless (hwritten : Written before after system dump none file)
    (hready : replay.Ready) (hload : ScopeGuard.load replay file = .ok original)
    (hfailed : (append_kernel_output after system (some position) output file).1.ok = false) :
    let final := (append_kernel_output after system (some position) output file).2
    let done := (write_snapshot after "out" output.output_snapshot).take (position - 1)
    (∃ guard, ScopeGuard.load replay final = .ok guard ∧
        Unspoiled after replay output.output_snapshot.allocations done original guard) ↔
      Harmless after replay output.output_snapshot.allocations done := by
  intro final done
  have hdone : done <+: write_snapshot after "out" output.output_snapshot := List.take_prefix _ _
  have hlabels := fun memory_space => (no_outputs_of_load hwritten hload memory_space).1
  have houtputs := fun memory_space => (no_outputs_of_load hwritten hload memory_space).2
  obtain ⟨hinput, order, horder, hloads⟩ := load_of_failed_append hwritten hfailed replay
  rw [hload] at hinput
  constructor
  · rintro ⟨guard, hguard, hunspoiled⟩
    obtain ⟨restored, hrestored, houtput⟩ := bind_eq_ok.mp hguard
    cases hinput.symm.trans hrestored
    obtain ⟨hall, rfl⟩ := hloads.of_ok houtput
    exact hunspoiled.harmless hdone horder hlabels houtputs hall
  · intro hharmless
    have houtput := hloads.ready hready (hharmless.allocatable hdone horder) original
    have hcreated : ∀ position ∈ flagged order done, BytesCreated after done position ∧
        Readable position.1.record.size.toNat := by
      intro position hflagged
      obtain ⟨hposition, hset⟩ := (mem_flagged hdone horder).mp hflagged
      have hmade := hharmless.datasets position hposition hset
      exact ⟨hmade, (hharmless.readable position hposition hmade).1⟩
    exact ⟨_, bind_eq_ok.mpr ⟨original, hinput, houtput⟩,
      hharmless.unspoiled hdone horder hlabels houtputs hcreated⟩

/-- A group without a flag stops every load. -/
theorem flags_of_load (hwritten : Written before after system dump none file)
    (hfailed : (append_kernel_output after system (some position) output file).1.ok = false)
    {guard : ScopeGuard}
    (hload : ScopeGuard.load replay (append_kernel_output after system (some position) output file).2 =
      .ok guard) :
    let done := (write_snapshot after "out" output.output_snapshot).take (position - 1)
    ∀ position ∈ output.output_snapshot.allocations.zipIdx,
      .H5Gcreate2 ScopeGuard.out_views (view_name position.1 position.2) ∈ done →
      .H5Acreate2 (position_path "out" position) "bytes_dumped" .int ∈ done := by
  intro done position hposition hgroup
  obtain ⟨_, order, horder, hloads⟩ := load_of_failed_append hwritten hfailed replay
  obtain ⟨restored, _, houtput⟩ := bind_eq_ok.mp hload
  have hall := (hloads.of_ok houtput).1
  exact ((output_of_done_allocatable hposition (List.take_prefix _ _)).mp
    (hall _ (List.mem_map_of_mem (horder.mem.mpr ⟨hposition, hgroup⟩)))).1

end

/-- A dump with an input which is loaded. -/
theorem values_dump_loads :
    let file := (create_kernel_dump (host_capture fun _ => 0) plain_system none
      (plain_dump [host_allocation "values" 4352 3]) no_file).2
    Written (host_capture fun _ => 0) (host_capture fun _ => 7) plain_system
        (plain_dump [host_allocation "values" 4352 3]) none file ∧
      ∃ original, ScopeGuard.load host_replay file = .ok original := by
  intro file
  have hwritten : Written (host_capture fun _ => 0) (host_capture fun _ => 7) plain_system
      (plain_dump [host_allocation "values" 4352 3]) none file := dump_written _ _ rfl
  exact ⟨hwritten, small_host_loads (fun _ => 0) (fun _ => 7) (by decide)
    (fun _ hmem => absurd hmem List.not_mem_nil) hwritten⟩

/-- The outputs were written, and the fault comes when the file is closed: the load finds all of
    them. -/
theorem failed_append_harmless_example :
    let dump := plain_dump [host_allocation "values" 4352 3]
    let file := (create_kernel_dump (host_capture fun _ => 0) plain_system none dump no_file).2
    let output : KernelOutput := ⟨dump.input_snapshot, "krepe_kernel_0.h5"⟩
    let calls := write_snapshot (host_capture fun _ => 7) "out" output.output_snapshot
    let result := append_kernel_output (host_capture fun _ => 7) plain_system (some (calls.length + 1)) output file
    result.1.ok = false ∧ ∃ original guard, ScopeGuard.load host_replay file = .ok original ∧
      ScopeGuard.load host_replay result.2 = .ok guard ∧
      Unspoiled (host_capture fun _ => 7) host_replay dump.input_snapshot.allocations calls original guard := by
  intro dump file output calls result
  obtain ⟨hwritten, original, hload⟩ := values_dump_loads
  have hfailed : result.1.ok = false :=
    (append_calls_fault hwritten.stored (by simp [append_calls, calls])).1
  have hall : calls.take (calls.length + 1 - 1) = calls := List.take_length
  have hharmless : Harmless (host_capture fun _ => 7) host_replay dump.input_snapshot.allocations calls := by
    refine harmless_of_snapshot fun allocation hallocation _ => ?_
    rw [List.mem_singleton.mp hallocation]
    exact ⟨Or.inl (by decide), fun hdevice => absurd hdevice (by decide)⟩
  obtain ⟨guard, hguard, hunspoiled⟩ :=
    (failed_append_harmless hwritten host_replay_ready hload hfailed).mpr (hall.symm ▸ hharmless)
  exact ⟨hfailed, original, guard, hload, hguard, hall ▸ hunspoiled⟩

/-- The fault comes after the group of the first output was made and before it got an attribute:
    the dump was loaded before, and is not loaded any more. -/
theorem dump_spoiled :
    let dump := plain_dump [host_allocation "values" 4352 3]
    let file := (create_kernel_dump (host_capture fun _ => 0) plain_system none dump no_file).2
    let output : KernelOutput := ⟨dump.input_snapshot, "krepe_kernel_0.h5"⟩
    let result := append_kernel_output (host_capture fun _ => 7) plain_system (some 14) output file
    result.1.ok = false ∧ (∃ original, ScopeGuard.load host_replay file = .ok original) ∧
      ¬ ∃ guard, ScopeGuard.load host_replay result.2 = .ok guard := by
  intro dump file output result
  obtain ⟨hwritten, original, hload⟩ := values_dump_loads
  have hfailed : result.1.ok = false := (append_calls_fault hwritten.stored (by
    simp [append_calls, write_snapshot, write_uint64_attribute, output, dump, plain_dump,
      write_allocation_groups, write_allocation_group])).1
  refine ⟨hfailed, ⟨original, hload⟩, ?_⟩
  rintro ⟨guard, hguard⟩
  obtain ⟨hgroup, hflag⟩ := @first_group_begun (host_capture fun _ => 7) dump.input_snapshot.active_bytes
    (host_allocation "values" 4352 3) []
  exact hflag (flags_of_load hwritten hfailed hguard (host_allocation "values" 4352 3, 0)
    (List.mem_singleton_self _) hgroup)

end krepe
