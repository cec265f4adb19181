import Krepe.Capture.AllocationTracker.Records

open std

namespace krepe

/-- A snapshot with all of some allocations pushed in their order. -/
def AllocationSnapshot.push_all (snapshot : AllocationSnapshot) (allocations : List ActiveAllocation) :
    AllocationSnapshot :=
  ⟨snapshot.active_bytes + (allocations.map (·.record.size)).sum, snapshot.allocations ++ allocations⟩

theorem AllocationSnapshot.foldl_push (snapshot : AllocationSnapshot)
    (allocations : List ActiveAllocation) :
    allocations.foldl push snapshot = snapshot.push_all allocations := by
  induction allocations generalizing snapshot with
  | nil => simp [push_all]
  | cons allocation rest ih =>
    rw [List.foldl_cons, ih]
    simp [push_all, push, UInt64.add_assoc]

/-- The space and the address an allocation is tracked under. -/
def ActiveAllocation.key (allocation : ActiveAllocation) : String × Pointer :=
  (allocation.record.space, allocation.ptr)

namespace AllocationTracker

/-- The allocations of a bucket, in the order of its traversal. -/
def bucket_allocations (bucket : UnorderedMap Pointer AllocationRecord) : List ActiveAllocation :=
  bucket.entries.map fun entry => ⟨entry.1, entry.2⟩

/-- The allocations of a memory space are its records, with the pointers they are under. -/
theorem mem_bucket_allocations {bucket : UnorderedMap Pointer AllocationRecord}
    {allocation : ActiveAllocation} :
    allocation ∈ bucket_allocations bucket ↔ bucket.lookup allocation.ptr = some allocation.record := by
  rw [← UnorderedMap.mem_entries, bucket_allocations, List.mem_map]
  constructor
  · rintro ⟨entry, hentry, rfl⟩
    exact hentry
  · intro hentry
    exact ⟨_, hentry, rfl⟩

theorem bucket_allocations_nodup (bucket : UnorderedMap Pointer AllocationRecord) :
    ((bucket_allocations bucket).map (·.ptr)).Nodup := by
  have hkeys : (bucket_allocations bucket).map (·.ptr) = bucket.keys := by
    simp [bucket_allocations, AList.keys, List.keys]
  rw [hkeys]
  exact bucket.keys_nodup

/-- Some registered pointer lies in an allocation, its end included. -/
def Hit (pointers : List Pointer) (record : AllocationRecord) : Prop :=
  ∃ q ∈ pointers, record.p_data ≤ q ∧ q ≤ record.p_data + record.size

/-- On sorted pointers the first one not below the data decides for all. -/
theorem is_used_iff_hit {pointers : List Pointer} (hsorted : pointers.Pairwise (· ≤ ·))
    (record : AllocationRecord) : is_used pointers record = true ↔ Hit pointers record := by
  unfold is_used
  cases hfind : pointers.find? (record.p_data ≤ ·) with
  | none =>
    simp only [Bool.false_eq_true, false_iff]
    rintro ⟨q, hq, hlow, _⟩
    have hbelow := List.find?_eq_none.mp hfind q hq
    exact hbelow (by simpa using hlow)
  | some first =>
    have hfirst : record.p_data ≤ first := by simpa using List.find?_some hfind
    rw [decide_eq_true_iff]
    constructor
    · intro hhigh
      exact ⟨first, List.mem_of_find?_eq_some hfind, hfirst, hhigh⟩
    · rintro ⟨q, hq, hlow, hhigh⟩
      obtain ⟨_, before, after, rfl, hbefore⟩ := List.find?_eq_some_iff_append.mp hfind
      have hle : first ≤ q := by
        rcases List.mem_append.mp hq with hq | hq
        · exact absurd hlow (by simpa using hbefore q hq)
        · have htail := (List.pairwise_append.mp hsorted).2.1
          cases hq with
          | head => exact UInt64.le_refl _
          | tail _ hq => exact List.rel_of_pairwise_cons htail hq
      exact UInt64.le_trans hle hhigh

/-- The visit of a memory space pushes the allocations of it that are used, in their order. -/
theorem snapshot_bucket_eq (pointers : List Pointer) (bucket : UnorderedMap Pointer AllocationRecord)
    (snapshot : AllocationSnapshot) :
    snapshot_bucket pointers bucket snapshot =
      snapshot.push_all ((bucket_allocations bucket).filter fun allocation =>
        is_used pointers allocation.record) := by
  rw [← AllocationSnapshot.foldl_push, List.foldl_filter, bucket_allocations, List.foldl_map]
  rfl

/-- What a snapshot takes from each space it visits. -/
abbrev Visits := List (String × List ActiveAllocation)

/-- The allocations of all visits, in the order of the visits. -/
def Visits.allocations (visits : Visits) : List ActiveAllocation := visits.flatMap Prod.snd

/-- A snapshot which visits each space once, and takes from it allocations of
    that space at different addresses, repeats no allocation. -/
theorem Visits.allocations_nodup {visits : Visits} (hspaces : (visits.map Prod.fst).Nodup)
    (hptrs : ∀ visit ∈ visits, (visit.2.map (·.ptr)).Nodup)
    (hspace : ∀ visit ∈ visits, ∀ allocation ∈ visit.2, allocation.record.space = visit.1) :
    (visits.allocations.map ActiveAllocation.key).Nodup := by
  rw [Visits.allocations, List.map_flatMap, List.nodup_flatMap]
  constructor
  · intro visit hvisit
    apply List.Nodup.of_map Prod.snd
    rw [List.map_map]
    exact hptrs visit hvisit
  · have hpairs := List.pairwise_map.mp hspaces
    apply hpairs.imp_of_mem
    intro first second hfirst hsecond hne key hkeyFirst hkeySecond
    obtain ⟨left, hleft, rfl⟩ := List.mem_map.mp hkeyFirst
    obtain ⟨right, hright, hkey⟩ := List.mem_map.mp hkeySecond
    have hsame : right.record.space = left.record.space := congrArg Prod.fst hkey
    rw [hspace first hfirst left hleft, hspace second hsecond right hright] at hsame
    exact hne hsame.symm

/-- Every record is kept under its own space. -/
def WellPlaced (tracker : AllocationTracker) : Prop :=
  ∀ space ptr record, tracker.active_record space ptr = some record → record.space = space

/-- The memory spaces of the live allocations in the iteration order of the table, each with its
    allocations. -/
def active_visits (tracker : AllocationTracker) : Visits :=
  tracker.active_allocations.entries.map fun entry => (entry.1, bucket_allocations entry.2)

/-- Without the plugins, a snapshot pushes all allocations in the order of the visits. -/
theorem snapshot_active_eq (tracker : AllocationTracker) :
    tracker.snapshot_active = AllocationSnapshot.empty.push_all tracker.active_visits.allocations := by
  rw [← AllocationSnapshot.foldl_push, Visits.allocations, List.foldl_flatMap, active_visits,
    List.foldl_map]
  simp only [bucket_allocations, List.foldl_map]
  rfl

theorem mem_active_visits {tracker : AllocationTracker} {visit : String × List ActiveAllocation} :
    visit ∈ tracker.active_visits ↔
      ∃ entries, tracker.active_allocations.lookup visit.1 = some entries ∧
        bucket_allocations entries = visit.2 := by
  simp only [active_visits, List.mem_map]
  constructor
  · rintro ⟨⟨space, entries⟩, hentry, rfl⟩
    exact ⟨entries, UnorderedMap.mem_entries.mp hentry, rfl⟩
  · rintro ⟨entries, hlookup, hvisit⟩
    exact ⟨⟨visit.1, entries⟩, UnorderedMap.mem_entries.mpr hlookup, Prod.ext rfl hvisit⟩

/-- Without the plugins, a snapshot has the live allocations. -/
theorem mem_snapshot_active {tracker : AllocationTracker} {allocation : ActiveAllocation} :
    allocation ∈ tracker.snapshot_active.allocations ↔
      ∃ space, tracker.active_record space allocation.ptr = some allocation.record := by
  have hlist : tracker.snapshot_active.allocations = tracker.active_visits.allocations := by
    simp [snapshot_active_eq, AllocationSnapshot.push_all, AllocationSnapshot.empty]
  rw [hlist, Visits.allocations, List.mem_flatMap]
  constructor
  · rintro ⟨visit, hvisit, hmem⟩
    obtain ⟨entries, hlookup, hentries⟩ := mem_active_visits.mp hvisit
    refine ⟨visit.1, ?_⟩
    rw [active_record, bucket, hlookup, Option.getD_some]
    exact mem_bucket_allocations.mp (hentries ▸ hmem)
  · rintro ⟨space, hrecord⟩
    rw [active_record, bucket] at hrecord
    cases hlookup : tracker.active_allocations.lookup space with
    | none => simp [hlookup] at hrecord
    | some entries =>
      rw [hlookup, Option.getD_some] at hrecord
      exact ⟨(space, bucket_allocations entries), mem_active_visits.mpr ⟨entries, hlookup, rfl⟩,
        mem_bucket_allocations.mpr hrecord⟩

/-- Without the plugins, no two entries have one memory space and pointer. -/
theorem snapshot_active_nodup {tracker : AllocationTracker} (hplaced : tracker.WellPlaced) :
    (tracker.snapshot_active.allocations.map ActiveAllocation.key).Nodup := by
  have hlist : tracker.snapshot_active.allocations = tracker.active_visits.allocations := by
    simp [snapshot_active_eq, AllocationSnapshot.push_all, AllocationSnapshot.empty]
  rw [hlist]
  apply Visits.allocations_nodup
  · have hkeys : tracker.active_visits.map Prod.fst = tracker.active_allocations.keys := by
      simp [active_visits, AList.keys, List.keys]
    rw [hkeys]
    exact tracker.active_allocations.keys_nodup
  · intro visit hvisit
    obtain ⟨entries, _, hentries⟩ := mem_active_visits.mp hvisit
    rw [← hentries]
    exact bucket_allocations_nodup entries
  · intro visit hvisit allocation hmem
    obtain ⟨entries, hlookup, hentries⟩ := mem_active_visits.mp hvisit
    apply hplaced visit.1 allocation.ptr
    rw [active_record, bucket, hlookup, Option.getD_some]
    exact mem_bucket_allocations.mp (hentries ▸ hmem)

/-- What a snapshot takes from a space whose pointers are sorted. -/
def used_bucket (pointers : List Pointer) (bucket : UnorderedMap Pointer AllocationRecord) :
    List ActiveAllocation :=
  (bucket_allocations bucket).filter fun allocation => is_used pointers allocation.record

/-- The memory spaces of the used pointers in the iteration order of the table, each with the
    allocations its pointers hit. -/
def used_visits (tracker : AllocationTracker) : Visits :=
  (UnorderedMap.map_values (·.mergeSort (· ≤ ·)) tracker.used_allocations).entries.map fun entry =>
    (entry.1, used_bucket entry.2 (bucket tracker.active_allocations entry.1))

/-- Visiting spaces takes the used allocations of their buckets. The buckets it
    makes are empty, so it changes none. -/
theorem foldl_visit_used (spaces : List (Sigma fun _ : String => List Pointer))
    (snapshot : AllocationSnapshot)
    (active : UnorderedMap String (UnorderedMap Pointer AllocationRecord)) :
    let final := spaces.foldl (fun state entry => visit_used state entry.1 entry.2) (snapshot, active)
    final.1 = snapshot.push_all
        (spaces.flatMap fun entry => used_bucket entry.2 (bucket active entry.1)) ∧
      bucket final.2 = bucket active := by
  induction spaces generalizing snapshot active with
  | nil => simp [AllocationSnapshot.push_all]
  | cons entry rest ih =>
    have hbucket : bucket (visit_used (snapshot, active) entry.1 entry.2).2 = bucket active := by
      funext other
      simp only [visit_used, bucket, UnorderedMap.lookup_index]
      by_cases hspace : other = entry.1
      · subst hspace
        simp
      · simp [hspace]
    have hvisit : (visit_used (snapshot, active) entry.1 entry.2).1 =
        snapshot.push_all (used_bucket entry.2 (bucket active entry.1)) := by
      simp only [visit_used, UnorderedMap.index_fst]
      exact snapshot_bucket_eq _ _ _
    obtain ⟨htaken, hkept⟩ := ih (visit_used (snapshot, active) entry.1 entry.2).1
      (visit_used (snapshot, active) entry.1 entry.2).2
    refine ⟨?_, hkept.trans hbucket⟩
    refine htaken.trans ?_
    simp [hbucket, hvisit, AllocationSnapshot.push_all, UInt64.add_assoc]

/-- With the plugins, a snapshot pushes the allocations which are hit, in the order of the
    visits. -/
theorem snapshot_used_eq (tracker : AllocationTracker) :
    tracker.snapshot_used.1 = AllocationSnapshot.empty.push_all tracker.used_visits.allocations := by
  have hvisits := (foldl_visit_used
    (UnorderedMap.map_values (·.mergeSort (· ≤ ·)) tracker.used_allocations).entries
    AllocationSnapshot.empty tracker.active_allocations).1
  rw [used_visits, Visits.allocations, List.flatMap_map]
  exact hvisits

/-- A snapshot changes no record. -/
@[simp]
theorem snapshot_used_active_record (tracker : AllocationTracker) (space : String) (ptr : Pointer) :
    tracker.snapshot_used.2.active_record space ptr = tracker.active_record space ptr := by
  have hkept := (foldl_visit_used
    (UnorderedMap.map_values (·.mergeSort (· ≤ ·)) tracker.used_allocations).entries
    AllocationSnapshot.empty tracker.active_allocations).2
  exact congrArg (AList.lookup ptr) (congrFun hkept space)

/-- A snapshot only reorders the registered pointers of a space. -/
theorem snapshot_used_pointers_perm (tracker : AllocationTracker) (space : String) :
    (tracker.snapshot_used.2.used_pointers space).Perm (tracker.used_pointers space) := by
  have hsorted : tracker.snapshot_used.2.used_pointers space =
      ((tracker.used_allocations.lookup space).map (·.mergeSort (· ≤ ·))).getD [] :=
    congrArg (Option.getD · []) (UnorderedMap.lookup_map_values _ _ _)
  rw [hsorted, used_pointers]
  cases tracker.used_allocations.lookup space with
  | none => rfl
  | some pointers => exact List.mergeSort_perm _ _

theorem mem_used_visits {tracker : AllocationTracker} {visit : String × List ActiveAllocation} :
    visit ∈ tracker.used_visits ↔
      ∃ pointers, tracker.used_allocations.lookup visit.1 = some pointers ∧
        used_bucket (pointers.mergeSort (· ≤ ·)) (bucket tracker.active_allocations visit.1) =
          visit.2 := by
  simp only [used_visits, UnorderedMap.map_values, List.map_map, List.mem_map]
  constructor
  · rintro ⟨⟨space, pointers⟩, hentry, rfl⟩
    exact ⟨pointers, UnorderedMap.mem_entries.mp hentry, rfl⟩
  · rintro ⟨pointers, hlookup, hvisit⟩
    exact ⟨⟨visit.1, pointers⟩, UnorderedMap.mem_entries.mpr hlookup, Prod.ext rfl hvisit⟩

/-- Of a memory space, those allocations are used which some pointer hits. -/
theorem mem_used_bucket {pointers : List Pointer} {bucket : UnorderedMap Pointer AllocationRecord}
    {allocation : ActiveAllocation} :
    allocation ∈ used_bucket (pointers.mergeSort (· ≤ ·)) bucket ↔
      bucket.lookup allocation.ptr = some allocation.record ∧ Hit pointers allocation.record := by
  have hsorted : (pointers.mergeSort (· ≤ ·)).Pairwise (· ≤ ·) := by
    apply List.pairwise_mergeSort'
  have hperm : Hit (pointers.mergeSort (· ≤ ·)) allocation.record ↔ Hit pointers allocation.record := by
    simp only [Hit, (List.mergeSort_perm pointers _).mem_iff]
  rw [used_bucket, List.mem_filter, mem_bucket_allocations, is_used_iff_hit hsorted, hperm]

/-- With the plugins, a snapshot has the live allocations which a used pointer of their memory
    space hits. -/
theorem mem_snapshot_used {tracker : AllocationTracker} {allocation : ActiveAllocation} :
    allocation ∈ tracker.snapshot_used.1.allocations ↔
      ∃ space, tracker.active_record space allocation.ptr = some allocation.record ∧
        Hit (tracker.used_pointers space) allocation.record := by
  have hlist : tracker.snapshot_used.1.allocations = tracker.used_visits.allocations := by
    simp [snapshot_used_eq, AllocationSnapshot.push_all, AllocationSnapshot.empty]
  rw [hlist, Visits.allocations, List.mem_flatMap]
  constructor
  · rintro ⟨visit, hvisit, hmem⟩
    obtain ⟨pointers, hlookup, hused⟩ := mem_used_visits.mp hvisit
    rw [← hused, mem_used_bucket] at hmem
    refine ⟨visit.1, hmem.1, ?_⟩
    rw [used_pointers, hlookup]
    exact hmem.2
  · rintro ⟨space, hrecord, hhit⟩
    cases hlookup : tracker.used_allocations.lookup space with
    | none =>
      obtain ⟨q, hq, _⟩ := hhit
      simp [used_pointers, hlookup] at hq
    | some pointers =>
      rw [used_pointers, hlookup] at hhit
      exact ⟨(space, _), mem_used_visits.mpr ⟨pointers, hlookup, rfl⟩,
        mem_used_bucket.mpr ⟨hrecord, hhit⟩⟩

/-- With the plugins, no two entries have one memory space and pointer. -/
theorem snapshot_used_nodup {tracker : AllocationTracker} (hplaced : tracker.WellPlaced) :
    (tracker.snapshot_used.1.allocations.map ActiveAllocation.key).Nodup := by
  have hlist : tracker.snapshot_used.1.allocations = tracker.used_visits.allocations := by
    simp [snapshot_used_eq, AllocationSnapshot.push_all, AllocationSnapshot.empty]
  rw [hlist]
  apply Visits.allocations_nodup
  · have hkeys : tracker.used_visits.map Prod.fst = tracker.used_allocations.keys := by
      simp [used_visits, UnorderedMap.map_values, AList.keys, List.keys]
    rw [hkeys]
    exact tracker.used_allocations.keys_nodup
  · intro visit hvisit
    obtain ⟨pointers, _, hused⟩ := mem_used_visits.mp hvisit
    rw [← hused]
    exact (bucket_allocations_nodup _).sublist (List.filter_sublist.map _)
  · intro visit hvisit allocation hmem
    obtain ⟨pointers, _, hused⟩ := mem_used_visits.mp hvisit
    rw [← hused, mem_used_bucket] at hmem
    exact hplaced visit.1 allocation.ptr allocation.record hmem.1

/-- Either snapshot has the sum of the sizes of its entries. -/
theorem snapshot_active_bytes (compiler_plugins : Bool) (tracker : AllocationTracker) :
    (tracker.snapshot compiler_plugins).1.active_bytes =
      ((tracker.snapshot compiler_plugins).1.allocations.map (·.record.size)).sum := by
  cases compiler_plugins with
  | false => simp [snapshot, snapshot_active_eq, AllocationSnapshot.push_all, AllocationSnapshot.empty]
  | true => simp [snapshot, snapshot_used_eq, AllocationSnapshot.push_all, AllocationSnapshot.empty]

end AllocationTracker

end krepe
