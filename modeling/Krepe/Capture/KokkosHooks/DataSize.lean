import Krepe.Capture.KokkosHooks.Allocation

namespace krepe

/-- The physical range which the hooks can find out for an allocation. -/
def physical_range (build : CaptureBuild) (queries : AllocationQueries) (space : String) (ptr : Pointer) :
    Option (Pointer × UInt64) :=
  let cuda_range :=
    if build.cuda_dump && is_cuda_pointer_attribute_space space then queries.cuda_range else none
  let hip_range :=
    if build.hip_dump && is_hip_pointer_attribute_space space then queries.hip_range else none
  let host_range :=
    if is_host_space space && host_allocation_size build queries != 0 then
      some (ptr, host_allocation_size build queries)
    else none
  (cuda_range.or hip_range).or host_range

/-- A reported size other than that of the header is taken as it is. -/
theorem allocation_data_size_of_ne {build : CaptureBuild} {queries : AllocationQueries} {space : String}
    {ptr data_ptr : Pointer} {reported_size : UInt64}
    (hreported : reported_size ≠ build.allocation_header_size) :
    allocation_data_size build queries space ptr data_ptr reported_size = some reported_size :=
  if_pos hreported

/-- The size of the header is checked against the physical range. -/
theorem allocation_data_size_header (build : CaptureBuild) (queries : AllocationQueries) (space : String)
    (ptr data_ptr : Pointer) :
    allocation_data_size build queries space ptr data_ptr build.allocation_header_size =
      (physical_range build queries space ptr).bind fun range =>
        validated_data_size range.1 range.2 data_ptr build.allocation_header_size := by
  rw [allocation_data_size, if_neg (by simp), physical_range]
  cases (if build.cuda_dump && is_cuda_pointer_attribute_space space then queries.cuda_range else none) with
  | some range => rfl
  | none =>
    cases (if build.hip_dump && is_hip_pointer_attribute_space space then queries.hip_range else none) with
    | some range => rfl
    | none =>
      simp only [Option.none_or]
      split <;> rfl

/-- A subtraction which is not defined where it would underflow. -/
def checked_sub (left right : UInt64) : Option UInt64 := if left < right then none else some (left - right)

/-- `validated_data_size` with checked subtractions. -/
def validated_data_size_checked (allocation_base : Pointer) (allocation_size : UInt64) (data_ptr : Pointer)
    (reported_size : UInt64) : Option (Option UInt64) :=
  if data_ptr < allocation_base then some none
  else do
    let offset ← checked_sub data_ptr allocation_base
    if offset > allocation_size then some none
    else if offset = allocation_size then some (some 0)
    else do
      let available ← checked_sub allocation_size offset
      some (some (if available ≥ reported_size then reported_size else 0))

/-- The guards keep both subtractions from underflowing. -/
theorem validated_data_size_checked_eq (allocation_base : Pointer) (allocation_size : UInt64)
    (data_ptr : Pointer) (reported_size : UInt64) :
    validated_data_size_checked allocation_base allocation_size data_ptr reported_size =
      some (validated_data_size allocation_base allocation_size data_ptr reported_size) := by
  unfold validated_data_size_checked validated_data_size
  split
  · rfl
  · next hbase =>
    simp only [checked_sub, if_neg hbase, Option.bind_eq_bind, Option.bind_some]
    split
    · rfl
    · next hoffset =>
      split
      · rfl
      · rfl

/-- The size of the data of an allocation whose data start at `data_ptr`, in
    numbers: `reported_size` where that much is left of the range, and otherwise zero. -/
theorem validated_data_size_eq (allocation_base : Pointer) (allocation_size : UInt64)
    (data_ptr : Pointer) (reported_size : UInt64) :
    validated_data_size allocation_base allocation_size data_ptr reported_size =
      if data_ptr.toNat < allocation_base.toNat ∨
          allocation_base.toNat + allocation_size.toNat < data_ptr.toNat then none
      else if data_ptr.toNat + reported_size.toNat ≤ allocation_base.toNat + allocation_size.toNat then
        some reported_size
      else some 0 := by
  unfold validated_data_size
  by_cases hbase : data_ptr < allocation_base
  · have hbaseNat := UInt64.lt_iff_toNat_lt.mp hbase
    rw [if_pos hbase, if_pos (Or.inl hbaseNat)]
  · have hle : allocation_base ≤ data_ptr := UInt64.not_lt.mp hbase
    have hleNat := UInt64.le_iff_toNat_le.mp hle
    have hoffset := UInt64.toNat_sub_of_le data_ptr allocation_base hle
    rw [if_neg hbase]
    by_cases hinside : data_ptr - allocation_base > allocation_size
    · have hinsideNat := UInt64.lt_iff_toNat_lt.mp hinside
      simp only [if_pos hinside]
      rw [if_pos (Or.inr (by omega))]
    · have hsize : data_ptr - allocation_base ≤ allocation_size := UInt64.not_lt.mp hinside
      have hsizeNat := UInt64.le_iff_toNat_le.mp hsize
      have havailable := UInt64.toNat_sub_of_le allocation_size _ hsize
      simp only [if_neg hinside]
      have hoffsetNat : ¬ (data_ptr.toNat < allocation_base.toNat ∨
          allocation_base.toNat + allocation_size.toNat < data_ptr.toNat) := by omega
      rw [if_neg hoffsetNat]
      by_cases hend : data_ptr - allocation_base = allocation_size
      · have hendNat := congrArg UInt64.toNat hend
        rw [if_pos hend]
        split
        · have hzero : reported_size.toNat = (0 : UInt64).toNat := by
            rw [UInt64.toNat_zero]
            omega
          rw [UInt64.toNat_inj.mp hzero]
        · rfl
      · rw [if_neg hend]
        by_cases hfits : reported_size ≤ allocation_size - (data_ptr - allocation_base)
        · have hfitsNat := UInt64.le_iff_toNat_le.mp hfits
          rw [if_pos hfits, if_pos (by omega)]
        · have hfitsNat := mt UInt64.le_iff_toNat_le.mpr hfits
          rw [if_neg hfits, if_neg (by omega)]

/-- What the hooks make of the reported size of an allocation whose data do not
    lie at wrapped addresses: the size of the header is resolved to the size of
    the data where the physical range is known, and other sizes are kept. -/
structure Disambiguates (build : CaptureBuild) (queries : AllocationQueries) (space : String)
    (ptr : Pointer) : Prop where
  /-- The data lie inside the range. -/
  inside : ∀ base len size, physical_range build queries space ptr = some (base, len) →
    base.toNat + len.toNat ≤ 2 ^ 64 →
    allocation_data_size build queries space ptr (allocation_data_pointer build ptr)
      build.allocation_header_size = some size →
    (size = 0 ∨ size = build.allocation_header_size) ∧
      base.toNat ≤ ptr.toNat + build.allocation_header_size.toNat ∧
      ptr.toNat + build.allocation_header_size.toNat + size.toNat ≤ base.toNat + len.toNat
  /-- The slack of an allocator does not matter. -/
  exact : ∀ base len (data_size : UInt64) (slack : Nat),
    physical_range build queries space ptr = some (base, len) → base.toNat + len.toNat ≤ 2 ^ 64 →
    base.toNat ≤ ptr.toNat → data_size = 0 ∨ data_size = build.allocation_header_size →
    slack < build.allocation_header_size.toNat →
    len.toNat = (ptr.toNat - base.toNat) + build.allocation_header_size.toNat + data_size.toNat + slack →
    allocation_data_size build queries space ptr (allocation_data_pointer build ptr)
      build.allocation_header_size = some data_size
  kept : ∀ data_ptr reported_size, reported_size ≠ build.allocation_header_size →
    allocation_data_size build queries space ptr data_ptr reported_size = some reported_size
  unknown : ∀ data_ptr, physical_range build queries space ptr = none →
    allocation_data_size build queries space ptr data_ptr build.allocation_header_size = none
  no_underflow : ∀ base len data_ptr reported_size,
    validated_data_size_checked base len data_ptr reported_size =
      some (validated_data_size base len data_ptr reported_size)

/-- For every build, every answer of the allocators, every memory space and every pointer behind
    which a header fits: a reported size equal to that of the header is told apart by the
    physical range, where it is known, so that the data lie inside of it whatever slack the
    allocator added; where the range is not known the size is unknown, and other reported sizes
    are taken as they are. -/
theorem allocation_data_size_disambiguates (build : CaptureBuild) (queries : AllocationQueries)
    (space : String) (ptr : Pointer) (hwrap : ptr.toNat + build.allocation_header_size.toNat < 2 ^ 64) :
    Disambiguates build queries space ptr := by
  have hdata : (allocation_data_pointer build ptr).toNat =
      ptr.toNat + build.allocation_header_size.toNat := by
    rw [allocation_data_pointer, UInt64.toNat_add, Nat.mod_eq_of_lt hwrap]
  have hvalue : ∀ base len, physical_range build queries space ptr = some (base, len) →
      allocation_data_size build queries space ptr (allocation_data_pointer build ptr)
        build.allocation_header_size =
        if ptr.toNat + build.allocation_header_size.toNat < base.toNat ∨
            base.toNat + len.toNat < ptr.toNat + build.allocation_header_size.toNat then none
        else if ptr.toNat + build.allocation_header_size.toNat + build.allocation_header_size.toNat ≤
            base.toNat + len.toNat then some build.allocation_header_size
        else some 0 := by
    intro base len hrange
    rw [allocation_data_size_header, hrange, Option.bind_some, validated_data_size_eq, hdata]
  refine { inside := ?_, exact := ?_, kept := fun _ _ => allocation_data_size_of_ne, unknown := ?_,
           no_underflow := validated_data_size_checked_eq }
  · intro base len size hrange _ hsize
    rw [hvalue base len hrange] at hsize
    split at hsize
    · cases hsize
    · split at hsize
      · cases hsize
        exact ⟨.inr rfl, by omega, by omega⟩
      · cases hsize
        exact ⟨.inl rfl, by omega, by rw [UInt64.toNat_zero]; omega⟩
  · intro base len data_size slack hrange _ hbase hdataSize hslack hlen
    rw [hvalue base len hrange, if_neg (by omega)]
    rcases hdataSize with rfl | rfl
    · rw [UInt64.toNat_zero] at hlen
      rw [if_neg (by omega)]
    · rw [if_pos (by omega)]
  · intro data_ptr hrange
    rw [allocation_data_size_header, hrange, Option.bind_none]

/-- An empty view of the host, at an address like those of the heap: the allocator has eight
    bytes more than the header, and the reported size counts the header, so that nothing is left
    for the data. -/
theorem allocation_data_size_disambiguates_example :
    let build : CaptureBuild := ⟨true, false, false, false, 128, .inl rfl⟩
    let queries : AllocationQueries := ⟨136, none, none⟩
    physical_range build queries "Host" 0x5000 = some (0x5000, 136) ∧
      Disambiguates build queries "Host" 0x5000 ∧
      allocation_data_size build queries "Host" 0x5000 (allocation_data_pointer build 0x5000) 128 = some 0 := by
  intro build queries
  have hrange : physical_range build queries "Host" 0x5000 = some (0x5000, 136) := by decide
  have hdisambiguates := allocation_data_size_disambiguates build queries "Host" 0x5000 (by decide)
  exact ⟨hrange, hdisambiguates,
    hdisambiguates.exact 0x5000 136 0 8 hrange (by decide) (by decide) (.inl rfl) (by decide) (by decide)⟩

end krepe
