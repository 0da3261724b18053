import PointcloudAd.Backends.Exhaustive
import PointcloudAd.Backends.LogicalIndexing
import PointcloudAd.Preprocess.VoxelSampling

/-!
# Voxel sampling is a partition

The samples of the occupied cubes are the valid samples of the surface, each of them once. A surface
is sampled unless it has no valid sample or a coordinate without a number for its cell, and without
rounding every sampled point is the mean of its cube and lies in it.
-/

namespace PointcloudAd

open Library FloorFunctions

variable {F D : Type} [FloatArith F] [FloatArith D] [Floats F D]

/-- The valid samples, in the order of the walk. -/
def SurfaceView.validSamples (surface : SurfaceView F) : List ℕ :=
  surface.indices.filter surface.isValidIndex

section Walk

variable [FloorFunctions D]

/-- The cube of a point. -/
def voxelOf (size : D) (point : Vec3 F) : VoxelKey :=
  ⟨toInt (cellValue size point.x), toInt (cellValue size point.y), toInt (cellValue size point.z)⟩

/-- The cells of all three coordinates have a number. -/
def HasKey (size : D) (point : Vec3 F) : Prop :=
  KeyInRange (cellValue size point.x) ∧ KeyInRange (cellValue size point.y) ∧
    KeyInRange (cellValue size point.z)

instance hasKeyDecidable (size : D) (point : Vec3 F) : Decidable (HasKey size point) :=
  inferInstanceAs (Decidable (_ ∧ _))

theorem coordinateKey_eq (coordinate : F) (size : D) :
    coordinateKey coordinate size = if KeyInRange (cellValue size coordinate) then
      .ok (toInt (cellValue size coordinate))
    else .error (samplingError .invalidInput "surface.points"
      "coordinate produces an invalid voxel key") := by
  unfold coordinateKey
  rw [ite_not]

theorem voxelKey_eq (point : Vec3 F) (size : D) :
    voxelKey point size = if HasKey size point then .ok (voxelOf size point)
    else .error (samplingError .invalidInput "surface.points"
      "coordinate produces an invalid voxel key") := by
  unfold voxelKey HasKey
  simp only [coordinateKey_eq]
  by_cases hx : KeyInRange (cellValue size point.x)
  · by_cases hy : KeyInRange (cellValue size point.y)
    · by_cases hz : KeyInRange (cellValue size point.z)
      · simp only [hx, hy, hz, and_self, if_true]
        rfl
      · simp only [hx, hy, hz, and_false, if_true, if_false]
        rfl
    · simp only [hx, hy, false_and, and_false, if_true, if_false]
      rfl
  · simp only [hx, false_and, if_false]
    rfl

variable (surface : SurfaceView F) (size : D)

/-- The cubes with their sums, when every valid sample has one. -/
def collectVoxels (l : List ℕ) : SortedMap VoxelKey (Accumulator D) :=
  .collect (fun i => voxelOf size (surface.points.getD i default)) .empty (.add surface) l

/-- The walk collects the samples that are not masked, and fails on the first one without a cube. -/
theorem foldlM_sampleIndex {l : List ℕ} (hl : ∀ i ∈ l,
    decide (¬ (surface.valid ≠ [] ∧ surface.valid.getD i 0 = 0)) = surface.isValidIndex i) :
    l.foldlM (sampleIndex surface size) .empty =
      if ∀ i ∈ l.filter surface.isValidIndex, HasKey size (surface.points.getD i default) then
        .ok (collectVoxels surface size (l.filter surface.isValidIndex))
      else .error (samplingError .invalidInput "surface.points"
        "coordinate produces an invalid voxel key") := by
  induction l using List.reverseRecOn with
  | nil => rfl
  | append_singleton l i ih =>
    have hi := hl i (by simp)
    rw [List.foldlM_append, ih fun j hj => hl j (by simp [hj]), List.filter_append]
    by_cases hkeys : ∀ j ∈ l.filter surface.isValidIndex,
        HasKey size (surface.points.getD j default)
    · rw [if_pos hkeys, ok_bind]
      simp only [List.foldlM_cons, List.foldlM_nil, bind_pure]
      unfold sampleIndex
      by_cases hv : surface.isValidIndex i = true
      · rw [if_neg (of_decide_eq_true (hi.trans hv)), voxelKey_eq, List.filter_cons_of_pos hv]
        by_cases hkey : HasKey size (surface.points.getD i default)
        · rw [if_pos hkey, if_pos, ok_bind, collectVoxels, collectVoxels, List.filter_nil,
            SortedMap.collect_concat]
          · rfl
          · intro j hj
            rcases List.mem_append.mp hj with hj | hj
            · exact hkeys j hj
            · rw [List.mem_singleton.mp hj]
              exact hkey
        · rw [if_neg hkey, if_neg]
          · rfl
          · intro hall
            exact hkey (hall i (by simp))
      · have hmasked : surface.valid ≠ [] ∧ surface.valid.getD i 0 = 0 := by
          by_contra hunmasked
          exact hv (hi.symm.trans (decide_eq_true hunmasked))
        rw [if_pos hmasked, List.filter_cons_of_neg hv, List.filter_nil, List.append_nil,
          if_pos hkeys]
    · rw [if_neg hkeys, if_neg]
      · rfl
      · intro hall
        exact hkeys fun j hj => hall j (List.mem_append_left _ hj)

end Walk

section Emission

theorem foldl_append (hasNormals : Bool) (voxels : List (Accumulator D)) :
    voxels.foldl (SampledArrays.append hasNormals) ({} : SampledArrays F) =
      { points := voxels.map Accumulator.point
        normals := if hasNormals then voxels.map Accumulator.normal else []
        sourceOffsets := groupOffsets (voxels.map Accumulator.sourceIndices)
        sourceIndices := (voxels.map Accumulator.sourceIndices).flatten } := by
  induction voxels using List.reverseRecOn with
  | nil => cases hasNormals <;> rfl
  | append_singleton voxels voxel ih =>
    rw [List.foldl_concat, ih]
    unfold SampledArrays.append
    cases hasNormals <;> simp [groupOffsets_concat]

variable {surface : SurfaceView F}

theorem foldl_add_sourceIndices (l : List ℕ) (voxel : Accumulator D) :
    (l.foldl (Accumulator.add surface) voxel).sourceIndices = voxel.sourceIndices ++ l := by
  induction l generalizing voxel with
  | nil => simp
  | cons i l ih => simp [ih, Accumulator.add]

theorem foldl_addVector (l : List (Vec3 F)) (sum : Vec3 D) :
    l.foldl addVector sum =
      ⟨(l.map Vec3.x).foldl (fun sum v => sum + widen v) sum.x,
        (l.map Vec3.y).foldl (fun sum v => sum + widen v) sum.y,
        (l.map Vec3.z).foldl (fun sum v => sum + widen v) sum.z⟩ := by
  induction l generalizing sum with
  | nil => rfl
  | cons value l ih =>
    rw [List.foldl_cons, ih]
    rfl

theorem foldl_add_pointSum (l : List ℕ) (voxel : Accumulator D) :
    (l.foldl (Accumulator.add surface) voxel).pointSum =
      (l.map fun i => surface.points.getD i default).foldl addVector voxel.pointSum := by
  induction l generalizing voxel with
  | nil => rfl
  | cons i l ih =>
    rw [List.foldl_cons, ih]
    rfl

theorem foldl_add_normalSum (hne : surface.normals ≠ []) (l : List ℕ) (voxel : Accumulator D) :
    (l.foldl (Accumulator.add surface) voxel).normalSum =
      (l.map fun i => surface.normals.getD i default).foldl addVector voxel.normalSum := by
  induction l generalizing voxel with
  | nil => rfl
  | cons i l ih =>
    rw [List.foldl_cons, ih]
    unfold Accumulator.add
    rw [if_neg hne]
    rfl

end Emission

section Sampled

variable [FloorFunctions D] (surface : SurfaceView F) (size : D)

/-- The cubes with a valid sample, in their order. -/
def occupiedVoxels : List VoxelKey := (collectVoxels surface size surface.validSamples).keys

/-- The valid samples of a cube. -/
def voxelSamples (key : VoxelKey) : List ℕ :=
  surface.validSamples.filter fun i => voxelOf size (surface.points.getD i default) = key

/-- The sums of a cube. -/
def voxelSums (key : VoxelKey) : Accumulator D :=
  (voxelSamples surface size key).foldl (.add surface) .empty

omit [FloatArith F] in
theorem mem_validSamples {i : ℕ} :
    i ∈ surface.validSamples ↔ i ∈ surface.indices ∧ surface.isValidIndex i = true :=
      List.mem_filter

theorem mem_voxelSamples {key : VoxelKey} {i : ℕ} :
    i ∈ voxelSamples surface size key ↔ (i ∈ surface.indices ∧ surface.isValidIndex i = true) ∧
      voxelOf size (surface.points.getD i default) = key := by
  unfold voxelSamples
  rw [List.mem_filter, mem_validSamples, decide_eq_true_iff]

theorem pairwise_occupiedVoxels : (occupiedVoxels surface size).Pairwise (· < ·) :=
  SortedMap.pairwise_keys _

theorem mem_occupiedVoxels {key : VoxelKey} :
    key ∈ occupiedVoxels surface size ↔ ∃ i, (i ∈ surface.indices ∧
      surface.isValidIndex i = true) ∧ voxelOf size (surface.points.getD i default) = key := by
  unfold occupiedVoxels collectVoxels
  simp only [SortedMap.mem_keys_collect, mem_validSamples]

theorem voxelSamples_ne_nil {key : VoxelKey} (h : key ∈ occupiedVoxels surface size) :
    voxelSamples surface size key ≠ [] := by
  obtain ⟨i, hi⟩ := (mem_occupiedVoxels surface size).mp h
  exact List.ne_nil_of_mem ((mem_voxelSamples surface size).mpr hi)

theorem occupiedVoxels_eq_nil : occupiedVoxels surface size = [] ↔ surface.validSamples = [] := by
  constructor
  · intro h
    apply List.eq_nil_iff_forall_not_mem.mpr
    intro i hi
    have hkey := (mem_occupiedVoxels surface size).mpr
      ⟨i, (mem_validSamples surface).mp hi, rfl⟩
    rw [h] at hkey
    cases hkey
  · intro h
    unfold occupiedVoxels
    rw [h]
    rfl

theorem voxelSums_sourceIndices (key : VoxelKey) :
    (voxelSums surface size key).sourceIndices = voxelSamples surface size key :=
  foldl_add_sourceIndices ..

theorem collectVoxels_values :
    (collectVoxels surface size surface.validSamples).entries.map Prod.snd =
      (occupiedVoxels surface size).map (voxelSums surface size) := by
  unfold collectVoxels
  rw [SortedMap.entries_collect, List.map_map]
  rfl

/-- What the walk over the occupied cubes appends. -/
def sampledArrays : SampledArrays F where
  points := (occupiedVoxels surface size).map fun key => (voxelSums surface size key).point
  normals :=
    if surface.normals = [] then []
    else (occupiedVoxels surface size).map fun key => (voxelSums surface size key).normal
  sourceOffsets := groupOffsets ((occupiedVoxels surface size).map (voxelSamples surface size))
  sourceIndices := (occupiedVoxels surface size).flatMap (voxelSamples surface size)

theorem foldl_append_occupied :
    ((collectVoxels surface size surface.validSamples).entries.map Prod.snd).foldl
      (SampledArrays.append (!surface.normals.isEmpty)) {} = sampledArrays surface size := by
  have hsources : ((occupiedVoxels surface size).map (voxelSums surface size)).map
      Accumulator.sourceIndices =
        (occupiedVoxels surface size).map (voxelSamples surface size) := by
    rw [List.map_map]
    exact List.map_congr_left fun key _ => voxelSums_sourceIndices surface size key
  rw [collectVoxels_values, foldl_append, hsources]
  unfold sampledArrays
  cases surface.normals <;> simp [List.flatMap]

/-- A sampled surface: its parameters were accepted, every valid sample has a cube, and the result
holds the arrays of the occupied cubes. -/
structure Sampled (result : VoxelSampleResult F) : Prop where
  unit : surface.unit = .millimeter
  finite : isFinite size = true
  positive : ¬ size ≤ 0
  keys : ∀ i ∈ surface.validSamples, HasKey size (surface.points.getD i default)
  nonempty : surface.validSamples ≠ []
  create : OwnedSurface.create (sampledArrays surface size).points
    (sampledArrays surface size).normals [] none .millimeter surface.frame = .ok result.surface
  offsets : result.sourceOffsets = (sampledArrays surface size).sourceOffsets
  indices : result.sourceIndices = (sampledArrays surface size).sourceIndices

variable {surface size}

theorem voxelSample_ok_iff (hs : surface.Shaped) {result : VoxelSampleResult F} :
    voxelSample surface size = .ok result ↔ Sampled surface size result := by
  have hwalk : surface.indices.foldlM (sampleIndex surface size) .empty =
      if ∀ i ∈ surface.validSamples, HasKey size (surface.points.getD i default) then
        .ok (collectVoxels surface size surface.validSamples)
      else .error (samplingError .invalidInput "surface.points"
        "coordinate produces an invalid voxel key") :=
    foldlM_sampleIndex surface size fun i hi => hs.unmasked_eq hi
  have hempty : (collectVoxels surface size surface.validSamples).entries = [] ↔
      surface.validSamples = [] := by
    rw [← occupiedVoxels_eq_nil surface size]
    exact List.map_eq_nil_iff.symm
  unfold voxelSample
  constructor
  · intro h
    split_ifs at h with hunit hsize
    rw [hwalk] at h
    by_cases hkeys : ∀ i ∈ surface.validSamples, HasKey size (surface.points.getD i default)
    · rw [if_pos hkeys, ok_bind] at h
      by_cases hnone : surface.validSamples = []
      · rw [if_pos (hempty.mpr hnone)] at h
        cases h
      · rw [if_neg (mt hempty.mp hnone)] at h
        dsimp only at h
        rw [foldl_append_occupied] at h
        obtain ⟨sampled, hcreate, h⟩ := bind_ok_iff.mp h
        obtain rfl := Except.ok.inj h
        rw [not_or, not_not] at hsize
        exact ⟨not_not.mp hunit, hsize.1, hsize.2, hkeys, hnone, hcreate, rfl, rfl⟩
    · rw [if_neg hkeys] at h
      cases h
  · rintro ⟨hunit, hfinite, hpositive, hkeys, hnone, hcreate, hoffsets, hindices⟩
    rw [if_neg (not_not.mpr hunit), if_neg (by rw [not_or, not_not]; exact ⟨hfinite, hpositive⟩),
      hwalk, if_pos hkeys, ok_bind, if_neg (mt hempty.mp hnone)]
    dsimp only
    rw [foldl_append_occupied, hcreate, ok_bind, ← hoffsets, ← hindices]
    rfl

theorem Sampled.points {result : VoxelSampleResult F} (h : Sampled surface size result) :
    result.surface.view.points = (sampledArrays surface size).points := by
  rw [OwnedSurface.view_of_create h.create]

theorem Sampled.normals {result : VoxelSampleResult F} (h : Sampled surface size result) :
    result.surface.view.normals = (sampledArrays surface size).normals := by
  rw [OwnedSurface.view_of_create h.create]

theorem Sampled.sourcesFor {result : VoxelSampleResult F} (h : Sampled surface size result) {k : ℕ}
    {key : VoxelKey} (hk : (occupiedVoxels surface size)[k]? = some key) :
    result.sourcesFor k = voxelSamples surface size key := by
  obtain ⟨hlt, -⟩ := List.getElem?_eq_some_iff.mp hk
  have hgroup : ((occupiedVoxels surface size).map (voxelSamples surface size))[k]? =
      some (voxelSamples surface size key) := by
    rw [List.getElem?_map, hk]
    rfl
  unfold VoxelSampleResult.sourcesFor
  rw [h.offsets, h.indices]
  unfold sampledArrays
  dsimp only
  rw [List.getD_eq_getElem?_getD, List.getD_eq_getElem?_getD,
    getElem?_groupOffsets (by rw [List.length_map]; omega),
    getElem?_groupOffsets (by rw [List.length_map]; omega)]
  exact take_drop_flatten hgroup

end Sampled

section Failures

theorem exists_create_iff {points normals : List (Vec3 F)} {unit : LengthUnit} {frame : FrameId}
    (hne : points ≠ []) (hlength : normals = [] ∨ normals.length = points.length) :
    (∃ output, OwnedSurface.create points normals [] none unit frame = .ok output) ↔
      ∀ k < points.length, (points.getD k default).finite = true ∧
        (normals ≠ [] → (normals.getD k default).finite = true) := by
  have hcreate : (∃ output, OwnedSurface.create points normals [] none unit frame = .ok output) ↔
      ∃ n, validateSurfaceData points normals [] none = .ok n := by
    cases hv : validateSurfaceData points normals [] none with
    | error e =>
      rw [OwnedSurface.create_error hv]
      simp
    | ok n =>
      rw [OwnedSurface.create_ok hv]
      simp
  rw [hcreate]
  constructor
  · rintro ⟨n, hn⟩ k hk
    rw [← validateSurfaceDataWord_eq, validateSurfaceDataWord_iff (by decide)] at hn
    obtain ⟨-, -, hsamples, -⟩ := hn
    obtain ⟨-, hpoint, hnormal⟩ := hsamples k (List.mem_range.mpr hk)
    exact ⟨hpoint rfl, hnormal rfl⟩
  · intro h
    refine ⟨points.length, ?_⟩
    rw [← validateSurfaceDataWord_eq, validateSurfaceDataWord_iff (by decide)]
    refine ⟨⟨hne, hlength, .inl rfl⟩, (fun _ hgrid => by cases hgrid), ?_, rfl⟩
    intro k hk
    obtain ⟨hpoint, hnormal⟩ := h k (List.mem_range.mp hk)
    exact ⟨.inl rfl, fun _ => hpoint, fun _ => hnormal⟩

variable [FloorFunctions D] (surface : SurfaceView F) (size : D)

/-- The mean of a cube is finite, and so is its normal. -/
def FiniteSample (key : VoxelKey) : Prop :=
  ((voxelSums surface size key).point : Vec3 F).finite = true ∧
    (surface.normals ≠ [] → ((voxelSums surface size key).normal : Vec3 F).finite = true)

/-- No sample is valid, or a valid one has a coordinate without a number for its cell. -/
def Unsampled : Prop :=
  (∀ i ∈ surface.indices, surface.isValidIndex i = false) ∨
    ∃ i ∈ surface.indices, surface.isValidIndex i = true ∧
      ¬ HasKey size (surface.points.getD i default)

theorem unsampled_iff : Unsampled surface size ↔
    ¬ (surface.validSamples ≠ [] ∧
      ∀ i ∈ surface.validSamples, HasKey size (surface.points.getD i default)) := by
  unfold Unsampled SurfaceView.validSamples
  rw [not_and_or, not_not, List.filter_eq_nil_iff]
  simp only [List.mem_filter, Bool.not_eq_true, not_forall, exists_prop, and_assoc]

theorem exists_sampledSurface_iff (hne : surface.validSamples ≠ []) :
    (∃ output, OwnedSurface.create (sampledArrays surface size).points
      (sampledArrays surface size).normals [] none .millimeter surface.frame = .ok output) ↔
      ∀ key ∈ occupiedVoxels surface size, FiniteSample surface size key := by
  have hpoints : (sampledArrays surface size).points ≠ [] := by
    intro h
    exact hne ((occupiedVoxels_eq_nil surface size).mp (List.map_eq_nil_iff.mp h))
  have hnormals : (sampledArrays surface size).normals = [] ↔ surface.normals = [] := by
    unfold sampledArrays
    dsimp only
    split_ifs with h
    · exact iff_of_true rfl h
    · rw [List.map_eq_nil_iff, occupiedVoxels_eq_nil]
      exact iff_of_false hne h
  have hlength : (sampledArrays surface size).normals = [] ∨
      (sampledArrays surface size).normals.length = (sampledArrays surface size).points.length := by
    unfold sampledArrays
    dsimp only
    split_ifs
    · exact .inl rfl
    · exact .inr (by rw [List.length_map, List.length_map])
  have hslot : ∀ {k : ℕ} {key : VoxelKey}, (occupiedVoxels surface size)[k]? = some key →
      (sampledArrays surface size).points.getD k default = (voxelSums surface size key).point ∧
        (surface.normals ≠ [] → (sampledArrays surface size).normals.getD k default =
          (voxelSums surface size key).normal) := by
    intro k key hk
    unfold sampledArrays
    dsimp only
    constructor
    · rw [List.getD_eq_getElem?_getD, List.getElem?_map, hk]
      rfl
    · intro hn
      rw [if_neg hn, List.getD_eq_getElem?_getD, List.getElem?_map, hk]
      rfl
  rw [exists_create_iff hpoints hlength, ne_eq, hnormals]
  unfold FiniteSample
  constructor
  · intro h key hkey
    obtain ⟨k, hk⟩ := List.mem_iff_getElem?.mp hkey
    obtain ⟨hlt, -⟩ := List.getElem?_eq_some_iff.mp hk
    obtain ⟨hpoint, hnormal⟩ := hslot hk
    obtain ⟨hp, hn⟩ := h k (by unfold sampledArrays; rwa [List.length_map])
    rw [← hpoint]
    exact ⟨hp, fun hne' => hnormal hne' ▸ hn hne'⟩
  · intro h k hk
    have hk : k < (occupiedVoxels surface size).length := by
      unfold sampledArrays at hk
      rwa [List.length_map] at hk
    obtain ⟨hpoint, hnormal⟩ := hslot (List.getElem?_eq_getElem hk)
    obtain ⟨hp, hn⟩ := h _ (List.getElem_mem hk)
    rw [hpoint]
    exact ⟨hp, fun hne' => (hnormal hne').symm ▸ hn hne'⟩

variable {surface size}

theorem exists_voxelSample_error_iff (hs : surface.Shaped) (hunit : surface.unit = .millimeter)
    (hfinite : isFinite size = true) (hpositive : ¬ size ≤ 0) :
    (∃ e, voxelSample surface size = .error e) ↔ Unsampled surface size ∨
      ∃ key ∈ occupiedVoxels surface size, ¬ FiniteSample surface size key := by
  have hok : (∃ result, voxelSample surface size = .ok result) ↔
      (surface.validSamples ≠ [] ∧
        ∀ i ∈ surface.validSamples, HasKey size (surface.points.getD i default)) ∧
      ∀ key ∈ occupiedVoxels surface size, FiniteSample surface size key := by
    constructor
    · rintro ⟨result, h⟩
      have hsampled := (voxelSample_ok_iff hs).mp h
      exact ⟨⟨hsampled.nonempty, hsampled.keys⟩,
        (exists_sampledSurface_iff surface size hsampled.nonempty).mp ⟨_, hsampled.create⟩⟩
    · rintro ⟨⟨hne, hkeys⟩, hsamples⟩
      obtain ⟨output, hcreate⟩ := (exists_sampledSurface_iff surface size hne).mpr hsamples
      exact ⟨⟨output, _, _⟩, (voxelSample_ok_iff hs).mpr
        ⟨hunit, hfinite, hpositive, hkeys, hne, hcreate, rfl, rfl⟩⟩
  have herror : (∃ e, voxelSample surface size = .error e) ↔
      ¬ ∃ result, voxelSample surface size = .ok result := by
    cases voxelSample surface size <;> simp
  rw [herror, hok, not_and_or, ← unsampled_iff]
  simp only [not_forall, exists_prop]

/-- Where means are finite, so are those of the samples of an accepted surface. -/
theorem finiteSample [FiniteMeans F D]
    (haccepted : validateSurfaceData surface.points surface.normals surface.valid surface.grid =
      .ok surface.logicalSize) {key : VoxelKey} (hkey : key ∈ occupiedVoxels surface size) :
    FiniteSample surface size key := by
  have hsamples : ∀ i ∈ voxelSamples surface size key,
      SampleAccepted surface.points surface.normals surface.valid i := by
    intro i hi
    rw [← validateSurfaceDataWord_eq, validateSurfaceDataWord_iff (by decide)] at haccepted
    exact haccepted.2.2.1 i ((mem_voxelSamples surface size).mp hi).1.1
  have hvalid : ∀ i ∈ voxelSamples surface size key,
      maskValid surface.valid i = true := fun i hi => ((mem_voxelSamples surface size).mp hi).1.2
  have hne := voxelSamples_ne_nil surface size hkey
  constructor
  · have hcoordinate : ∀ coordinate : Vec3 F → F,
        (∀ point : Vec3 F, point.finite = true → isFinite (coordinate point) = true) →
        isFinite (narrow (((((voxelSamples surface size key).map fun i =>
          surface.points.getD i default).map coordinate).foldl
            (fun sum v => sum + widen v) (0 : D)) /
          lit (voxelSamples surface size key).length) : F) = true := by
      intro coordinate hcoordinate
      have hvalues : ((voxelSamples surface size key).map fun i =>
          surface.points.getD i default).map coordinate ≠ [] := by
        simpa using hne
      have hfinite : ∀ v ∈ ((voxelSamples surface size key).map fun i =>
          surface.points.getD i default).map coordinate, isFinite v = true := by
        simp only [List.map_map, List.mem_map, Function.comp_apply]
        rintro _ ⟨i, hi, rfl⟩
        exact hcoordinate _ ((hsamples i hi).point (hvalid i hi))
      simpa using FiniteMeans.mean_finite (D := D) hvalues hfinite
    unfold Accumulator.point
    rw [voxelSums_sourceIndices]
    unfold voxelSums
    rw [foldl_add_pointSum, foldl_addVector]
    rw [Vec3.finite_iff_axes]
    refine ⟨hcoordinate Vec3.x ?_, hcoordinate Vec3.y ?_, hcoordinate Vec3.z ?_⟩
    all_goals
      intro point hpoint
      rw [Vec3.finite_iff_axes] at hpoint
    · exact hpoint.1
    · exact hpoint.2.1
    · exact hpoint.2.2
  · intro _
    unfold Accumulator.normal
    dsimp only
    split_ifs with hlength
    · exact Vec3.finite_iff_axes.mpr ⟨FiniteMeans.unit_finite hlength.1 hlength.2 (.inl rfl),
        FiniteMeans.unit_finite hlength.1 hlength.2 (.inr (.inl rfl)),
        FiniteMeans.unit_finite hlength.1 hlength.2 (.inr (.inr rfl))⟩
    · have hzero : isFinite (0 : F) = true := FiniteMeans.zero_finite D
      exact Vec3.finite_iff_axes.mpr ⟨hzero, hzero, hzero⟩

end Failures

section Partition

variable [FloorFunctions D] (surface : SurfaceView F) (size : D)

/-- The sampled points belong to the cubes of the keys, which are the occupied ones, and the sources
of every point are the samples of its cube. -/
structure CanonicalPartition (result : VoxelSampleResult F) (keys : List VoxelKey) : Prop where
  ascending : keys.Pairwise (· < ·)
  occupied : ∀ key, key ∈ keys ↔ ∃ i, (i ∈ surface.indices ∧ surface.isValidIndex i = true) ∧
    voxelOf size (surface.points.getD i default) = key
  unorganized : result.surface.view.grid = none ∧ result.surface.view.valid = []
  points : result.surface.view.points.length = keys.length
  normals : result.surface.view.normals.length = if surface.normals = [] then 0 else keys.length
  offsets : result.sourceOffsets.length = keys.length + 1
  starts : result.sourceOffsets[0]? = some 0
  increasing : result.sourceOffsets.Pairwise (· < ·)
  ends : result.sourceOffsets[keys.length]? = some result.sourceIndices.length
  slices : ∀ k key, keys[k]? = some key → (result.sourcesFor k).Pairwise (· < ·) ∧
    ∀ i, i ∈ result.sourcesFor k ↔ (i ∈ surface.indices ∧ surface.isValidIndex i = true) ∧
      voxelOf size (surface.points.getD i default) = key
  once : result.sourceIndices.Nodup
  sources : ∀ i, i ∈ result.sourceIndices ↔ i ∈ surface.indices ∧ surface.isValidIndex i = true

variable {surface size}

omit [FloatArith F] in
theorem SurfaceView.Shaped.pairwise_indices (hs : surface.Shaped) :
    surface.indices.Pairwise (· < ·) :=
  ((checkStorage_iff (by decide)).mp hs.storage).1.pairwise_logicalIndices

theorem Sampled.perm {result : VoxelSampleResult F} (h : Sampled surface size result) :
    result.sourceIndices.Perm surface.validSamples := by
  rw [h.indices]
  apply perm_flatMap_filter
  · exact (pairwise_occupiedVoxels surface size).imp ne_of_lt
  · intro i hi
    exact (mem_occupiedVoxels surface size).mpr ⟨i, (mem_validSamples surface).mp hi, rfl⟩

theorem Sampled.canonicalPartition (hs : surface.Shaped) {result : VoxelSampleResult F}
    (h : Sampled surface size result) :
    CanonicalPartition surface size result (occupiedVoxels surface size) := by
  have hview := OwnedSurface.view_of_create h.create
  have hlength : ((occupiedVoxels surface size).map (voxelSamples surface size)).length =
      (occupiedVoxels surface size).length := List.length_map _
  constructor
  case ascending => exact pairwise_occupiedVoxels surface size
  case occupied => exact fun key => mem_occupiedVoxels surface size
  case unorganized =>
    rw [hview]
    exact ⟨rfl, rfl⟩
  case points =>
    rw [h.points]
    exact List.length_map _
  case normals =>
    rw [h.normals]
    unfold sampledArrays
    dsimp only
    split_ifs
    · rfl
    · exact List.length_map _
  case offsets =>
    rw [h.offsets]
    exact (length_groupOffsets _).trans (by rw [hlength])
  case starts =>
    rw [h.offsets]
    exact getElem?_groupOffsets (Nat.zero_le _)
  case increasing =>
    rw [h.offsets]
    apply pairwise_groupOffsets
    intro group hgroup
    obtain ⟨key, hkey, rfl⟩ := List.mem_map.mp hgroup
    exact voxelSamples_ne_nil surface size hkey
  case ends =>
    rw [h.offsets, h.indices]
    unfold sampledArrays
    dsimp only
    rw [← hlength, getElem?_groupOffsets le_rfl, List.take_length]
    rfl
  case slices =>
    intro k key hk
    rw [h.sourcesFor hk]
    constructor
    · exact (hs.pairwise_indices.filter _).filter _
    · exact fun i => mem_voxelSamples surface size
  case once => exact h.perm.nodup_iff.mpr (hs.nodup.filter _)
  case sources =>
    intro i
    rw [h.perm.mem_iff, mem_validSamples]

end Partition

section Exactness

/-- The mean of some points. -/
noncomputable def meanPoint (points : List (Vec3 ℝ)) : Vec3 ℝ :=
  ⟨(points.map Vec3.x).sum / points.length, (points.map Vec3.y).sum / points.length,
    (points.map Vec3.z).sum / points.length⟩

/-- Every sampled point is the mean of its sources and lies in their cube. -/
def MeansInVoxels (surface : SurfaceView ℝ) (size : ℝ) (result : VoxelSampleResult ℝ)
    (keys : List VoxelKey) : Prop :=
  ∀ k key, keys[k]? = some key → ∃ point, result.surface.view.points[k]? = some point ∧
    point = meanPoint ((result.sourcesFor k).map fun i => surface.points.getD i default) ∧
      voxelOf size point = key

/-- The cell of a coordinate has no 64-bit number. -/
def OutsideKeys (size coordinate : ℝ) : Prop :=
  ⌊coordinate / size⌋ < -2 ^ 63 ∨ 2 ^ 63 ≤ ⌊coordinate / size⌋

theorem voxelOf_real (size : ℝ) (point : Vec3 ℝ) :
    voxelOf size point = ⟨⌊point.x / size⌋, ⌊point.y / size⌋, ⌊point.z / size⌋⟩ := by
  have hcell : ∀ coordinate : ℝ, toInt (cellValue size coordinate) = ⌊coordinate / size⌋ :=
    fun coordinate => Int.floor_intCast _
  unfold voxelOf
  rw [hcell, hcell, hcell]

theorem keyInRange_real {size coordinate : ℝ} :
    KeyInRange (cellValue size coordinate) ↔ ¬ OutsideKeys size coordinate := by
  have hlow : (cellValue size coordinate : ℝ) < -lit (2 ^ 63) ↔ ⌊coordinate / size⌋ < -2 ^ 63 := by
    rw [real_lit]
    change ((⌊coordinate / size⌋ : ℤ) : ℝ) < -(((2 : ℚ) ^ 63 : ℚ) : ℝ) ↔ _
    rw [← Int.cast_lt (R := ℝ)]
    norm_num
  have hhigh : lit (2 ^ 63) ≤ (cellValue size coordinate : ℝ) ↔ 2 ^ 63 ≤ ⌊coordinate / size⌋ := by
    rw [real_lit]
    change (((2 : ℚ) ^ 63 : ℚ) : ℝ) ≤ ((⌊coordinate / size⌋ : ℤ) : ℝ) ↔ _
    rw [← Int.cast_le (R := ℝ)]
    norm_num
  unfold KeyInRange OutsideKeys
  rw [hlow, hhigh, not_or]
  exact and_iff_right rfl

theorem hasKey_real {size : ℝ} {point : Vec3 ℝ} :
    HasKey size point ↔ ¬ (OutsideKeys size point.x ∨ OutsideKeys size point.y ∨
      OutsideKeys size point.z) := by
  unfold HasKey
  rw [keyInRange_real, keyInRange_real, keyInRange_real, not_or, not_or]

variable {surface : SurfaceView ℝ} {size : ℝ}

theorem voxelSums_point (key : VoxelKey) :
    ((voxelSums surface size key).point : Vec3 ℝ) =
      meanPoint ((voxelSamples surface size key).map fun i => surface.points.getD i default) := by
  have hsum : ∀ values : List ℝ, values.foldl (fun sum v => sum + widen v) 0 = values.sum :=
    fun values => (foldl_real values 0).trans (zero_add _)
  have hcount : ∀ n : ℕ, (lit (n : ℚ) : ℝ) = n := fun n => by rw [real_lit, Rat.cast_natCast]
  unfold Accumulator.point meanPoint
  rw [voxelSums_sourceIndices, hcount, List.length_map]
  unfold voxelSums
  rw [foldl_add_pointSum, foldl_addVector]
  change (⟨_ / _, _ / _, _ / _⟩ : Vec3 ℝ) = _
  exact Vec3.mk.injEq .. |>.mpr ⟨congrArg (· / _) (hsum _), congrArg (· / _) (hsum _),
    congrArg (· / _) (hsum _)⟩

theorem voxelOf_meanPoint (hsize : 0 < size) {points : List (Vec3 ℝ)} (hne : points ≠ [])
    {key : VoxelKey} (h : ∀ point ∈ points, voxelOf size point = key) :
    voxelOf size (meanPoint points) = key := by
  have hmean : ∀ (coordinate : Vec3 ℝ → ℝ) (k : ℤ),
      (∀ point ∈ points, ⌊coordinate point / size⌋ = k) →
        ⌊(points.map coordinate).sum / points.length / size⌋ = k := by
    intro coordinate k hk
    have hvalues : points.map coordinate ≠ [] := by simpa using hne
    have hcell : ∀ v ∈ points.map coordinate, ⌊v / size⌋ = k := by simpa using hk
    have hfloor := floor_mean_div hsize hvalues hcell
    rwa [List.length_map] at hfloor
  simp only [voxelOf_real] at h ⊢
  cases key
  simp only [VoxelKey.mk.injEq] at h ⊢
  exact ⟨hmean Vec3.x _ fun point hpoint => (h point hpoint).1,
    hmean Vec3.y _ fun point hpoint => (h point hpoint).2.1,
    hmean Vec3.z _ fun point hpoint => (h point hpoint).2.2⟩

theorem Sampled.meansInVoxels {result : VoxelSampleResult ℝ} (h : Sampled surface size result) :
    MeansInVoxels surface size result (occupiedVoxels surface size) := by
  intro k key hk
  have hkey : key ∈ occupiedVoxels surface size := List.mem_of_getElem? hk
  have hpoint : (voxelSums surface size key).point =
      meanPoint ((voxelSamples surface size key).map fun i => surface.points.getD i default) :=
    voxelSums_point key
  refine ⟨(voxelSums surface size key).point, ?_, ?_, ?_⟩
  · rw [h.points]
    unfold sampledArrays
    dsimp only
    rw [List.getElem?_map, hk]
    rfl
  · rw [hpoint, h.sourcesFor hk]
  · rw [hpoint]
    apply voxelOf_meanPoint (not_le.mp h.positive)
    · simpa using voxelSamples_ne_nil surface size hkey
    · intro point hpoint
      obtain ⟨i, hi, rfl⟩ := List.mem_map.mp hpoint
      exact ((mem_voxelSamples surface size).mp hi).2

/-- On every accepted surface in millimetres and every positive size: where means of finite values
are finite, sampling fails exactly when no sample is valid or a valid one has a coordinate whose
cell has no number; whenever it succeeds, it is a canonical partition. Without rounding, the sampled
points are the means of their cubes and lie in them. -/
theorem voxelSample_partition :
    (∀ {F D : Type} [FloatArith F] [FloatArith D] [Floats F D] [FloorFunctions D]
      (surface : SurfaceView F) (size : D),
      validateSurfaceData surface.points surface.normals surface.valid surface.grid =
        .ok surface.logicalSize → surface.unit = .millimeter → isFinite size = true → ¬ size ≤ 0 →
      ((∃ e, voxelSample surface size = .error e) ↔ Unsampled surface size ∨
        ∃ key ∈ occupiedVoxels surface size, ¬ FiniteSample surface size key) ∧
      (FiniteMeans F D →
        ((∃ e, voxelSample surface size = .error e) ↔ Unsampled surface size)) ∧
      ∀ result, voxelSample surface size = .ok result →
        ∃ keys, CanonicalPartition surface size result keys) ∧
    ∀ (surface : SurfaceView ℝ) (size : ℝ),
      validateSurfaceData surface.points surface.normals surface.valid surface.grid =
        .ok surface.logicalSize → surface.unit = .millimeter → 0 < size →
      ((∃ e, voxelSample surface size = .error e) ↔
        (∀ i ∈ surface.indices, surface.isValidIndex i = false) ∨
          ∃ i ∈ surface.indices, surface.isValidIndex i = true ∧
            (OutsideKeys size (surface.points.getD i default).x ∨
              OutsideKeys size (surface.points.getD i default).y ∨
                OutsideKeys size (surface.points.getD i default).z)) ∧
      ∀ result, voxelSample surface size = .ok result →
        ∃ keys, CanonicalPartition surface size result keys ∧
          MeansInVoxels surface size result keys := by
  have herror : ∀ {F D : Type} [FloatArith F] [FloatArith D] [Floats F D] [FloorFunctions D]
      [FiniteMeans F D] (surface : SurfaceView F) (size : D),
      validateSurfaceData surface.points surface.normals surface.valid surface.grid =
        .ok surface.logicalSize → surface.unit = .millimeter → isFinite size = true → ¬ size ≤ 0 →
      ((∃ e, voxelSample surface size = .error e) ↔ Unsampled surface size) := by
    intro F D _ _ _ _ _ surface size haccepted hunit hfinite hpositive
    have hs := (validateSurfaceData_ok haccepted surface.unit surface.frame).1
    rw [exists_voxelSample_error_iff hs hunit hfinite hpositive]
    apply or_iff_left
    rintro ⟨key, hkey, hinfinite⟩
    exact hinfinite (finiteSample haccepted hkey)
  constructor
  · intro F D _ _ _ _ surface size haccepted hunit hfinite hpositive
    have hs : surface.Shaped := (validateSurfaceData_ok haccepted surface.unit surface.frame).1
    refine ⟨exists_voxelSample_error_iff hs hunit hfinite hpositive, fun _ =>
      herror surface size haccepted hunit hfinite hpositive, ?_⟩
    intro result hresult
    exact ⟨_, ((voxelSample_ok_iff hs).mp hresult).canonicalPartition hs⟩
  · intro surface size haccepted hunit hsize
    have hs : surface.Shaped := (validateSurfaceData_ok haccepted surface.unit surface.frame).1
    constructor
    · rw [herror surface size haccepted hunit rfl (not_le.mpr hsize)]
      unfold Unsampled
      simp only [hasKey_real, not_not]
    · intro result hresult
      have hsampled := (voxelSample_ok_iff hs).mp hresult
      exact ⟨_, hsampled.canonicalPartition hs, hsampled.meansInVoxels⟩

/-- Two rows of three samples, padded to four, with a masked sample in the second. -/
def maskedRows : SurfaceView (Exact ℚ) where
  points := [exactPoint (-6 / 5) 0 0, exactPoint (-4 / 5) 0 0, exactPoint (1 / 10) 0 0,
    exactPoint 99 99 99, exactPoint (9 / 10) 0 0, exactPoint (11 / 10) 0 0, exactPoint (9 / 5) 0 0]
  normals := List.replicate 7 (exactPoint 0 0 2)
  valid := [1, 1, 1, 0, 1, 0, 1]
  grid := some ⟨3, 2, 4⟩
  unit := .millimeter
  frame := exactFrame
  logicalSize := 6

noncomputable def oneSample : SurfaceView ℝ :=
  ⟨[⟨1, 0, 0⟩], [], [], none, .millimeter, exactFrame, 1⟩

/-- The padded surface over rational numbers; and one sample over real numbers. -/
theorem voxelSample_partition_padded :
    (((∃ e, voxelSample maskedRows (1 : Exact ℚ) = .error e) ↔ Unsampled maskedRows (1 : Exact ℚ)) ∧
      ∃ result, voxelSample maskedRows (1 : Exact ℚ) = .ok result ∧
        ∃ keys, CanonicalPartition maskedRows (1 : Exact ℚ) result keys) ∧
    ∃ result keys, CanonicalPartition oneSample (2 : ℝ) result keys ∧
      MeansInVoxels oneSample 2 result keys := by
  constructor
  · have hok : (voxelSample maskedRows (1 : Exact ℚ)).isOk = true := by
      decide +kernel
    obtain ⟨result, hresult⟩ := exists_ok hok
    obtain ⟨-, herror, hpartition⟩ :=
      voxelSample_partition.1 maskedRows (1 : Exact ℚ) rfl rfl rfl (by decide)
    exact ⟨herror inferInstance, result, hresult, hpartition result hresult⟩
  · obtain ⟨herror, hpartition⟩ := voxelSample_partition.2 oneSample 2 rfl rfl two_pos
    have hfloor : ⌊(2⁻¹ : ℝ)⌋ = 0 := by norm_num
    have hnone : ¬ ∃ e, voxelSample oneSample (2 : ℝ) = .error e := by
      rw [herror]
      rintro (hmasked | ⟨i, hi, -, houtside⟩)
      · cases hmasked 0 (List.mem_range.mpr Nat.one_pos)
      · obtain rfl : i = 0 := Nat.lt_one_iff.mp (List.mem_range.mp hi)
        simp [OutsideKeys, oneSample, hfloor] at houtside
    cases hresult : voxelSample oneSample (2 : ℝ) with
    | error e => exact absurd ⟨e, hresult⟩ hnone
    | ok result =>
      obtain ⟨keys, hkeys⟩ := hpartition result hresult
      exact ⟨result, keys, hkeys⟩

end Exactness

end PointcloudAd
