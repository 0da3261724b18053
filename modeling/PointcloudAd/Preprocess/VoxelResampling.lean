import PointcloudAd.Preprocess.RealVectors
import PointcloudAd.Preprocess.VoxelPartition

/-!
# Sampling again

Without rounding, a sampled surface is sampled to itself, with one source for every point, and the
order in which the samples of a surface are stored does not show.
-/

namespace PointcloudAd

open Library

section Sums

theorem addVector_right_comm (sum left right : Vec3 ℝ) :
    addVector (addVector sum left) right = addVector (addVector sum right) left := by
  change (⟨sum.x + left.x + right.x, sum.y + left.y + right.y, sum.z + left.z + right.z⟩ :
    Vec3 ℝ) = ⟨sum.x + right.x + left.x, sum.y + right.y + left.y, sum.z + right.z + left.z⟩
  rw [add_right_comm sum.x, add_right_comm sum.y, add_right_comm sum.z]

theorem addVector_default (value : Vec3 ℝ) : addVector (default : Vec3 ℝ) value = value := by
  change (⟨0 + value.x, 0 + value.y, 0 + value.z⟩ : Vec3 ℝ) = value
  rw [zero_add, zero_add, zero_add]

theorem foldl_addVector_perm {l l' : List (Vec3 ℝ)} (h : l.Perm l') (sum : Vec3 ℝ) :
    l.foldl addVector sum = l'.foldl addVector sum :=
  h.foldl_eq' (fun left _ right _ sum => addVector_right_comm sum left right) sum

theorem meanPoint_perm {l l' : List (Vec3 ℝ)} (h : l.Perm l') : meanPoint l = meanPoint l' := by
  unfold meanPoint
  rw [(h.map Vec3.x).sum_eq, (h.map Vec3.y).sum_eq, (h.map Vec3.z).sum_eq, h.length_eq]

theorem meanPoint_singleton (point : Vec3 ℝ) : meanPoint [point] = point := by
  unfold meanPoint
  simp

theorem normal_real (voxel : Accumulator ℝ) :
    (voxel.normal : Vec3 ℝ) = unitVector ℝ voxel.normalSum := by
  by_cases hzero : voxel.normalSum = default
  · have hlength : ¬ (0 : ℝ) < vectorLength voxel.normalSum := by
      rw [vectorLength_pos_iff, not_not]
      exact hzero
    rw [hzero, unitVector_default]
    exact if_neg fun h => hlength h.1
  · rw [unitVector_of_ne hzero]
    exact if_pos ⟨vectorLength_pos_iff.mpr hzero, rfl⟩

theorem unitVector_unitVector (value : Vec3 ℝ) :
    unitVector ℝ (unitVector ℝ value) = unitVector ℝ value := by
  by_cases hzero : value = default
  · rw [hzero, unitVector_default, unitVector_default]
  · exact unitVector_of_unit (dotFloat_unitVector_self hzero)

variable {surface : SurfaceView ℝ} {size : ℝ}

theorem voxelSums_normal (hne : surface.normals ≠ []) (key : VoxelKey) :
    ((voxelSums surface size key).normal : Vec3 ℝ) = unitVector ℝ
      (((voxelSamples surface size key).map fun i => surface.normals.getD i default).foldl addVector
        default) := by
  rw [normal_real]
  unfold voxelSums
  rw [foldl_add_normalSum hne]
  rfl

theorem hasKey_of_voxelOf {point point' : Vec3 ℝ} (h : voxelOf size point = voxelOf size point')
    (hkey : HasKey size point) : HasKey size point' := by
  rw [hasKey_real] at hkey ⊢
  rw [voxelOf_real, voxelOf_real, VoxelKey.mk.injEq] at h
  obtain ⟨hx, hy, hz⟩ := h
  unfold OutsideKeys at hkey ⊢
  rwa [← hx, ← hy, ← hz]

theorem exists_sampled
    (haccepted : validateSurfaceData surface.points surface.normals surface.valid surface.grid =
      .ok surface.logicalSize) (hunit : surface.unit = .millimeter) (hsize : 0 < size)
    (hkeys : ∀ i ∈ surface.validSamples, HasKey size (surface.points.getD i default))
    (hne : surface.validSamples ≠ []) :
    ∃ output, Sampled surface size ⟨output, (sampledArrays surface size).sourceOffsets,
      (sampledArrays surface size).sourceIndices⟩ := by
  obtain ⟨output, hcreate⟩ := (exists_sampledSurface_iff surface size hne).mpr fun key hkey =>
    finiteSample haccepted hkey
  exact ⟨output, hunit, rfl, not_le.mpr hsize, hkeys, hne, hcreate, rfl, rfl⟩

end Sums

section Again

variable {surface : SurfaceView ℝ} {size : ℝ} {result : VoxelSampleResult ℝ}

theorem Sampled.length_points (h : Sampled surface size result) :
    result.surface.view.points.length = (occupiedVoxels surface size).length := by
  rw [h.points]
  exact List.length_map _

theorem Sampled.validSamples_again (h : Sampled surface size result) :
    result.surface.view.validSamples = List.range (occupiedVoxels surface size).length := by
  have hlength := h.length_points
  have hview := OwnedSurface.view_of_create h.create
  unfold SurfaceView.validSamples SurfaceView.indices SurfaceView.storageSize
  rw [hlength, hview]
  exact List.filter_eq_self.mpr fun _ _ => rfl

theorem Sampled.voxelOf_again (h : Sampled surface size result) {k : ℕ} {key : VoxelKey}
    (hk : (occupiedVoxels surface size)[k]? = some key) :
    voxelOf size (result.surface.view.points.getD k default) = key := by
  obtain ⟨point, hpoint, -, hvoxel⟩ := h.meansInVoxels k key hk
  rw [List.getD_eq_getElem?_getD, hpoint]
  exact hvoxel

theorem Sampled.mem_validSamples_again (h : Sampled surface size result) {k : ℕ} :
    k ∈ result.surface.view.validSamples ↔
      ∃ key, (occupiedVoxels surface size)[k]? = some key := by
  rw [h.validSamples_again, List.mem_range]
  constructor
  · intro hk
    exact ⟨_, List.getElem?_eq_getElem hk⟩
  · rintro ⟨key, hk⟩
    exact (List.getElem?_eq_some_iff.mp hk).1

theorem Sampled.occupiedVoxels_again (h : Sampled surface size result) :
    occupiedVoxels result.surface.view size = occupiedVoxels surface size := by
  apply (pairwise_occupiedVoxels _ _).eq_of_mem_iff (pairwise_occupiedVoxels _ _)
  intro key
  rw [mem_occupiedVoxels]
  simp only [← mem_validSamples]
  constructor
  · rintro ⟨k, hk, hvoxel⟩
    obtain ⟨key', hk⟩ := h.mem_validSamples_again.mp hk
    rw [h.voxelOf_again hk] at hvoxel
    exact hvoxel ▸ List.mem_of_getElem? hk
  · intro hkey
    obtain ⟨k, hk⟩ := List.mem_iff_getElem?.mp hkey
    exact ⟨k, h.mem_validSamples_again.mpr ⟨key, hk⟩, h.voxelOf_again hk⟩

theorem Sampled.voxelSamples_again (h : Sampled surface size result) {k : ℕ} {key : VoxelKey}
    (hk : (occupiedVoxels surface size)[k]? = some key) :
    voxelSamples result.surface.view size key = [k] := by
  have hnodup : (occupiedVoxels surface size).Nodup :=
    (pairwise_occupiedVoxels surface size).imp ne_of_lt
  have hpairwise : (voxelSamples result.surface.view size key).Pairwise (· < ·) := by
    unfold voxelSamples
    rw [h.validSamples_again]
    exact List.pairwise_lt_range.filter _
  apply hpairwise.eq_of_mem_iff (List.pairwise_singleton _ _)
  intro j
  rw [mem_voxelSamples, ← mem_validSamples, h.mem_validSamples_again, List.mem_singleton]
  constructor
  · rintro ⟨⟨key', hj⟩, hvoxel⟩
    rw [h.voxelOf_again hj] at hvoxel
    subst hvoxel
    obtain ⟨hlt, hget⟩ := List.getElem?_eq_some_iff.mp hk
    obtain ⟨hlt', hget'⟩ := List.getElem?_eq_some_iff.mp hj
    exact (hnodup.getElem_inj_iff).mp (hget'.trans hget.symm)
  · rintro rfl
    exact ⟨⟨key, hk⟩, h.voxelOf_again hk⟩

theorem Sampled.groups_again (h : Sampled surface size result) :
    (occupiedVoxels surface size).map (voxelSamples result.surface.view size) =
      (List.range (occupiedVoxels surface size).length).map fun k => [k] := by
  apply List.ext_getElem?
  intro k
  rw [List.getElem?_map, List.getElem?_map]
  cases hk : (occupiedVoxels surface size)[k]? with
  | none =>
    rw [List.getElem?_eq_none_iff] at hk
    rw [List.getElem?_eq_none (by simpa using hk)]
    rfl
  | some key =>
    obtain ⟨hlt, -⟩ := List.getElem?_eq_some_iff.mp hk
    rw [Option.map_some, h.voxelSamples_again hk, List.getElem?_range hlt, Option.map_some]

theorem groupOffsets_singletons (n : ℕ) :
    groupOffsets ((List.range n).map fun k => [k]) = List.range (n + 1) := by
  induction n with
  | zero => rfl
  | succ n ih =>
    have hlength : ((List.range (n + 1)).map fun k => [k]).flatten.length = n + 1 := by
      rw [← List.flatMap_def, List.flatMap_singleton', List.length_range]
    rw [List.range_succ, List.map_append, List.map_singleton] at hlength ⊢
    rw [groupOffsets_concat, ih, hlength, ← List.range_succ]

theorem Sampled.normals_again (h : Sampled surface size result) (hne : surface.normals ≠ []) {k : ℕ}
    {key : VoxelKey} (hk : (occupiedVoxels surface size)[k]? = some key) :
    result.surface.view.normals ≠ [] ∧
      result.surface.view.normals[k]? = some (voxelSums surface size key).normal := by
  have hnormal : result.surface.view.normals[k]? = some (voxelSums surface size key).normal := by
    rw [h.normals]
    unfold sampledArrays
    dsimp only
    rw [if_neg hne, List.getElem?_map, hk]
    rfl
  refine ⟨?_, hnormal⟩
  intro hnil
  rw [hnil] at hnormal
  cases hnormal

/-- Sampled again, every array of a sampled surface is what it was, and every point is its own
source. -/
theorem Sampled.sampledArrays_again (h : Sampled surface size result) :
    sampledArrays result.surface.view size =
      { points := result.surface.view.points
        normals := result.surface.view.normals
        sourceOffsets := List.range ((occupiedVoxels surface size).length + 1)
        sourceIndices := List.range (occupiedVoxels surface size).length } := by
  have hgroups := h.groups_again
  unfold sampledArrays
  rw [h.occupiedVoxels_again, List.flatMap_def, hgroups, groupOffsets_singletons]
  congr 1
  case e_points =>
    apply List.ext_getElem?
    intro k
    rw [List.getElem?_map]
    cases hk : (occupiedVoxels surface size)[k]? with
    | none =>
      rw [List.getElem?_eq_none_iff, ← h.length_points] at hk
      rw [List.getElem?_eq_none hk]
      rfl
    | some key =>
      obtain ⟨point, hpoint, -⟩ := h.meansInVoxels k key hk
      rw [Option.map_some, voxelSums_point, h.voxelSamples_again hk, List.map_singleton,
        meanPoint_singleton, List.getD_eq_getElem?_getD, hpoint]
      rfl
  case e_normals =>
    by_cases hne : surface.normals = []
    · have hnil : result.surface.view.normals = [] := by
        rw [h.normals]
        exact if_pos hne
      rw [hnil]
      rfl
    · obtain ⟨key, hkey⟩ := List.exists_mem_of_ne_nil _
        (mt (occupiedVoxels_eq_nil surface size).mp h.nonempty)
      obtain ⟨k, hk⟩ := List.mem_iff_getElem?.mp hkey
      have hagain := (h.normals_again hne hk).1
      rw [if_neg hagain]
      apply List.ext_getElem?
      intro k
      rw [List.getElem?_map]
      cases hk : (occupiedVoxels surface size)[k]? with
      | none =>
        have hlength : result.surface.view.normals.length =
            (occupiedVoxels surface size).length := by
          rw [h.normals]
          unfold sampledArrays
          dsimp only
          rw [if_neg hne, List.length_map]
        rw [List.getElem?_eq_none_iff, ← hlength] at hk
        rw [List.getElem?_eq_none hk]
        rfl
      | some key =>
        obtain ⟨-, hnormal⟩ := h.normals_again hne hk
        rw [Option.map_some, hnormal, voxelSums_normal hagain, h.voxelSamples_again hk,
          List.map_singleton, List.foldl_cons, List.foldl_nil, addVector_default,
          List.getD_eq_getElem?_getD, hnormal, Option.getD_some, normal_real,
          unitVector_unitVector]
  case e_sourceIndices => rw [← List.flatMap_def, List.flatMap_singleton']

theorem Sampled.size_eq (h : Sampled surface size result) :
    result.surface.view.size = (occupiedVoxels surface size).length := by
  have hsize := result.surface.shaped.length_indices
  have hindices : result.surface.view.indices = List.range result.surface.view.points.length := by
    rw [OwnedSurface.view_of_create h.create]
    rfl
  rw [SurfaceView.size, ← hsize, hindices, List.length_range, h.length_points]

/-- What a sampled surface is sampled to. -/
structure SampledAgain (result again : VoxelSampleResult ℝ) : Prop where
  points : again.surface.view.points = result.surface.view.points
  normals : again.surface.view.normals = result.surface.view.normals
  offsets : again.sourceOffsets = List.range (result.surface.view.size + 1)
  indices : again.sourceIndices = List.range result.surface.view.size

theorem Sampled.again (h : Sampled surface size result) :
    ∃ again, voxelSample result.surface.view size = .ok again ∧ SampledAgain result again := by
  have hview := OwnedSurface.view_of_create h.create
  have hkeys : ∀ k ∈ result.surface.view.validSamples,
      HasKey size (result.surface.view.points.getD k default) := by
    intro k hk
    obtain ⟨key, hk⟩ := h.mem_validSamples_again.mp hk
    obtain ⟨i, hi, hvoxel⟩ := (mem_occupiedVoxels surface size).mp (List.mem_of_getElem? hk)
    apply hasKey_of_voxelOf (hvoxel.trans (h.voxelOf_again hk).symm)
    exact h.keys i ((mem_validSamples surface).mpr hi)
  have hne : result.surface.view.validSamples ≠ [] := by
    rw [h.validSamples_again, ne_eq, List.range_eq_nil, List.length_eq_zero_iff,
      occupiedVoxels_eq_nil]
    exact h.nonempty
  have haccepted : validateSurfaceData result.surface.view.points result.surface.view.normals
      result.surface.view.valid result.surface.view.grid =
        .ok result.surface.view.logicalSize := result.surface.accepted
  have hunit : result.surface.view.unit = .millimeter := by rw [hview]
  obtain ⟨output, hsampled⟩ := exists_sampled haccepted hunit (not_le.mp h.positive) hkeys hne
  refine ⟨_, (voxelSample_ok_iff result.surface.shaped).mpr hsampled, ?_⟩
  have harrays := h.sampledArrays_again
  constructor
  case points => rw [hsampled.points, harrays]
  case normals => rw [hsampled.normals, harrays]
  case offsets => rw [hsampled.offsets, harrays, h.size_eq]
  case indices => rw [hsampled.indices, harrays, h.size_eq]

end Again

section Reorder

variable {F D : Type} [FloatArith F] [FloatArith D] [Floats F D] [FloorFunctions D]

/-- The samples of a surface in another order: position `k` holds the sample `order[k]`. -/
def SurfaceView.reorder (surface : SurfaceView F) (order : List ℕ) : SurfaceView F where
  points := order.map fun i => surface.points.getD i default
  normals :=
    if surface.normals = [] then [] else order.map fun i => surface.normals.getD i default
  valid := if surface.valid = [] then [] else order.map fun i => surface.valid.getD i 0
  grid := none
  unit := surface.unit
  frame := surface.frame
  logicalSize := surface.logicalSize

theorem map_getD_range (order : List ℕ) :
    (List.range order.length).map (fun k => order.getD k 0) = order := by
  apply List.ext_getElem
  · simp
  · intro k hk hk'
    rw [List.getElem_map, List.getElem_range, List.getD_eq_getElem _ _ hk']

theorem getD_map_order {α : Type} (f : ℕ → α) (d : α) {order : List ℕ} {k : ℕ}
    (hk : k < order.length) : (order.map f).getD k d = f (order.getD k 0) := by
  simp [List.getD_eq_getElem?_getD, hk]

variable {surface : SurfaceView F} {order : List ℕ} {size : D}

variable (surface order) in
theorem reorder_indices :
    (surface.reorder order).indices = List.range order.length := by
  unfold SurfaceView.indices SurfaceView.storageSize SurfaceView.reorder logicalIndices
  dsimp only
  rw [List.length_map]

theorem reorder_point {k : ℕ} (hk : k < order.length) :
    (surface.reorder order).points.getD k default =
      surface.points.getD (order.getD k 0) default := getD_map_order _ _ hk

theorem reorder_normals_eq_nil (hne : order ≠ []) :
    (surface.reorder order).normals = [] ↔ surface.normals = [] := by
  unfold SurfaceView.reorder
  dsimp only
  split_ifs with h
  · exact iff_of_true rfl h
  · exact iff_of_false (mt List.map_eq_nil_iff.mp hne) h

theorem reorder_normal (hnormals : surface.normals ≠ []) {k : ℕ} (hk : k < order.length) :
    (surface.reorder order).normals.getD k default =
      surface.normals.getD (order.getD k 0) default := by
  unfold SurfaceView.reorder
  dsimp only
  rw [if_neg hnormals]
  exact getD_map_order _ _ hk

theorem reorder_isValidIndex {k : ℕ} (hk : k < order.length) :
    (surface.reorder order).isValidIndex k = surface.isValidIndex (order.getD k 0) := by
  unfold SurfaceView.isValidIndex maskValid SurfaceView.reorder
  dsimp only
  by_cases hv : surface.valid = []
  · rw [if_pos hv, hv]
    rfl
  · have hne : order ≠ [] := by
      rintro rfl
      cases hk
    rw [if_neg hv, getD_map_order _ _ hk]
    congr 1
    rw [Bool.eq_iff_iff, List.isEmpty_iff, List.isEmpty_iff, List.map_eq_nil_iff]
    exact iff_of_false hne hv

theorem validSamples_reorder :
    (surface.reorder order).validSamples.map (fun k => order.getD k 0) =
      order.filter surface.isValidIndex := by
  have hvalid : (surface.reorder order).validSamples = (List.range order.length).filter
      (surface.isValidIndex ∘ fun k => order.getD k 0) := by
    unfold SurfaceView.validSamples
    rw [reorder_indices]
    apply List.filter_congr
    intro k hk
    exact reorder_isValidIndex (List.mem_range.mp hk)
  rw [hvalid, ← List.filter_map, map_getD_range]

theorem mem_reorder {k : ℕ} (hk : k ∈ (surface.reorder order).validSamples) : k < order.length := by
  have hk := ((mem_validSamples _).mp hk).1
  rwa [reorder_indices, List.mem_range] at hk

theorem voxelSamples_reorder (key : VoxelKey) :
    (voxelSamples (surface.reorder order) size key).map (fun k => order.getD k 0) =
      (order.filter surface.isValidIndex).filter fun i =>
        voxelOf size (surface.points.getD i default) = key := by
  have hvoxel : voxelSamples (surface.reorder order) size key =
      (surface.reorder order).validSamples.filter ((fun i : ℕ => decide
        (voxelOf size (surface.points.getD i default) = key)) ∘ fun k => order.getD k 0) := by
    unfold voxelSamples
    apply List.filter_congr
    intro k hk
    rw [reorder_point (mem_reorder hk)]
    rfl
  rw [hvoxel, ← List.filter_map, validSamples_reorder]

section Permutation

variable (hgrid : surface.grid = none) (horder : order.Perm (List.range surface.points.length))

include hgrid horder

omit [FloatArith F] in
theorem validSamples_perm :
    (order.filter surface.isValidIndex).Perm surface.validSamples := by
  unfold SurfaceView.validSamples SurfaceView.indices
  rw [hgrid]
  exact horder.filter _

theorem voxelSamples_perm (key : VoxelKey) :
    ((voxelSamples (surface.reorder order) size key).map fun k => order.getD k 0).Perm
      (voxelSamples surface size key) := by
  rw [voxelSamples_reorder]
  exact (validSamples_perm hgrid horder).filter _

theorem occupiedVoxels_reorder :
    occupiedVoxels (surface.reorder order) size = occupiedVoxels surface size := by
  have hmem : ∀ (s : SurfaceView F) key,
      key ∈ occupiedVoxels s size ↔ voxelSamples s size key ≠ [] := by
    intro s key
    constructor
    · exact voxelSamples_ne_nil s size
    · intro hne
      obtain ⟨i, hi⟩ := List.exists_mem_of_ne_nil _ hne
      exact (mem_occupiedVoxels s size).mpr ⟨i, (mem_voxelSamples s size).mp hi⟩
  apply (pairwise_occupiedVoxels _ _).eq_of_mem_iff (pairwise_occupiedVoxels _ _)
  intro key
  have hlength : (voxelSamples (surface.reorder order) size key).length =
      (voxelSamples surface size key).length := by
    rw [← (voxelSamples_perm hgrid horder key).length_eq, List.length_map]
  rw [hmem, hmem, ← List.length_pos_iff, ← List.length_pos_iff, hlength]

/-- The order of the samples keeps a surface accepted. -/
theorem validate_reorder
    (haccepted : validateSurfaceData surface.points surface.normals surface.valid surface.grid =
      .ok surface.logicalSize) :
    validateSurfaceData (surface.reorder order).points (surface.reorder order).normals
      (surface.reorder order).valid (surface.reorder order).grid =
        .ok (surface.reorder order).logicalSize := by
  rw [← validateSurfaceDataWord_eq, validateSurfaceDataWord_iff (by decide)] at haccepted ⊢
  obtain ⟨⟨hpoints, hnormals, hvalid⟩, -, hsamples, hsize⟩ := haccepted
  have hlength : order.length = surface.points.length := by
    rw [horder.length_eq, List.length_range]
  have hne : order ≠ [] := by
    rintro rfl
    exact hpoints (List.length_eq_zero_iff.mp hlength.symm)
  rw [hgrid] at hsamples hsize
  refine ⟨⟨?_, ?_, ?_⟩, (fun _ hgrid' => by cases hgrid'), ?_, ?_⟩
  · exact mt List.map_eq_nil_iff.mp hne
  · unfold SurfaceView.reorder
    dsimp only
    split_ifs
    · exact .inl rfl
    · exact .inr (by rw [List.length_map, List.length_map])
  · unfold SurfaceView.reorder
    dsimp only
    split_ifs
    · exact .inl rfl
    · exact .inr (by rw [List.length_map, List.length_map])
  · intro k hk
    have hk : k < order.length := by
      rw [← List.mem_range, ← reorder_indices surface order]
      exact hk
    have hi : order.getD k 0 ∈ logicalIndices none surface.points.length := by
      apply horder.mem_iff.mp
      rw [List.getD_eq_getElem _ _ hk]
      exact List.getElem_mem hk
    obtain ⟨hmask, hpoint, hnormal⟩ := hsamples _ hi
    have hvalid : (surface.reorder order).isValidIndex k =
        surface.isValidIndex (order.getD k 0) := reorder_isValidIndex hk
    unfold SurfaceView.isValidIndex at hvalid
    constructor
    case mask =>
      unfold SurfaceView.reorder
      dsimp only
      split_ifs with hv
      · exact .inl rfl
      · rw [getD_map_order _ _ hk]
        exact .inr (hmask.resolve_left hv)
    case point =>
      rw [hvalid, reorder_point hk]
      exact hpoint
    case normal =>
      rw [hvalid]
      intro hmasked hnormals
      rw [ne_eq, reorder_normals_eq_nil hne] at hnormals
      rw [reorder_normal hnormals hk]
      exact hnormal hmasked hnormals
  · rw [show (surface.reorder order).logicalSize = surface.logicalSize from rfl, hsize]
    exact (hlength.symm).trans (List.length_map _).symm

end Permutation

end Reorder

section RealReorder

variable {surface : SurfaceView ℝ} {size : ℝ} {order : List ℕ} {result : VoxelSampleResult ℝ}

theorem map_voxelSamples_perm {α : Type} (hgrid : surface.grid = none)
    (horder : order.Perm (List.range surface.points.length)) (key : VoxelKey) {f g : ℕ → α}
    (hfg : ∀ k < order.length, f k = g (order.getD k 0)) :
    ((voxelSamples (surface.reorder order) size key).map f).Perm
      ((voxelSamples surface size key).map g) := by
  have hmap : (voxelSamples (surface.reorder order) size key).map f =
      ((voxelSamples (surface.reorder order) size key).map fun k => order.getD k 0).map g := by
    rw [List.map_map]
    apply List.map_congr_left
    intro k hk
    exact hfg k (mem_reorder (List.mem_of_mem_filter hk))
  rw [hmap]
  exact (voxelSamples_perm hgrid horder key).map g

theorem sampledArrays_reorder (hgrid : surface.grid = none)
    (horder : order.Perm (List.range surface.points.length)) (hne : order ≠ []) :
    (sampledArrays (surface.reorder order) size).points = (sampledArrays surface size).points ∧
      (sampledArrays (surface.reorder order) size).normals =
        (sampledArrays surface size).normals := by
  unfold sampledArrays
  dsimp only
  rw [occupiedVoxels_reorder hgrid horder]
  constructor
  · apply List.map_congr_left
    intro key _
    rw [voxelSums_point, voxelSums_point]
    exact meanPoint_perm (map_voxelSamples_perm hgrid horder key fun k hk => reorder_point hk)
  · by_cases hnormals : surface.normals = []
    · rw [if_pos hnormals, if_pos ((reorder_normals_eq_nil hne).mpr hnormals)]
    · have hnormals' := mt (reorder_normals_eq_nil hne).mp hnormals
      rw [if_neg hnormals, if_neg hnormals']
      apply List.map_congr_left
      intro key _
      rw [voxelSums_normal hnormals, voxelSums_normal hnormals']
      congr 1
      exact foldl_addVector_perm (map_voxelSamples_perm hgrid horder key fun k hk =>
        reorder_normal hnormals hk) default

/-- What a surface is sampled to whose samples are stored in another order. -/
structure SampledReordered (order : List ℕ) (result again : VoxelSampleResult ℝ) : Prop where
  points : again.surface.view.points = result.surface.view.points
  normals : again.surface.view.normals = result.surface.view.normals
  sources : ∀ k < result.surface.view.size,
    ((again.sourcesFor k).map fun j => order.getD j 0).Perm (result.sourcesFor k)

theorem Sampled.reordered (h : Sampled surface size result)
    (haccepted : validateSurfaceData surface.points surface.normals surface.valid surface.grid =
      .ok surface.logicalSize) (hgrid : surface.grid = none)
    (horder : order.Perm (List.range surface.points.length)) :
    ∃ again, voxelSample (surface.reorder order) size = .ok again ∧
      SampledReordered order result again := by
  have hsamples : (surface.reorder order).validSamples.length = surface.validSamples.length := by
    rw [← (validSamples_perm hgrid horder).length_eq, ← validSamples_reorder, List.length_map]
  have hne : (surface.reorder order).validSamples ≠ [] := by
    rw [← List.length_pos_iff, hsamples, List.length_pos_iff]
    exact h.nonempty
  have horderNe : order ≠ [] := by
    rintro rfl
    exact hne (List.eq_nil_iff_forall_not_mem.mpr fun k hk => by cases mem_reorder hk)
  have hkeys : ∀ k ∈ (surface.reorder order).validSamples,
      HasKey size ((surface.reorder order).points.getD k default) := by
    intro k hk
    rw [reorder_point (mem_reorder hk)]
    apply h.keys
    rw [← (validSamples_perm hgrid horder).mem_iff, ← validSamples_reorder]
    exact List.mem_map_of_mem hk
  have haccepted' := validate_reorder hgrid horder haccepted
  obtain ⟨hpoints, hnormals⟩ :
      (sampledArrays (surface.reorder order) size).points = (sampledArrays surface size).points ∧
        (sampledArrays (surface.reorder order) size).normals =
          (sampledArrays surface size).normals := sampledArrays_reorder hgrid horder horderNe
  obtain ⟨output, hsampled⟩ := exists_sampled haccepted' h.unit (not_le.mp h.positive) hkeys hne
  have hshaped := (validateSurfaceData_ok haccepted' surface.unit surface.frame).1
  refine ⟨_, (voxelSample_ok_iff hshaped).mpr hsampled, ?_⟩
  constructor
  case points => rw [hsampled.points, h.points, hpoints]
  case normals => rw [hsampled.normals, h.normals, hnormals]
  case sources =>
    intro k hk
    rw [h.size_eq] at hk
    have hkey := List.getElem?_eq_getElem hk
    have hkey' : (occupiedVoxels (surface.reorder order) size)[k]? =
        some (occupiedVoxels surface size)[k] := by
      rw [occupiedVoxels_reorder hgrid horder]
      exact hkey
    rw [hsampled.sourcesFor hkey', h.sourcesFor hkey]
    exact voxelSamples_perm hgrid horder _

/-- Without rounding, for every accepted surface and size on which sampling succeeds: sampling the
result again gives the same points and normals, each with itself as its only source; and however the
samples of an unorganized surface are reordered, the points and the normals are the same and the
sources of every point move with the samples. -/
theorem voxelSample_invariant (surface : SurfaceView ℝ) (size : ℝ) (result : VoxelSampleResult ℝ)
    (haccepted : validateSurfaceData surface.points surface.normals surface.valid surface.grid =
      .ok surface.logicalSize) (hresult : voxelSample surface size = .ok result) :
    (∃ again, voxelSample result.surface.view size = .ok again ∧ SampledAgain result again) ∧
      (surface.grid = none → ∀ order : List ℕ, order.Perm (List.range surface.points.length) →
        ∃ again, voxelSample (surface.reorder order) size = .ok again ∧
          SampledReordered order result again) := by
  have hs := (validateSurfaceData_ok haccepted surface.unit surface.frame).1
  have hsampled : Sampled surface size result := (voxelSample_ok_iff hs).mp hresult
  exact ⟨hsampled.again, fun hgrid order horder => hsampled.reordered haccepted hgrid horder⟩

/-- Two points of one cube with opposite normals. -/
noncomputable def opposedPair : SurfaceView ℝ :=
  ⟨[⟨1, 0, 0⟩, ⟨0, 0, 0⟩], [⟨0, 0, 1⟩, ⟨0, 0, -1⟩], [], none, .millimeter, exactFrame, 2⟩

theorem voxelSample_invariant_pair :
    ∃ result, voxelSample opposedPair (2 : ℝ) = .ok result ∧
      (∃ again, voxelSample result.surface.view (2 : ℝ) = .ok again ∧ SampledAgain result again) ∧
      ∃ again, voxelSample (opposedPair.reorder [1, 0]) (2 : ℝ) = .ok again ∧
        SampledReordered [1, 0] result again := by
  have haccepted : validateSurfaceData opposedPair.points opposedPair.normals opposedPair.valid
      opposedPair.grid = .ok opposedPair.logicalSize := rfl
  have hsamples : opposedPair.validSamples = [0, 1] := rfl
  have hfloor : ⌊(2⁻¹ : ℝ)⌋ = 0 := by norm_num
  have hkeys : ∀ i ∈ opposedPair.validSamples,
      HasKey (2 : ℝ) (opposedPair.points.getD i default) := by
    intro i hi
    rw [hsamples] at hi
    rw [hasKey_real]
    rcases List.mem_pair.mp hi with rfl | rfl <;> simp [OutsideKeys, opposedPair, hfloor]
  obtain ⟨output, hsampled⟩ := exists_sampled haccepted rfl two_pos hkeys (by simp [hsamples])
  have hresult := (voxelSample_ok_iff (validateSurfaceData_ok haccepted _ _).1).mpr hsampled
  obtain ⟨hagain, hreordered⟩ := voxelSample_invariant opposedPair 2 _ haccepted hresult
  exact ⟨_, hresult, hagain, hreordered rfl [1, 0] (List.Perm.swap 0 1 [])⟩

end RealReorder

end PointcloudAd
