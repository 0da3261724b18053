import PointcloudAd.Backends.PclComparison
import PointcloudAd.Backends.PclIoRoundTrip

/-!
# Logical indices in machine words

The walks over the samples of a surface, computed in words of any width from 32 bits on. On a
surface that the checks accept no word wraps, and the two ways of walking a grid agree.
-/

namespace PointcloudAd

open Library

/-- The index of a sample of a grid, in `w`-bit arithmetic. -/
def gridIndexAt (w : ℕ) (grid : GridTopology) (row column : ℕ) : ℕ :=
  (row * grid.rowStride.toNat % 2 ^ w + column) % 2 ^ w

/-- The indices that `for_each_logical_index` computes. -/
def logicalIndicesAt (w : ℕ) (grid : Option GridTopology) (storageSize : ℕ) : List ℕ :=
  match grid with
  | none => List.range storageSize
  | some grid => (List.range grid.height.toNat).flatMap fun row =>
      (List.range grid.width.toNat).map fun column => gridIndexAt w grid row column

/-- The index that a parallel loop computes for a logical one. -/
def storageIndexAt (w : ℕ) (grid : Option GridTopology) (logical : ℕ) : ℕ :=
  match grid with
  | none => logical
  | some grid =>
    gridIndexAt w grid (logical / grid.width.toNat) (logical % grid.width.toNat)

/-- `validate_surface_data` with every index computed in `w`-bit arithmetic. -/
def validateSurfaceDataWord {F : Type} [FloatArith F] (w : ℕ) (points normals : List (Vec3 F))
    (valid : List UInt8) (grid : Option GridTopology) : Result ℕ :=
  if points = [] then .error (surfaceError "points" "must not be empty")
  else if normals ≠ [] ∧ normals.length ≠ points.length then
    .error (surfaceError "normals" "must be empty or match point storage size")
  else if valid ≠ [] ∧ valid.length ≠ points.length then
    .error (surfaceError "valid" "must be empty or match point storage size")
  else do
    let logicalSize ← checkStorage w points.length grid
    forM (logicalIndicesAt w grid points.length) (checkIndex points normals valid)
    return logicalSize

/-- No size of a grid wraps: neither the row count, a 32-bit word, nor the `w`-bit sizes. -/
structure GridSizesExact (w : ℕ) (grid : GridTopology) : Prop where
  rows : (grid.height - 1).toNat = grid.height.toNat - 1
  limit : grid.width.toNat ≤ 2 ^ w - 1
  paddedRows : (grid.height.toNat - 1) * grid.rowStride.toNat < 2 ^ w
  requiredStorage : (grid.height.toNat - 1) * grid.rowStride.toNat + grid.width.toNat < 2 ^ w
  logicalSize : grid.width.toNat * grid.height.toNat < 2 ^ w

theorem GridTopology.toNat_rows {grid : GridTopology} (h : 0 < grid.height.toNat) :
    (grid.height - 1).toNat = grid.height.toNat - 1 := by
  rw [UInt32.toNat_sub_of_le]
  · rfl
  · rw [UInt32.le_iff_toNat_le]
    exact h

namespace GridFits

variable {w storageSize : ℕ} {grid : GridTopology}

theorem size_le (h : GridFits w storageSize grid) :
    grid.width.toNat * grid.height.toNat ≤ storageSize := by
  obtain ⟨rows, hrows⟩ := Nat.exists_eq_succ_of_ne_zero h.height_pos.ne'
  have hle := Nat.mul_le_mul_left rows h.width_le
  have hstorage := h.storage
  rw [hrows, Nat.succ_sub_one] at hstorage
  rw [hrows, Nat.mul_succ, Nat.mul_comm grid.width.toNat]
  omega

theorem sizesExact (h : GridFits w storageSize grid) : GridSizesExact w grid := by
  have hsize := h.size_le
  have hfits := h.fits
  have hstorage := h.storage
  exact ⟨GridTopology.toNat_rows h.height_pos, by omega, by omega, by omega, by omega⟩

theorem index_lt (h : GridFits w storageSize grid) {row column : ℕ} (hrow : row < grid.height.toNat)
    (hcolumn : column < grid.width.toNat) :
    row * grid.rowStride.toNat + column < storageSize := by
  have hle := Nat.mul_le_mul_right grid.rowStride.toNat (Nat.le_sub_one_of_lt hrow)
  have hstorage := h.storage
  omega

theorem gridIndexAt_eq (h : GridFits w storageSize grid) {row column : ℕ}
    (hrow : row < grid.height.toNat) (hcolumn : column < grid.width.toNat) :
    gridIndexAt w grid row column = row * grid.rowStride.toNat + column := by
  have hlt := (h.index_lt hrow hcolumn).trans h.fits
  unfold gridIndexAt
  rw [Nat.mod_eq_of_lt (a := row * _) (by omega), Nat.mod_eq_of_lt hlt]

theorem logicalIndicesAt_eq (h : GridFits w storageSize grid) :
    logicalIndicesAt w (some grid) storageSize = grid.logicalIndices := by
  apply List.flatMap_congr
  intro row hrow
  apply List.map_congr_left
  intro column hcolumn
  exact h.gridIndexAt_eq (List.mem_range.mp hrow) (List.mem_range.mp hcolumn)

theorem storageIndexAt_eq (h : GridFits w storageSize grid) {logical : ℕ}
    (hlogical : logical < grid.width.toNat * grid.height.toNat) :
    storageIndexAt w (some grid) logical = storageIndex (some grid) logical :=
  h.gridIndexAt_eq (Nat.div_lt_of_lt_mul hlogical) (Nat.mod_lt _ h.width_pos)

theorem logicalIndices_eq_map (h : GridFits w storageSize grid) :
    grid.logicalIndices =
      (List.range (grid.width.toNat * grid.height.toNat)).map (storageIndexAt w (some grid)) := by
  have hmap : (List.range (grid.width.toNat * grid.height.toNat)).map
      (storageIndexAt w (some grid)) =
      (List.range (grid.width.toNat * grid.height.toNat)).map (storageIndex (some grid)) := by
    apply List.map_congr_left
    intro logical hlogical
    exact h.storageIndexAt_eq (List.mem_range.mp hlogical)
  rw [hmap, Nat.mul_comm, grid.range_storageIndex h.width_pos]
  rfl

theorem pairwise_logicalIndices (h : GridFits w storageSize grid) :
    grid.logicalIndices.Pairwise (· < ·) := by
  unfold GridTopology.logicalIndices
  rw [List.pairwise_flatMap]
  constructor
  · intro row _
    rw [List.pairwise_map]
    exact List.pairwise_lt_range.imp fun hlt => Nat.add_lt_add_left hlt _
  · apply List.pairwise_lt_range.imp
    intro row next hlt i hi j hj
    obtain ⟨column, hcolumn, rfl⟩ := List.mem_map.mp hi
    obtain ⟨column', -, rfl⟩ := List.mem_map.mp hj
    have hle := Nat.mul_le_mul_right grid.rowStride.toNat (Nat.succ_le_of_lt hlt)
    have hcolumn := List.mem_range.mp hcolumn
    have hwidth := h.width_le
    rw [Nat.succ_mul] at hle
    omega

/-- A grid that fits passes the checks. -/
theorem checkGrid (h : GridFits w storageSize grid) :
    checkGrid w storageSize grid = .ok (grid.width.toNat * grid.height.toNat) := by
  obtain ⟨hrows, hlimit, hpadded, hrequired, hlogical⟩ := h.sizesExact
  have hwidth := h.width_pos
  have hheight := h.height_pos
  have hstorage := h.storage
  have hstride := h.width_le
  unfold PointcloudAd.checkGrid
  dsimp only
  rw [hrows, Nat.mod_eq_of_lt hpadded, Nat.mod_eq_of_lt hrequired, Nat.mod_eq_of_lt hlogical,
    if_neg, if_neg, if_neg, if_neg]
  · exact not_not_intro hstorage
  · rw [Nat.not_lt, Nat.le_div_iff_mul_le (by omega)]
    omega
  · rw [UInt32.lt_iff_toNat_lt]
    omega
  · rintro (he | he)
    · rw [he] at hwidth
      exact absurd hwidth (by decide)
    · rw [he] at hheight
      exact absurd hheight (by decide)

end GridFits

theorem checkGrid_iff {w storageSize n : ℕ} {grid : GridTopology} (hw : 32 ≤ w) :
    checkGrid w storageSize grid = .ok n ↔
      GridFits w storageSize grid ∧ n = grid.width.toNat * grid.height.toNat := by
  constructor
  · exact checkGrid_ok hw
  · rintro ⟨hfits, rfl⟩
    exact hfits.checkGrid

/-- The number of samples, without wrapping. -/
def logicalCount (grid : Option GridTopology) (storageSize : ℕ) : ℕ :=
  grid.elim storageSize fun grid => grid.width.toNat * grid.height.toNat

/-- A grid, if there is one, fits the storage. -/
def GridConsistent (w : ℕ) (grid : Option GridTopology) (storageSize : ℕ) : Prop :=
  ∀ topology, grid = some topology → GridFits w storageSize topology

/-- The mask of a sample is 0 or 1, and where it is valid its coordinates and its normal are
finite. -/
structure SampleAccepted {F : Type} [FloatArith F] (points normals : List (Vec3 F))
    (valid : List UInt8) (index : ℕ) : Prop where
  mask : valid = [] ∨ valid.getD index 0 = 0 ∨ valid.getD index 0 = 1
  point : maskValid valid index = true → (points.getD index default).finite = true
  normal : maskValid valid index = true → normals ≠ [] →
    (normals.getD index default).finite = true

section Surfaces

variable {w storageSize : ℕ} {grid : Option GridTopology}

theorem checkStorage_iff {n : ℕ} (hw : 32 ≤ w) :
    checkStorage w storageSize grid = .ok n ↔
      GridConsistent w grid storageSize ∧ n = logicalCount grid storageSize := by
  cases grid with
  | none => simp [checkStorage, GridConsistent, logicalCount, eq_comm]
  | some topology => simp [checkStorage, GridConsistent, logicalCount, checkGrid_iff hw]

theorem GridConsistent.logicalIndicesAt_eq (h : GridConsistent w grid storageSize) :
    logicalIndicesAt w grid storageSize = logicalIndices grid storageSize := by
  cases grid with
  | none => rfl
  | some topology => exact (h topology rfl).logicalIndicesAt_eq

theorem GridConsistent.logicalIndices_eq_map (h : GridConsistent w grid storageSize) :
    logicalIndices grid storageSize =
      (List.range (logicalCount grid storageSize)).map (storageIndexAt w grid) := by
  cases grid with
  | none => exact (List.map_id _).symm
  | some topology => exact (h topology rfl).logicalIndices_eq_map

theorem GridConsistent.pairwise_logicalIndices (h : GridConsistent w grid storageSize) :
    (logicalIndices grid storageSize).Pairwise (· < ·) := by
  cases grid with
  | none => exact List.pairwise_lt_range
  | some topology => exact (h topology rfl).pairwise_logicalIndices

theorem GridConsistent.mem_logicalIndices (h : GridConsistent w grid storageSize) {index : ℕ}
    (hindex : index ∈ logicalIndices grid storageSize) : index < storageSize := by
  cases grid with
  | none => exact List.mem_range.mp hindex
  | some topology => exact (h topology rfl).mem_logicalIndices hindex

theorem GridConsistent.logicalCount_le (h : GridConsistent w grid storageSize) :
    logicalCount grid storageSize ≤ storageSize := by
  cases grid with
  | none => exact le_rfl
  | some topology => exact (h topology rfl).size_le

variable {F : Type} [FloatArith F] {points normals : List (Vec3 F)} {valid : List UInt8}

theorem checkIndex_iff {index : ℕ} : checkIndex points normals valid index = .ok () ↔
    SampleAccepted points normals valid index := by
  have hmask : ¬ 1 < valid.getD index 0 ↔ valid.getD index 0 = 0 ∨ valid.getD index 0 = 1 := by
    simp only [UInt8.lt_iff_toNat_lt, ← UInt8.toNat_inj, UInt8.reduceToNat]
    omega
  unfold checkIndex
  dsimp only
  constructor
  · intro h
    split_ifs at h with hm hp hn
    refine ⟨?_, ?_, ?_⟩
    · by_cases hempty : valid = []
      · exact .inl hempty
      · exact .inr (hmask.mp fun hlt => hm ⟨hempty, hlt⟩)
    · intro hvalid
      by_contra hfinite
      exact hp ⟨hvalid, hfinite⟩
    · intro hvalid hne
      by_contra hfinite
      exact hn ⟨hvalid, hne, hfinite⟩
  · rintro ⟨hm, hp, hn⟩
    rw [if_neg, if_neg, if_neg]
    · rintro ⟨hvalid, hne, hfinite⟩
      exact hfinite (hn hvalid hne)
    · rintro ⟨hvalid, hfinite⟩
      exact hfinite (hp hvalid)
    · rintro ⟨hne, hlt⟩
      exact hmask.mpr (hm.resolve_left hne) hlt

/-- Acceptance: the lengths match, the grid is consistent, and every sample passes its checks. -/
theorem validateSurfaceDataWord_iff {n : ℕ} (hw : 32 ≤ w) :
    validateSurfaceDataWord w points normals valid grid = .ok n ↔
      (points ≠ [] ∧ (normals = [] ∨ normals.length = points.length) ∧
        (valid = [] ∨ valid.length = points.length)) ∧
      GridConsistent w grid points.length ∧
      (∀ index ∈ logicalIndices grid points.length, SampleAccepted points normals valid index) ∧
      n = logicalCount grid points.length := by
  unfold validateSurfaceDataWord
  split_ifs with hp hn hv
  · simp [hp]
  · simp only [false_iff]
    tauto
  · simp only [false_iff]
    tauto
  · have hlengths : points ≠ [] ∧ (normals = [] ∨ normals.length = points.length) ∧
        (valid = [] ∨ valid.length = points.length) := by
      tauto
    rw [and_iff_right hlengths]
    simp only [bind_ok_iff, pure, Except.pure, Except.ok.injEq]
    constructor
    · rintro ⟨size, hsize, _, hchecks, rfl⟩
      obtain ⟨hgrid, rfl⟩ := (checkStorage_iff hw).mp hsize
      rw [hgrid.logicalIndicesAt_eq] at hchecks
      refine ⟨hgrid, ?_, rfl⟩
      intro index hindex
      exact checkIndex_iff.mp (forM_ok_iff.mp hchecks index hindex)
    · rintro ⟨hgrid, hsamples, rfl⟩
      refine ⟨_, (checkStorage_iff hw).mpr ⟨hgrid, rfl⟩, ⟨⟩, ?_, rfl⟩
      rw [hgrid.logicalIndicesAt_eq]
      apply forM_ok_iff.mpr
      intro index hindex
      exact checkIndex_iff.mpr (hsamples index hindex)

theorem validateSurfaceDataWord_eq :
    validateSurfaceDataWord 64 points normals valid grid =
      validateSurfaceData points normals valid grid := by
  unfold validateSurfaceDataWord validateSurfaceData validateSurfaceDataAt
  cases hstorage : checkStorage 64 points.length grid with
  | error e => rfl
  | ok n =>
    rw [((checkStorage_iff (by decide)).mp hstorage).1.logicalIndicesAt_eq]

end Surfaces

/-- What a conversion to a PCL surface has appended. -/
structure PclSamples (F : Type) where
  points : List (Vec3 F) := []
  normals : List (Vec3 F) := []
  valid : List UInt8 := []
  isDense : Bool := true

structure PclSurface (F : Type) extends PclSamples F where
  width : UInt32
  height : UInt32
  hasExplicitMask : Bool
  hasNormals : Bool

section Conversions

variable {F : Type} [FloatArith F]

/-- The body of the walk of `to_pcl_surface`. -/
def PclSamples.append (surface : SurfaceView F) (samples : PclSamples F) (index : ℕ) :
    PclSamples F where
  points := samples.points ++ [surface.points.getD index default]
  normals :=
    if surface.hasNormals then samples.normals ++ [surface.normals.getD index default]
    else samples.normals
  valid := samples.valid ++ [encodedMask surface index]
  isDense := samples.isDense && encodedMask surface index = 1

/-- A grid keeps its sides; its rows are not padded any more. -/
def toPclSurface (w : ℕ) (surface : SurfaceView F) : PclSurface F where
  toPclSamples :=
    (logicalIndicesAt w surface.grid surface.storageSize).foldl (PclSamples.append surface) {}
  width := surface.grid.elim (UInt32.ofNat surface.size) GridTopology.width
  height := surface.grid.elim 1 GridTopology.height
  hasExplicitMask := !surface.valid.isEmpty
  hasNormals := surface.hasNormals

theorem PclSamples.foldl_append (surface : SurfaceView F) (indices : List ℕ)
    (samples : PclSamples F) :
    indices.foldl (PclSamples.append surface) samples =
      { points := samples.points ++ indices.map fun index => surface.points.getD index default
        normals :=
          if surface.hasNormals then
            samples.normals ++ indices.map fun index => surface.normals.getD index default
          else samples.normals
        valid := samples.valid ++ indices.map (encodedMask surface)
        isDense := samples.isDense && indices.all fun index => encodedMask surface index = 1 } := by
  induction indices generalizing samples with
  | nil => simp
  | cons index indices ih =>
    rw [List.foldl_cons, ih]
    by_cases hn : surface.hasNormals = true <;>
      simp [PclSamples.append, hn, Bool.and_assoc]

/-- The order in which a surface is compacted: position `logical` takes the sample that the
parallel loop finds there. -/
structure CompactionOrder (w : ℕ) (surface : SurfaceView F) (samples : PclSamples F) : Prop where
  points : samples.points = (List.range surface.size).map fun logical =>
    surface.points.getD (storageIndexAt w surface.grid logical) default
  normals : samples.normals =
    if surface.hasNormals then
      (List.range surface.size).map fun logical =>
        surface.normals.getD (storageIndexAt w surface.grid logical) default
    else []
  valid : samples.valid = (List.range surface.size).map fun logical =>
    encodedMask surface (storageIndexAt w surface.grid logical)

theorem toPclSurface_order {w : ℕ} {surface : SurfaceView F}
    (hgrid : GridConsistent w surface.grid surface.storageSize)
    (hsize : surface.size = logicalCount surface.grid surface.storageSize) :
    CompactionOrder w surface (toPclSurface w surface).toPclSamples := by
  unfold toPclSurface
  rw [PclSamples.foldl_append, hgrid.logicalIndicesAt_eq, hgrid.logicalIndices_eq_map, ← hsize]
  constructor
  · simp [Function.comp_def]
  · simp [Function.comp_def]
  · simp [Function.comp_def]

/-- The walk of an encoder with its counter. -/
theorem GridConsistent.zipIdx {w storageSize : ℕ} {grid : Option GridTopology}
    (h : GridConsistent w grid storageSize) :
    (logicalIndicesAt w grid storageSize).zipIdx =
      (List.range (logicalCount grid storageSize)).map fun logical =>
        (storageIndexAt w grid logical, logical) := by
  rw [h.logicalIndicesAt_eq, h.logicalIndices_eq_map]
  apply List.ext_getElem
  · simp
  · intro logical _ _
    simp

theorem encodeWrites_order [FloatBits F] {surface : SurfaceView F} (h : surface.Shaped) :
    encodeWrites surface = (List.range surface.size).flatMap fun logical =>
      encodePoint (emptyCloud surface) surface logical
        (storageIndexAt 64 surface.grid logical) := by
  obtain ⟨hgrid, hsize⟩ := (checkStorage_iff (by decide)).mp h.storage
  unfold encodeWrites
  rw [SurfaceView.indices, ← hgrid.logicalIndicesAt_eq, hgrid.zipIdx, ← hsize, List.flatMap_map]
  rfl

end Conversions

/-- What holds of the indices of a surface with `size` samples. -/
structure IndexingSound (w : ℕ) (grid : Option GridTopology) (storageSize size : ℕ) : Prop where
  sizes : ∀ topology, grid = some topology → GridSizesExact w topology
  indices : ∀ topology, grid = some topology → ∀ row < topology.height.toNat,
    ∀ column < topology.width.toNat, row * topology.rowStride.toNat + column < 2 ^ w ∧
      gridIndexAt w topology row column = row * topology.rowStride.toNat + column
  count : size = logicalCount grid storageSize
  count_le : size ≤ storageSize
  length : (logicalIndicesAt w grid storageSize).length = size
  increasing : (logicalIndicesAt w grid storageSize).Pairwise (· < ·)
  inStorage : ∀ index ∈ logicalIndicesAt w grid storageSize, index < storageSize
  parallel : logicalIndicesAt w grid storageSize =
    (List.range size).map (storageIndexAt w grid)
  encoded : (logicalIndicesAt w grid storageSize).zipIdx =
    (List.range size).map fun logical => (storageIndexAt w grid logical, logical)

theorem GridConsistent.indexingSound {w storageSize : ℕ} {grid : Option GridTopology}
    (h : GridConsistent w grid storageSize) :
    IndexingSound w grid storageSize (logicalCount grid storageSize) := by
  have hwalk := h.logicalIndicesAt_eq
  constructor
  · intro topology hgrid
    exact (h topology hgrid).sizesExact
  · intro topology hgrid row hrow column hcolumn
    have hfits := h topology hgrid
    exact ⟨(hfits.index_lt hrow hcolumn).trans hfits.fits, hfits.gridIndexAt_eq hrow hcolumn⟩
  · rfl
  · exact h.logicalCount_le
  · rw [hwalk, h.logicalIndices_eq_map, List.length_map, List.length_range]
  · rw [hwalk]
    exact h.pairwise_logicalIndices
  · rw [hwalk]
    intro index hindex
    exact h.mem_logicalIndices hindex
  · exact hwalk.trans h.logicalIndices_eq_map
  · exact h.zipIdx

/-- For words of at least 32 bits, the indices of an accepted surface are sound, its conversions
follow them, and the accepted inputs are the well-formed ones. -/
theorem logical_indexing_sound {F : Type} [FloatArith F] {w : ℕ} (hw : 32 ≤ w)
    (points normals : List (Vec3 F)) (valid : List UInt8) (grid : Option GridTopology) :
    (∀ n, validateSurfaceDataWord w points normals valid grid = .ok n →
      IndexingSound w grid points.length n ∧
        ∀ unit frame, CompactionOrder w ⟨points, normals, valid, grid, unit, frame, n⟩
          (toPclSurface w ⟨points, normals, valid, grid, unit, frame, n⟩).toPclSamples) ∧
    ((∃ n, validateSurfaceDataWord w points normals valid grid = .ok n) ↔
      (points ≠ [] ∧ (normals = [] ∨ normals.length = points.length) ∧
        (valid = [] ∨ valid.length = points.length)) ∧
      GridConsistent w grid points.length ∧
      ∀ index ∈ logicalIndices grid points.length,
        SampleAccepted points normals valid index) := by
  constructor
  · intro n haccepted
    obtain ⟨-, hgrid, -, rfl⟩ := (validateSurfaceDataWord_iff hw).mp haccepted
    refine ⟨hgrid.indexingSound, ?_⟩
    intro unit frame
    exact toPclSurface_order hgrid rfl
  · constructor
    · rintro ⟨n, haccepted⟩
      obtain ⟨hlengths, hgrid, hsamples, -⟩ := (validateSurfaceDataWord_iff hw).mp haccepted
      exact ⟨hlengths, hgrid, hsamples⟩
    · rintro ⟨hlengths, hgrid, hsamples⟩
      exact ⟨_, (validateSurfaceDataWord_iff hw).mpr ⟨hlengths, hgrid, hsamples, rfl⟩⟩

/-- Two rows of two samples, each row padded to three, in 32-bit words. -/
theorem logical_indexing_sound_padded :
    IndexingSound 32 (some ⟨2, 2, 3⟩) 5 4 ∧
      logicalIndicesAt 32 (some ⟨2, 2, 3⟩) 5 = [0, 1, 3, 4] :=
  ⟨((logical_indexing_sound (le_refl 32) (List.replicate 5 (⟨0, 0, 0⟩ : Vec3 (Exact ℚ))) []
    [1, 0, 7, 1, 1] (some ⟨2, 2, 3⟩)).1 4 rfl).1, rfl⟩

end PointcloudAd
