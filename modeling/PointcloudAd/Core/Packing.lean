import Mathlib.Data.List.GetD
import PointcloudAd.Core.Correspondence

/-!
# Packed surfaces

The samples of an organized surface without row padding, stored row after row.
-/

namespace PointcloudAd

open Library

/-- The grid whose stride is its width. -/
def GridTopology.packed (grid : GridTopology) : GridTopology :=
  { grid with rowStride := grid.width }

theorem flatMap_range_rows (width : ℕ) : ∀ rows : ℕ,
    ((List.range rows).flatMap fun row => (List.range width).map fun column =>
      row * width + column) =
      List.range (rows * width)
  | 0 => by simp
  | rows + 1 => by
    rw [List.range_succ, List.flatMap_append, flatMap_range_rows width rows, Nat.succ_mul,
      List.range_add]
    simp

theorem GridTopology.packed_logicalIndices (grid : GridTopology) :
    grid.packed.logicalIndices = List.range (grid.width.toNat * grid.height.toNat) := by
  rw [Nat.mul_comm]
  exact flatMap_range_rows grid.width.toNat grid.height.toNat

/-- The packed grid fits where the grid does. -/
theorem GridFits.checkGrid_packed {w storageSize : ℕ} {grid : GridTopology}
    (h : GridFits w storageSize grid) :
    checkGrid w (grid.width.toNat * grid.height.toNat) grid.packed =
      .ok (grid.width.toNat * grid.height.toNat) := by
  have hw := h.width_pos
  have hh := h.height_pos
  have hstorage := h.storage
  have hfits := h.fits
  have hrows : (grid.height - 1).toNat = grid.height.toNat - 1 := by
    rw [UInt32.toNat_sub_of_le]
    · rfl
    · rw [UInt32.le_iff_toNat_le]
      exact hh
  have hle := Nat.mul_le_mul_left (grid.height.toNat - 1) h.width_le
  have hsum : (grid.height.toNat - 1) * grid.width.toNat + grid.width.toNat =
      grid.width.toNat * grid.height.toNat := by
    rw [← Nat.succ_mul, Nat.succ_eq_add_one, Nat.sub_add_cancel hh, Nat.mul_comm]
  have hbound : grid.height.toNat - 1 ≤ (2 ^ w - 1 - grid.width.toNat) / grid.width.toNat :=
    (Nat.le_div_iff_mul_le hw).mpr (by omega)
  have hzero : ¬ (grid.packed.width = 0 ∨ grid.packed.height = 0) := by
    rintro (hz | hz)
    · rw [show grid.width = 0 from hz] at hw
      exact absurd hw (by decide)
    · rw [show grid.height = 0 from hz] at hh
      exact absurd hh (by decide)
  have hstride : ¬ grid.packed.rowStride < grid.packed.width := UInt32.lt_irrefl grid.width
  have hover : ¬ (2 ^ w - 1 - grid.packed.width.toNat) / grid.packed.rowStride.toNat <
      (grid.packed.height - 1).toNat := by
    change ¬ (2 ^ w - 1 - grid.width.toNat) / grid.width.toNat < (grid.height - 1).toNat
    omega
  have hsize : ((grid.packed.height - 1).toNat * grid.packed.rowStride.toNat % 2 ^ w +
      grid.packed.width.toNat) % 2 ^ w = grid.width.toNat * grid.height.toNat := by
    change ((grid.height - 1).toNat * grid.width.toNat % 2 ^ w + grid.width.toNat) % 2 ^ w = _
    rw [hrows, Nat.mod_eq_of_lt (b := 2 ^ w) (a := (grid.height.toNat - 1) * _) (by omega),
      Nat.mod_eq_of_lt (by omega), hsum]
  unfold checkGrid
  dsimp only
  rw [if_neg hzero, if_neg hstride, if_neg hover, if_neg (not_not.mpr hsize.symm)]
  exact congrArg Except.ok
    (Nat.mod_eq_of_lt (show grid.width.toNat * grid.height.toNat < 2 ^ w by omega))

theorem GridFits.logicalIndices_unpadded {w storageSize : ℕ} {grid : GridTopology}
    (h : GridFits w storageSize grid) (hu : storageSize = grid.width.toNat * grid.height.toNat) :
    grid.logicalIndices = grid.packed.logicalIndices := by
  have hstorage := h.storage
  obtain ⟨rows, hrows⟩ := Nat.exists_eq_succ_of_ne_zero h.height_pos.ne'
  rw [hu, hrows, Nat.succ_sub_one, Nat.mul_succ, Nat.add_right_cancel_iff, Nat.mul_comm] at hstorage
  unfold GridTopology.logicalIndices
  change _ = (List.range grid.height.toNat).flatMap fun row =>
    (List.range grid.width.toNat).map fun column => row * grid.width.toNat + column
  rcases Nat.eq_zero_or_pos rows with rfl | hpos
  · rw [hrows]
    simp
  · rw [Nat.eq_of_mul_eq_mul_left hpos hstorage]

variable {F : Type}

namespace SurfaceView

/-- The entries of an array at the samples, in the order of the walk. -/
def collected {β : Type} (surface : SurfaceView F) (array : List β) (missing : β) : List β :=
  if array = [] then [] else surface.indices.map fun i => array.getD i missing

/-- No storage besides the samples. -/
def Unpadded (surface : SurfaceView F) : Prop := surface.storageSize = surface.size

instance (surface : SurfaceView F) : Decidable surface.Unpadded :=
  inferInstanceAs (Decidable (surface.storageSize = surface.size))

namespace Shaped

variable {surface : SurfaceView F} {β : Type} {array : List β} {missing : β}

theorem indices_ne_nil (h : surface.Shaped) : surface.indices ≠ [] := by
  intro he
  have hlength := h.length_indices
  rw [he] at hlength
  exact h.size_ne_zero hlength.symm

theorem collected_eq_nil (h : surface.Shaped) :
    surface.collected array missing = [] ↔ array = [] := by
  unfold collected
  split_ifs with harray <;> simp [harray, h.indices_ne_nil]

theorem collected_length (h : surface.Shaped) (harray : array ≠ []) :
    (surface.collected array missing).length = surface.logicalSize := by
  rw [collected, if_neg harray, List.length_map, h.length_indices]

theorem collected_getElem? (h : surface.Shaped) (harray : array = [] ∨
    array.length = surface.storageSize) {i k : ℕ} (hk : surface.indices[k]? = some i) :
    (surface.collected array missing)[k]? = array[i]? := by
  unfold collected
  split_ifs with hempty
  · simp [hempty]
  · have hi : i < array.length := harray.resolve_left hempty ▸ h.lt (List.mem_of_getElem? hk)
    simp [hk, hi]

end Shaped

section Packed

variable [FloatArith F]

/-- An organized surface with its samples moved to a packed grid. -/
def packed (surface : SurfaceView F) : SurfaceView F :=
  match surface.grid with
  | none => surface
  | some grid =>
    { surface with
      points := surface.collected surface.points default
      normals := surface.collected surface.normals default
      valid := surface.collected surface.valid 0
      grid := some grid.packed }

variable {surface : SurfaceView F}

theorem packed_none (hg : surface.grid = none) : surface.packed = surface := by
  unfold packed
  rw [hg]

theorem packed_some {grid : GridTopology} (hg : surface.grid = some grid) :
    surface.packed = ⟨surface.collected surface.points default,
      surface.collected surface.normals default, surface.collected surface.valid 0,
      some grid.packed, surface.unit, surface.frame, surface.logicalSize⟩ := by
  unfold packed
  rw [hg]

namespace Shaped

theorem packed_indices (h : surface.Shaped) {grid : GridTopology} (hg : surface.grid = some grid) :
    surface.packed.indices = List.range surface.logicalSize := by
  rw [packed_some hg, (h.gridFits hg).2]
  exact grid.packed_logicalIndices

theorem packed_position (h : surface.Shaped) {grid : GridTopology} (hg : surface.grid = some grid)
    {i j : ℕ} (hij : Paired surface.indices surface.packed.indices i j) :
    surface.indices[j]? = some i := by
  obtain ⟨k, hk, hk'⟩ := hij
  rw [h.packed_indices hg] at hk'
  obtain ⟨hlt, he⟩ := List.getElem?_eq_some_iff.mp hk'
  rwa [show k = j by simpa using he] at hk

theorem packed_shaped (h : surface.Shaped) : surface.packed.Shaped := by
  cases hg : surface.grid with
  | none => rwa [packed_none hg]
  | some grid =>
    obtain ⟨hfits, hsize⟩ := h.gridFits hg
    have hindices := h.packed_indices hg
    rw [packed_some hg] at hindices ⊢
    have hstorage : (surface.collected surface.points default).length = surface.logicalSize :=
      h.collected_length h.nonempty
    have hspans : ∀ {β : Type} (array : List β) (missing : β),
        surface.collected array missing = [] ∨ (surface.collected array missing).length =
          (surface.collected surface.points default).length := by
      intro β array missing
      by_cases harray : array = []
      · exact .inl (h.collected_eq_nil.mpr harray)
      · exact .inr ((h.collected_length harray).trans hstorage.symm)
    refine ⟨fun he => h.nonempty (h.collected_eq_nil.mp he), ?_, hspans _ _, hspans _ _, ?_⟩
    · change checkGrid 64 (surface.collected surface.points default).length grid.packed =
        .ok surface.logicalSize
      rw [hstorage, hsize]
      exact hfits.checkGrid_packed
    · intro k hk
      rw [hindices, List.mem_range, ← h.length_indices] at hk
      by_cases hv : surface.valid = []
      · exact .inl (h.collected_eq_nil.mpr hv)
      · have hmask := (h.mask surface.indices[k] (List.getElem_mem hk)).resolve_left hv
        refine .inr ?_
        dsimp only
        rwa [List.getD_eq_getElem?_getD, h.collected_getElem? h.valid (List.getElem?_eq_getElem hk),
          ← List.getD_eq_getElem?_getD]

theorem packed_corresponds (h : surface.Shaped) : Corresponds surface surface.packed := by
  cases hg : surface.grid with
  | none =>
    rw [packed_none hg]
    exact .refl h
  | some grid =>
    have hshaped := h.packed_shaped
    have hposition := fun i j hij => h.packed_position hg (i := i) (j := j) hij
    rw [packed_some hg] at hshaped hposition ⊢
    refine ⟨h, hshaped, rfl, by rw [hg]; rfl, rfl, rfl, h.collected_eq_nil.symm, ?_, ?_, ?_⟩
    · intro i j hij
      have hempty : (surface.collected surface.valid 0).isEmpty = surface.valid.isEmpty := by
        rw [Bool.eq_iff_iff, List.isEmpty_iff, List.isEmpty_iff, h.collected_eq_nil]
      unfold isValidIndex maskValid
      rw [hempty, List.getD_eq_getElem?_getD, List.getD_eq_getElem?_getD,
        h.collected_getElem? h.valid (hposition i j hij)]
    · exact fun i j hij _ => (h.collected_getElem? (.inr rfl) (hposition i j hij)).symm
    · exact fun i j hij _ => (h.collected_getElem? h.normals (hposition i j hij)).symm

theorem packed_layout (h : surface.Shaped) (hu : surface.Unpadded) :
    SameLayout surface surface.packed := by
  cases hg : surface.grid with
  | none =>
    rw [packed_none hg]
    exact ⟨rfl, rfl⟩
  | some grid =>
    obtain ⟨hfits, hsize⟩ := h.gridFits hg
    have hstorage : surface.packed.storageSize = surface.size := by
      rw [packed_some hg]
      exact h.collected_length h.nonempty
    refine ⟨?_, hu.trans hstorage.symm⟩
    rw [h.packed_indices hg, hsize, ← grid.packed_logicalIndices, indices, hg]
    exact hfits.logicalIndices_unpadded (hu.trans hsize)

end Shaped
end Packed
end SurfaceView

/-- The checks of a packed sample are those of the sample. -/
theorem OwnedSurface.packed_accepted [FloatArith F] (surface : OwnedSurface F) :
    validateSurfaceData surface.view.packed.points surface.view.packed.normals
      surface.view.packed.valid surface.view.packed.grid = .ok surface.view.packed.logicalSize := by
  have h := surface.shaped
  cases hg : surface.view.grid with
  | none =>
    rw [SurfaceView.packed_none hg]
    exact surface.accepted
  | some grid =>
    have hchecks := (validateSurfaceData_ok surface.accepted surface.unit surface.frame).2
    have hshaped := h.packed_shaped
    have hindices := h.packed_indices hg
    rw [SurfaceView.packed_some hg] at hshaped hindices ⊢
    rw [hshaped.validate rfl hshaped.normals hshaped.valid, forM_ok_iff.mpr]
    · rfl
    · intro k hk
      rw [hindices, List.mem_range, ← h.length_indices] at hk
      have hcheck := hchecks surface.view.indices[k] (List.getElem_mem hk)
      have hentry := List.getElem?_eq_getElem hk
      rw [← hcheck]
      refine checkIndex_congr ?_ ?_ ?_ h.collected_eq_nil h.collected_eq_nil
      · simp only [List.getD_eq_getElem?_getD, h.collected_getElem? (.inr rfl) hentry]
        rfl
      · simp only [List.getD_eq_getElem?_getD, h.collected_getElem? h.normals hentry]
        rfl
      · simp only [List.getD_eq_getElem?_getD, h.collected_getElem? h.valid hentry]
        rfl

/-- An accepted surface, packed. -/
def OwnedSurface.packed [FloatArith F] (surface : OwnedSurface F) : OwnedSurface F :=
  ⟨surface.view.packed, surface.packed_accepted⟩

end PointcloudAd
