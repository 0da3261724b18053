import PointcloudAd.Core.Surface

/-!
# Surfaces with the same samples

Two surfaces correspond when their samples have, in the order of the walk over logical indices,
the same mask and, where the mask is set, the same points and normals. What is stored under the
mask, in row padding, and the row stride itself may differ.
-/

namespace PointcloudAd

open Library

variable {F : Type}

def GridTopology.sides (grid : GridTopology) : UInt32 × UInt32 := (grid.width, grid.height)

structure Corresponds (s t : SurfaceView F) : Prop where
  left : s.Shaped
  right : t.Shaped
  size : s.logicalSize = t.logicalSize
  sides : s.grid.map GridTopology.sides = t.grid.map GridTopology.sides
  unit : s.unit = t.unit
  frame : s.frame = t.frame
  hasNormals : s.normals = [] ↔ t.normals = []
  valid : ∀ i j, Paired s.indices t.indices i j → s.isValidIndex i = t.isValidIndex j
  points : AgreeAlong s.indices t.indices (fun i => s.isValidIndex i = true) s.points t.points
  normals : AgreeAlong s.indices t.indices (fun i => s.isValidIndex i = true) s.normals t.normals

namespace Corresponds

variable {s t : SurfaceView F}

theorem refl (h : s.Shaped) : Corresponds s s where
  left := h
  right := h
  size := rfl
  sides := rfl
  unit := rfl
  frame := rfl
  hasNormals := Iff.rfl
  valid i j hp := by rw [hp.eq]
  points i j hp _ := by rw [hp.eq]
  normals i j hp _ := by rw [hp.eq]

theorem symm (h : Corresponds s t) : Corresponds t s where
  left := h.right
  right := h.left
  size := h.size.symm
  sides := h.sides.symm
  unit := h.unit.symm
  frame := h.frame.symm
  hasNormals := h.hasNormals.symm
  valid i j hp := (h.valid j i hp.symm).symm
  points := h.points.symm_walks fun i j hp hj => (h.valid i j hp).trans hj
  normals := h.normals.symm_walks fun i j hp hj => (h.valid i j hp).trans hj

theorem matching (h : Corresponds s t) : Matching s.indices t.indices :=
  ⟨by rw [h.left.length_indices, h.right.length_indices, h.size], h.left.nodup, h.right.nodup⟩

theorem grid_none (h : Corresponds s t) : s.grid = none ↔ t.grid = none := by
  have hs := h.sides
  cases hg : s.grid <;> cases hg' : t.grid <;> simp_all

/-- Two surfaces built over the grids of corresponding ones, from arrays of their lengths. -/
theorem create [FloatArith F] (h : Corresponds s t)
    {points points' normals normals' : List (Vec3 F)}
    {valid valid' : List UInt8} (unit : LengthUnit) (frame : FrameId)
    (hpoints : points.length = s.storageSize) (hpoints' : points'.length = t.storageSize)
    (hnormals : normals = [] ∨ normals.length = s.storageSize)
    (hnormals' : normals' = [] ∨ normals'.length = t.storageSize)
    (hvalid : valid = [] ∨ valid.length = s.storageSize)
    (hvalid' : valid' = [] ∨ valid'.length = t.storageSize)
    (hmask : ∀ i ∈ s.indices, valid = [] ∨ ¬ 1 < valid.getD i 0)
    (hmask' : ∀ i ∈ t.indices, valid' = [] ∨ ¬ 1 < valid'.getD i 0)
    (hempty : normals = [] ↔ normals' = [])
    (hsame : ∀ i j, Paired s.indices t.indices i j → maskValid valid i = maskValid valid' j)
    (hp : AgreeAlong s.indices t.indices (fun i => maskValid valid i = true) points points')
    (hn : AgreeAlong s.indices t.indices (fun i => maskValid valid i = true) normals normals') :
    Outcome (fun a b => Corresponds a.view b.view)
      (OwnedSurface.create points normals valid s.grid unit frame)
      (OwnedSurface.create points' normals' valid' t.grid unit frame) := by
  have hchecks : forM s.indices (checkIndex points normals valid) =
      forM t.indices (checkIndex points' normals' valid') := by
    refine forM_congr (h.matching.forall₂.imp fun i j hij => ?_)
    have hmi : ¬ (valid ≠ [] ∧ 1 < valid.getD i 0) := by
      have := hmask i hij.mem_left
      tauto
    have hmj : ¬ (valid' ≠ [] ∧ 1 < valid'.getD j 0) := by
      have := hmask' j hij.mem_right
      tauto
    unfold checkIndex
    dsimp only
    rw [if_neg hmi, if_neg hmj, ← hsame i j hij]
    by_cases hi : maskValid valid i = true
    · rw [hp.getD hij hi default, hn.getD hij hi default]
      simp only [hi, ne_eq, hempty]
    · simp [hi]
  have hv := h.left.validate hpoints hnormals hvalid
  have hv' := h.right.validate hpoints' hnormals' hvalid'
  rw [← hchecks, ← h.size] at hv'
  cases hall : forM s.indices (checkIndex points normals valid) with
  | error e =>
    rw [hall] at hv hv'
    rw [OwnedSurface.create_error hv, OwnedSurface.create_error hv']
    exact .error e
  | ok u =>
    rw [hall] at hv hv'
    rw [OwnedSurface.create_ok hv, OwnedSurface.create_ok hv']
    have hsize : s.indices = logicalIndices s.grid points.length := by
      rw [hpoints]
      rfl
    have hsize' : t.indices = logicalIndices t.grid points'.length := by
      rw [hpoints']
      rfl
    rw [hsize, hsize'] at hsame hp hn
    exact .ok ⟨OwnedSurface.shaped ⟨⟨_, _, _, _, _, _, _⟩, hv⟩,
      OwnedSurface.shaped ⟨⟨_, _, _, _, _, _, _⟩, hv'⟩, rfl, h.sides, rfl, rfl, hempty,
        hsame, hp, hn⟩

end Corresponds

/-- Two surfaces that store their samples at the same indices. -/
structure SameLayout (s t : SurfaceView F) : Prop where
  indices : s.indices = t.indices
  storage : s.storageSize = t.storageSize

namespace SameLayout

variable {s t u : SurfaceView F}

theorem symm (h : SameLayout s t) : SameLayout t s := ⟨h.indices.symm, h.storage.symm⟩

theorem trans (h : SameLayout s t) (h' : SameLayout t u) : SameLayout s u :=
  ⟨h.indices.trans h'.indices, h.storage.trans h'.storage⟩

theorem of_grid (hg : s.grid = t.grid) (hs : s.storageSize = t.storageSize) : SameLayout s t :=
  ⟨by rw [SurfaceView.indices, hg, hs]; rfl, hs⟩

end SameLayout

theorem Corresponds.isValidIndex_eq {s t : SurfaceView F} (h : Corresponds s t)
    (hl : SameLayout s t) {i : ℕ} (hi : i ∈ s.indices) : s.isValidIndex i = t.isValidIndex i :=
  h.valid i i (by rw [← hl.indices]; exact .refl hi)

/-- Two surfaces over one grid that agree on the mask and, where it is set, on points and normals.
Under the mask and in row padding they hold anything. -/
structure AgreeOnValid (s t : SurfaceView F) : Prop where
  size : s.size = t.size
  grid : s.grid = t.grid
  unit : s.unit = t.unit
  frame : s.frame = t.frame
  mask : ∀ i ∈ s.indices, s.isValidIndex i = t.isValidIndex i
  hasNormals : s.normals = [] ↔ t.normals = []
  points : ∀ i ∈ s.indices, s.isValidIndex i = true → s.points[i]? = t.points[i]?
  normals : ∀ i ∈ s.indices, s.isValidIndex i = true → s.normals[i]? = t.normals[i]?

theorem SurfaceView.Shaped.storageSize_eq {s t : SurfaceView F} (hs : s.Shaped) (ht : t.Shaped)
    (hgrid : s.grid = t.grid) (hsize : s.size = t.size) : s.storageSize = t.storageSize := by
  cases hg : s.grid with
  | none =>
    have hleft := hs.storage
    have hright := ht.storage
    rw [hg] at hleft
    rw [← hgrid, hg] at hright
    exact (Except.ok.inj hleft).trans (hsize.trans (Except.ok.inj hright).symm)
  | some grid =>
    exact (hs.gridFits hg).1.storage.trans (ht.gridFits (hgrid ▸ hg)).1.storage.symm

theorem AgreeOnValid.layout {s t : SurfaceView F} (h : AgreeOnValid s t) (hs : s.Shaped)
    (ht : t.Shaped) : SameLayout s t :=
  .of_grid h.grid (hs.storageSize_eq ht h.grid h.size)

theorem AgreeOnValid.corresponds {s t : SurfaceView F} (h : AgreeOnValid s t) (hs : s.Shaped)
    (ht : t.Shaped) : Corresponds s t := by
  have hpaired : ∀ {i j : ℕ}, Paired s.indices t.indices i j → i = j ∧ i ∈ s.indices := by
    intro i j hij
    rw [← (h.layout hs ht).indices] at hij
    exact ⟨hij.eq, hij.mem_left⟩
  refine ⟨hs, ht, h.size, by rw [h.grid], h.unit, h.frame, h.hasNormals, fun i j hij => ?_, ?_, ?_⟩
  · obtain ⟨rfl, hi⟩ := hpaired hij
    exact h.mask i hi
  · intro i j hij hv
    obtain ⟨rfl, hi⟩ := hpaired hij
    exact h.points i hi hv
  · intro i j hij hv
    obtain ⟨rfl, hi⟩ := hpaired hij
    exact h.normals i hi hv

/-- Arrays over the storage of two surfaces that agree at every sample, and in one layout at every
slot. -/
structure SlotsAgree {β : Type} (s t : SurfaceView F) (l m : List β) : Prop where
  left : l.length = s.storageSize
  right : m.length = t.storageSize
  agree : AgreeAlong s.indices t.indices (fun _ => True) l m
  same : SameLayout s t → l = m

namespace SlotsAgree

variable {β γ : Type} {s t : SurfaceView F} {l m : List β}

theorem replicate (h : Corresponds s t) (c : β) :
    SlotsAgree s t (List.replicate s.storageSize c) (List.replicate t.storageSize c) :=
  ⟨List.length_replicate, List.length_replicate,
    .replicate c (fun _ hi => h.left.lt hi) fun _ hj => h.right.lt hj, fun hl => by rw [hl.storage]⟩

theorem map (h : SlotsAgree s t l m) (f : β → γ) : SlotsAgree s t (l.map f) (m.map f) :=
  ⟨by rw [List.length_map, h.left], by rw [List.length_map, h.right], h.agree.map f,
    fun hl => by rw [h.same hl]⟩

theorem getD (h : SlotsAgree s t l m) {i j : ℕ} (hij : Paired s.indices t.indices i j) (d : β) :
    l.getD i d = m.getD j d := h.agree.getD hij trivial d

theorem set (hc : Corresponds s t) (h : SlotsAgree s t l m) {i j : ℕ}
    (hij : Paired s.indices t.indices i j) (v : β) : SlotsAgree s t (l.set i v) (m.set j v) where
  left := by rw [List.length_set, h.left]
  right := by rw [List.length_set, h.right]
  agree := h.agree.set hc.matching hij (h.left ▸ hc.left.lt hij.mem_left)
    (h.right ▸ hc.right.lt hij.mem_right) fun _ => rfl
  same hl := by
    rw [← hl.indices] at hij
    rw [h.same hl, hij.eq]

/-- The same values written at the samples that two selections share. -/
theorem scatter_filter (hc : Corresponds s t) (h : SlotsAgree s t l m) {p q : ℕ → Bool}
    (hpq : ∀ i j, Paired s.indices t.indices i j → p i = q j) {values : List (Option β)}
    (hlen : values.length = (s.indices.filter p).length) :
    SlotsAgree s t (scatter l (writesAt (s.indices.filter p) values))
      (scatter m (writesAt (t.indices.filter q) values)) where
  left := by rw [length_scatter, h.left]
  right := by rw [length_scatter, h.right]
  agree := h.agree.scatter_filter hc.matching hpq hlen fun i hi => h.left ▸ hc.left.lt hi
  same hl := by
    have hfilter : s.indices.filter p = t.indices.filter q := by
      rw [← hl.indices] at hpq ⊢
      exact List.filter_congr fun i hi => hpq i i (.refl hi)
    rw [h.same hl, hfilter]

theorem of_layout {s' t' : SurfaceView F} (h : SlotsAgree s t l m) (hs : SameLayout s s')
    (ht : SameLayout t t') : SlotsAgree s' t' l m where
  left := h.left.trans hs.storage
  right := h.right.trans ht.storage
  agree := by
    rw [← hs.indices, ← ht.indices]
    exact h.agree
  same hl := h.same ((hs.trans hl).trans ht.symm)

end SlotsAgree
end PointcloudAd
