import PointcloudAd.Cuda.SpatialTree
import PointcloudAd.Library.Selection

/-!
# The packing of the spatial index

A selection leaves the order of the two parts open, and the build sees different ranges at every
split. The split order is total on indices, the node over a range depends on its points only, and
leaves are sorted, so that the index does not depend on the selection. Zeros of either sign are
equal numbers, and which of them bounds a node does depend on it.
-/

namespace PointcloudAd.Cuda

open Library

variable {F D : Type} [FloatArith F] [FloatArith D] [Floats F D]

/-- Nodes that differ at most in the bits of equal bounds. -/
structure SpatialNode.Same (node node' : SpatialNode F) : Prop where
  lower : ∀ axis, equal (coordinate node.lower axis) (coordinate node'.lower axis) = true
  upper : ∀ axis, equal (coordinate node.upper axis) (coordinate node'.upper axis) = true
  begin : node.begin = node'.begin
  count : node.count = node'.count
  escape : node.escape = node'.escape
  minimumIndex : node.minimumIndex = node'.minimumIndex

/-- Equal coordinates of a reference are identical: none is a zero of another sign. -/
def Identified (reference : List (Vec3 F)) : Prop :=
  ∀ p ∈ reference, ∀ q ∈ reference, ∀ axis, equal (coordinate p axis) (coordinate q axis) = true →
    coordinate p axis = coordinate q axis

theorem Below.coordinate {a b : Vec3 F} (h : Below a b) (axis : ℕ) :
    coordinate a axis ≤ coordinate b axis := by
  unfold Cuda.coordinate
  split_ifs
  · exact h.x
  · exact h.y
  · exact h.z

section Split

variable [OrderedFloat F] [FiniteNumbers F] {reference : List (Vec3 F)}

theorem coordinate_number (hfinite : ∀ p ∈ reference, p.finite = true) (hne : reference ≠ [])
    (c : ℤ) (axis : ℕ) : coordinate (referencePoint reference c) axis ≤
      coordinate (referencePoint reference c) axis := by
  have hpoint : ∀ p ∈ reference, ∀ axis, coordinate p axis ≤ coordinate p axis := by
    intro p hp axis
    have hnumber := hfinite p hp
    obtain ⟨hx, hy, hz⟩ := Vec3.finite_iff_axes.mp hnumber
    unfold coordinate
    split_ifs
    · exact FiniteNumbers.number hx
    · exact FiniteNumbers.number hy
    · exact FiniteNumbers.number hz
  by_cases hlt : c.toNat < reference.length
  · rw [referencePoint, List.getD_eq_getElem?_getD, List.getElem?_eq_getElem hlt]
    exact hpoint _ (List.getElem_mem hlt) axis
  · obtain ⟨p, rest, rfl⟩ := List.exists_cons_of_ne_nil hne
    have hzero : (0 : F) ≤ 0 :=
      OrderedFloat.le_left (OrderedFloat.abs_nonneg (hpoint p (by simp) 0))
    rw [referencePoint, List.getD_eq_getElem?_getD, List.getElem?_eq_none (Nat.le_of_not_lt hlt)]
    unfold coordinate
    split_ifs <;> exact hzero

theorem splitBefore_total (hfinite : ∀ p ∈ reference, p.finite = true) (hne : reference ≠ [])
    (axis : ℕ) : IsStrictTotalOrder ℤ fun a b => splitBefore reference axis a b = true := by
  have htotal := indexed_total fun c => coordinate_number hfinite hne c axis
  simpa only [splitBefore, decide_eq_true_eq] using htotal

theorem strictWeakOrder_of_total {less : ℤ → ℤ → Bool}
    (h : IsStrictTotalOrder ℤ fun a b => less a b = true) :
    IsStrictWeakOrder ℤ fun a b => less a b = true where
  incomp_trans a b c hab hbc := by
    obtain rfl : a = b := h.trichotomous _ _ hab.1 hab.2
    exact hbc

theorem NthElement.exists_selected (nth : NthElement) {less : ℤ → ℤ → Bool}
    (h : IsStrictTotalOrder ℤ fun a b => less a b = true) {range : List ℤ} {middle : ℕ}
    (hmiddle : middle < range.length) :
    ∃ a after, (nth.select less middle range).drop middle = a :: after ∧
      Selected less ((nth.select less middle range).take middle) a after := by
  have hlt : middle < (nth.select less middle range).length := by
    rwa [(nth.perm less middle range).length_eq]
  obtain ⟨hbefore, hafter⟩ := nth.placed less middle range (strictWeakOrder_of_total h) _
    (List.getElem?_eq_getElem hlt)
  exact ⟨_, _, List.drop_eq_getElem_cons hlt, hbefore, hafter⟩

theorem select_halves (nth nth' : NthElement) {less : ℤ → ℤ → Bool}
    (h : IsStrictTotalOrder ℤ fun a b => less a b = true) {range range' : List ℤ} {middle : ℕ}
    (hmiddle : middle < range.length) (hnodup : range.Nodup) (hperm : range.Perm range') :
    ((nth.select less middle range).take middle).Perm
        ((nth'.select less middle range').take middle) ∧
      ((nth.select less middle range).drop middle).Perm
        ((nth'.select less middle range').drop middle) := by
  obtain ⟨a, after, hdrop, hselected⟩ := nth.exists_selected h hmiddle
  obtain ⟨a', after', hdrop', hselected'⟩ :=
    nth'.exists_selected h (hperm.length_eq ▸ hmiddle)
  have hsame : (nth.select less middle range).Perm (nth'.select less middle range') :=
    (nth.perm ..).trans (hperm.trans (nth'.perm ..).symm)
  have hnodup' := (nth.perm less middle range).nodup_iff.mpr hnodup
  have hlength : ((nth.select less middle range).take middle).length =
      ((nth'.select less middle range').take middle).length := by
    rw [List.length_take, List.length_take, hsame.length_eq]
  rw [← List.take_append_drop middle (nth.select less middle range), hdrop] at hnodup' hsame
  rw [← List.take_append_drop middle (nth'.select less middle range'), hdrop'] at hsame
  rw [hdrop, hdrop']
  exact (hselected.unique hselected' hnodup' hsame hlength).2

end Split

section Nodes

variable {reference : List (Vec3 F)} {slots slots' : List ℤ} {node node' : SpatialNode F}

/-- The bounds of the same points are equal. -/
theorem Bounds.same [FiniteNumbers F] (h : Bounds reference node slots)
    (h' : Bounds reference node' slots') (hperm : slots.Perm slots')
    (hbegin : node.begin = node'.begin)
    (hcount : node.count = node'.count) (hescape : node.escape = node'.escape) :
    node.Same node' := by
  have hin : ∀ c ∈ slots, (pointNode reference c).Within node' := fun c hc =>
    h'.within c (hperm.mem_iff.mp hc)
  have hin' : ∀ c ∈ slots', (pointNode reference c).Within node := fun c hc =>
    h.within c (hperm.mem_iff.mpr hc)
  refine ⟨fun axis => ?_, fun axis => ?_, hbegin, hcount, hescape, ?_⟩
  · obtain ⟨c, hc, hlower⟩ := h.lower axis
    obtain ⟨c', hc', hlower'⟩ := h'.lower axis
    rw [FiniteNumbers.equal_iff]
    constructor
    · rw [hlower']
      exact (hin' c' hc').lower.coordinate axis
    · rw [hlower]
      exact (hin c hc).lower.coordinate axis
  · obtain ⟨c, hc, hupper⟩ := h.upper axis
    obtain ⟨c', hc', hupper'⟩ := h'.upper axis
    rw [FiniteNumbers.equal_iff]
    constructor
    · rw [hupper]
      exact (hin c hc).upper.coordinate axis
    · rw [hupper']
      exact (hin' c' hc').upper.coordinate axis
  · exact le_antisymm (hin' _ h'.minimumIndex).minimumIndex (hin _ h.minimumIndex).minimumIndex

theorem coordinate_finite {p : Vec3 F} (h : p.finite = true) (axis : ℕ) :
    isFinite (coordinate p axis) = true := by
  obtain ⟨hx, hy, hz⟩ := Vec3.finite_iff_axes.mp h
  unfold coordinate
  split_ifs
  · exact hx
  · exact hy
  · exact hz

theorem Bounds.attained (h : Bounds reference node slots)
    (hmembers : ∀ c ∈ slots, 0 ≤ c ∧ c < reference.length) (axis : ℕ) :
    (∃ p ∈ reference, coordinate node.lower axis = coordinate p axis) ∧
      ∃ p ∈ reference, coordinate node.upper axis = coordinate p axis := by
  obtain ⟨c, hc, hlower⟩ := h.lower axis
  obtain ⟨d, hd, hupper⟩ := h.upper axis
  exact ⟨⟨_, referencePoint_mem (hmembers c hc), hlower⟩, _,
    referencePoint_mem (hmembers d hd), hupper⟩

theorem Bounds.bounds_finite (h : Bounds reference node slots)
    (hfinite : ∀ p ∈ reference, p.finite = true)
    (hmembers : ∀ c ∈ slots, 0 ≤ c ∧ c < reference.length) (axis : ℕ) :
    isFinite (coordinate node.lower axis) = true ∧
      isFinite (coordinate node.upper axis) = true := by
  obtain ⟨⟨p, hp, hlower⟩, q, hq, hupper⟩ := h.attained hmembers axis
  rw [hlower, hupper]
  exact ⟨coordinate_finite (hfinite p hp) axis, coordinate_finite (hfinite q hq) axis⟩

theorem foldl_widest {e e' : ℕ → D} (hiff : ∀ a b, e a < e b ↔ e' a < e' b) (candidates : List ℕ)
    (axis : ℕ) :
    (candidates.foldl (fun (best : ℕ × D) candidate =>
        if best.2 < e candidate then (candidate, e candidate) else best) (axis, e axis)).1 =
      (candidates.foldl (fun (best : ℕ × D) candidate =>
        if best.2 < e' candidate then (candidate, e' candidate) else best) (axis, e' axis)).1 := by
  induction candidates generalizing axis with
  | nil => rfl
  | cons candidate candidates ih =>
    rw [List.foldl_cons, List.foldl_cons]
    by_cases h : e axis < e candidate
    · rw [if_pos h, if_pos ((hiff _ _).mp h)]
      exact ih candidate
    · rw [if_neg h, if_neg fun h' => h ((hiff _ _).mpr h')]
      exact ih axis

theorem widestAxis_congr [FiniteNumbers F] [OrderedFloat D] [MonotoneDifferences F D]
    (h : node.Same node')
    (hlower : ∀ axis, isFinite (coordinate node.lower axis) = true)
    (hupper : ∀ axis, isFinite (coordinate node.upper axis) = true)
    (hlower' : ∀ axis, isFinite (coordinate node'.lower axis) = true)
    (hupper' : ∀ axis, isFinite (coordinate node'.upper axis) = true) :
    widestAxis D node = widestAxis D node' := by
  let e (axis : ℕ) : D := widen (coordinate node.upper axis) - widen (coordinate node.lower axis)
  let e' (axis : ℕ) : D :=
    widen (coordinate node'.upper axis) - widen (coordinate node'.lower axis)
  have hle : ∀ axis, e axis ≤ e' axis ∧ e' axis ≤ e axis := by
    intro axis
    obtain ⟨hl, hl'⟩ := FiniteNumbers.equal_iff.mp (h.lower axis)
    obtain ⟨hu, hu'⟩ := FiniteNumbers.equal_iff.mp (h.upper axis)
    constructor
    · exact MonotoneDifferences.sub_le_sub (hupper _) (hupper' _) (hlower _) (hlower' _) hu hl'
    · exact MonotoneDifferences.sub_le_sub (hupper' _) (hupper _) (hlower' _) (hlower _) hu' hl
  have hiff : ∀ a b, e a < e b ↔ e' a < e' b := fun a b =>
    ⟨fun hlt => le_lt_trans (hle a).2 (lt_le_trans hlt (hle b).1),
      fun hlt => le_lt_trans (hle a).1 (lt_le_trans hlt (hle b).2)⟩
  exact foldl_widest hiff [1, 2] 0

/-- Nodes with equal bounds are identical where equal coordinates of the reference are. -/
theorem SpatialNode.Same.eq (h : node.Same node')
    (hidentified : Identified reference)
    (hnode : ∀ axis, (∃ p ∈ reference, coordinate node.lower axis = coordinate p axis) ∧
      ∃ p ∈ reference, coordinate node.upper axis = coordinate p axis)
    (hnode' : ∀ axis, (∃ p ∈ reference, coordinate node'.lower axis = coordinate p axis) ∧
      ∃ p ∈ reference, coordinate node'.upper axis = coordinate p axis) : node = node' := by
  have hlower : ∀ axis, coordinate node.lower axis = coordinate node'.lower axis := by
    intro axis
    obtain ⟨⟨p, hp, hlower⟩, -⟩ := hnode axis
    obtain ⟨⟨q, hq, hlower'⟩, -⟩ := hnode' axis
    have hequal := h.lower axis
    rw [hlower, hlower'] at hequal ⊢
    exact hidentified p hp q hq axis hequal
  have hupper : ∀ axis, coordinate node.upper axis = coordinate node'.upper axis := by
    intro axis
    obtain ⟨-, p, hp, hupper⟩ := hnode axis
    obtain ⟨-, q, hq, hupper'⟩ := hnode' axis
    have hequal := h.upper axis
    rw [hupper, hupper'] at hequal ⊢
    exact hidentified p hp q hq axis hequal
  have hext : ∀ a b : Vec3 F, (∀ axis, coordinate a axis = coordinate b axis) → a = b := by
    rintro ⟨x, y, z⟩ ⟨x', y', z'⟩ hcoordinate
    obtain rfl : x = x' := hcoordinate 0
    obtain rfl : y = y' := hcoordinate 1
    obtain rfl : z = z' := hcoordinate 2
    rfl
  obtain ⟨lower, upper, begin, count, escape, minimumIndex⟩ := node
  obtain ⟨lower', upper', begin', count', escape', minimumIndex'⟩ := node'
  obtain rfl : lower = lower' := hext _ _ hlower
  obtain rfl : upper = upper' := hext _ _ hupper
  obtain ⟨-, -, rfl, rfl, rfl, rfl⟩ := h
  rfl

theorem SpatialIndex.WellFormed.attained {index : SpatialIndex F} (h : index.WellFormed reference)
    (hnode : node ∈ index.nodes) (axis : ℕ) :
    (∃ p ∈ reference, coordinate node.lower axis = coordinate p axis) ∧
      ∃ p ∈ reference, coordinate node.upper axis = coordinate p axis := by
  obtain ⟨k, hk⟩ := List.getElem?_of_mem hnode
  obtain ⟨slots, hslots, -, hbounds⟩ := h.bounds k node hk
  apply hbounds.attained
  intro c hc
  have hmem := h.perm.mem_iff.mp (List.mem_of_mem_drop (hslots.subset hc))
  obtain ⟨i, hi, rfl⟩ := List.mem_map.mp hmem
  have := List.mem_range.mp hi
  exact ⟨Int.natCast_nonneg i, by simpa using this⟩

end Nodes

section Builds

variable [OrderedFloat F] [FiniteNumbers F] [OrderedFloat D] [MonotoneDifferences F D]
  {reference : List (Vec3 F)}

theorem rangeNode_perm (hfinite : ∀ p ∈ reference, p.finite = true)
    (hlength : reference.length ≤ int32Max) {range range' : List ℤ}
    (hrange : SlotRange reference 1 range) (hperm : range.Perm range') (begin : ℕ) :
    (rangeNode reference begin range).Same (rangeNode reference begin range') ∧
      widestAxis D (rangeNode reference begin range) =
        widestAxis D (rangeNode reference begin range') := by
  have hrange' := hrange.perm hperm
  have hbounds := hrange.bounds hfinite hlength Nat.one_pos begin
  have hbounds' := hrange'.bounds hfinite hlength Nat.one_pos begin
  have hsame : (rangeNode reference begin range).Same (rangeNode reference begin range') := by
    apply hbounds.same hbounds' hperm
    · rw [rangeNode_begin, rangeNode_begin]
    · rw [rangeNode_count, rangeNode_count, hperm.length_eq]
    · rw [rangeNode_escape, rangeNode_escape]
  have hattained := hbounds.bounds_finite hfinite hrange.members
  have hattained' := hbounds'.bounds_finite hfinite hrange'.members
  exact ⟨hsame, widestAxis_congr hsame (fun axis => (hattained axis).1)
    (fun axis => (hattained axis).2) (fun axis => (hattained' axis).1)
    fun axis => (hattained' axis).2⟩

/-- Builds over ranges with the same members leave the same indices and the same nodes. -/
theorem buildSubtree_same (hfinite : ∀ p ∈ reference, p.finite = true)
    (hlength : reference.length ≤ int32Max) (nth nth' : NthElement) (begin nodeIndex : ℕ)
    (range : List ℤ) : ∀ range', SlotRange reference 1 range → range.Perm range' →
      (buildSubtree D nth reference begin nodeIndex range).1 =
          (buildSubtree D nth' reference begin nodeIndex range').1 ∧
        List.Forall₂ SpatialNode.Same (buildSubtree D nth reference begin nodeIndex range).2
          (buildSubtree D nth' reference begin nodeIndex range').2 := by
  induction begin, nodeIndex, range using buildSubtree.induct (D := D) nth reference with
  | case1 begin nodeIndex range hleaf =>
    intro range' hrange hperm
    obtain ⟨hsame, -⟩ := rangeNode_perm (D := D) hfinite hlength hrange hperm begin
    rw [buildSubtree_leaf nth reference begin nodeIndex hleaf,
      buildSubtree_leaf nth' reference begin nodeIndex (hperm.length_eq ▸ hleaf)]
    refine ⟨?_, .cons { hsame with escape := rfl } .nil⟩
    apply List.Perm.eq_of_pairwise' (r := (· ≤ ·))
    · exact List.pairwise_insertionSort _ _
    · exact List.pairwise_insertionSort _ _
    · exact (List.perm_insertionSort _ _).trans (hperm.trans (List.perm_insertionSort _ _).symm)
  | case2 begin nodeIndex range node hlarge middle selected left ihLeft _ ihRight =>
    intro range' hrange hperm
    obtain ⟨hsame, haxis⟩ := rangeNode_perm (D := D) hfinite hlength hrange hperm begin
    have hlarge' : ¬ range'.length ≤ leafCapacity := hperm.length_eq ▸ hlarge
    have hcapacity : leafCapacity = 16 := rfl
    have hne : reference ≠ [] := by
      rintro rfl
      obtain ⟨c, hc⟩ := List.exists_mem_of_length_pos (hrange.least_le.trans' Nat.one_pos)
      have := hrange.members c hc
      simp at this
      omega
    have hmiddle : middle < range.length := by omega
    obtain ⟨hlower, hupper⟩ := select_halves nth nth'
      (splitBefore_total hfinite hne (widestAxis D node)) hmiddle hrange.nodup hperm
    have hselected : SlotRange reference 1 selected := hrange.perm (nth.perm ..).symm
    have hsize : selected.length = range.length := (nth.perm ..).length_eq
    have hrangeLower : SlotRange reference 1 (selected.take middle) := by
      apply hselected.sublist (List.take_sublist _ _)
      rw [List.length_take]
      omega
    have hrangeUpper : SlotRange reference 1 (selected.drop middle) := by
      apply hselected.sublist (List.drop_sublist _ _)
      rw [List.length_drop]
      omega
    obtain ⟨hslots, hnodes⟩ := ihLeft _ hrangeLower hlower
    obtain ⟨hslots', hnodes'⟩ := ihRight _ hrangeUpper hupper
    rw [buildSubtree_interior nth reference begin nodeIndex hlarge rfl rfl rfl,
      buildSubtree_interior nth' reference begin nodeIndex hlarge'
        (by rw [← haxis, ← hperm.length_eq]) (by rw [← hperm.length_eq])
        (by rw [← hperm.length_eq, ← hnodes.length_eq])]
    refine ⟨congrArg₂ _ hslots hslots', .cons ?_ (List.rel_append hnodes hnodes')⟩
    exact { hsame with
      count := rfl
      escape := congrArg₂ (fun l r => nodeIndex + 1 + l + r) hnodes.length_eq hnodes'.length_eq }

/-- The build yields one index whatever the selection, up to the bits of equal bounds, and
identical ones where no two coordinates are zeros of different signs. What it rejects, it rejects
with every selection. -/
theorem buildSpatialIndex_deterministic (nth nth' : NthElement) (reference : List (Vec3 F)) :
    (∀ error, buildSpatialIndex D nth reference = .error error ↔
      buildSpatialIndex D nth' reference = .error error) ∧
    ∀ index, buildSpatialIndex D nth reference = .ok index → ∃ index',
      buildSpatialIndex D nth' reference = .ok index' ∧ index'.points = index.points ∧
        index'.originalIndices = index.originalIndices ∧
        List.Forall₂ SpatialNode.Same index.nodes index'.nodes ∧
        (Identified reference → index' = index) := by
  constructor
  · intro error
    unfold buildSpatialIndex
    split_ifs <;> simp
  · intro index hindex
    obtain ⟨hne, hlength, hfinite⟩ := buildSpatialIndex_accepted hindex
    obtain ⟨index₀, hindex₀, hwell⟩ :=
      exists_wellFormed (D := D) nth hne hlength hfinite
    obtain rfl : index₀ = index := Except.ok.inj (hindex₀.symm.trans hindex)
    obtain ⟨index', hindex', hwell'⟩ :=
      exists_wellFormed (D := D) nth' hne hlength hfinite
    obtain ⟨hpoints, hbuilt⟩ := buildSpatialIndex_eq hindex
    obtain ⟨hpoints', hbuilt'⟩ := buildSpatialIndex_eq hindex'
    obtain ⟨hslots, hnodes⟩ := buildSubtree_same (D := D) hfinite hlength nth nth' 0 0 _ _
      (slotRange_all (List.length_pos_iff.mpr hne)) (List.Perm.refl _)
    rw [hbuilt, hbuilt'] at hslots hnodes
    dsimp only at hslots hnodes
    have hsame : index'.points = index₀.points := by rw [hpoints, hpoints', hslots]
    refine ⟨index', hindex', hsame, hslots.symm, hnodes, fun hidentified => ?_⟩
    have hidentical : index₀.nodes = index'.nodes := by
      refine List.ext_getElem hnodes.length_eq fun k hk hk' => ?_
      exact (hnodes.get hk hk').eq hidentified (hwell.attained (List.getElem_mem hk))
        (hwell'.attained (List.getElem_mem hk'))
    obtain ⟨points, originalIndices, nodes⟩ := index₀
    obtain ⟨points', originalIndices', nodes'⟩ := index'
    obtain rfl : points' = points := hsame
    obtain rfl : originalIndices = originalIndices' := hslots
    obtain rfl : nodes = nodes' := hidentical
    rfl

/-- Two selections of a line of seventeen points. -/
theorem buildSpatialIndex_deterministic_line :
    (∀ error, buildSpatialIndex (Exact ℚ) .sorting
        ((List.range 17).map fun i => (⟨.fin i, .fin 0, .fin 0⟩ : Vec3 (Exact ℚ))) = .error error ↔
      buildSpatialIndex (Exact ℚ) NthElement.sorting.reversed
        ((List.range 17).map fun i => (⟨.fin i, .fin 0, .fin 0⟩ : Vec3 (Exact ℚ))) =
          .error error) ∧
    ∀ index, buildSpatialIndex (Exact ℚ) .sorting
        ((List.range 17).map fun i => (⟨.fin i, .fin 0, .fin 0⟩ : Vec3 (Exact ℚ))) = .ok index →
      ∃ index', buildSpatialIndex (Exact ℚ) NthElement.sorting.reversed
          ((List.range 17).map fun i => (⟨.fin i, .fin 0, .fin 0⟩ : Vec3 (Exact ℚ))) =
            .ok index' ∧
        index'.points = index.points ∧ index'.originalIndices = index.originalIndices ∧
        List.Forall₂ SpatialNode.Same index.nodes index'.nodes ∧
        (Identified
            ((List.range 17).map fun i => (⟨.fin i, .fin 0, .fin 0⟩ : Vec3 (Exact ℚ))) →
          index' = index) :=
  buildSpatialIndex_deterministic .sorting NthElement.sorting.reversed _

end Builds
end PointcloudAd.Cuda
