import Mathlib.Data.List.Sort
import Mathlib.Order.Defs.Unbundled
import PointcloudAd.Core.Surface
import PointcloudAd.Registration.Context

/-!
# The spatial index

A tree of boxes over a reference, stored in preorder. A node with points in its subtree but none of
its own has a count of zero, and its first child follows it; `escape` skips its subtree. The leaves
are ranges of the packed points, which the build permutes.
-/

namespace PointcloudAd.Cuda

open Library

/-- `std::nth_element`: the element at a position is one that a full sort may place there, what
precedes it is not greater, and what follows it is not smaller. -/
structure NthElement where
  select : (ℤ → ℤ → Bool) → ℕ → List ℤ → List ℤ
  perm : ∀ less middle range, (select less middle range).Perm range
  placed : ∀ less middle range, IsStrictWeakOrder ℤ (fun a b => less a b = true) →
    ∀ nth, (select less middle range)[middle]? = some nth →
      (∀ a ∈ (select less middle range).take middle, less nth a = false) ∧
        ∀ b ∈ (select less middle range).drop (middle + 1), less b nth = false

/-- A full sort. -/
def NthElement.sorting : NthElement where
  select less _ range := range.mergeSort fun a b => !less b a
  perm _ _ range := List.mergeSort_perm range _
  placed less middle range horder nth hnth := by
    have hsorted : (range.mergeSort fun a b => !less b a).Pairwise fun a b => !less b a := by
      apply List.pairwise_mergeSort
      · intro a b c hab hbc
        have hab : ¬ less b a = true := by simpa using hab
        have hbc : ¬ less c b = true := by simpa using hbc
        have hac : ¬ less c a = true := by
          intro hca
          -- In a strict weak order every third element is on one side of two that are ordered.
          by_cases hba : less a b = true
          · exact hbc (horder.trans _ _ _ hca hba)
          · by_cases hcb : less b c = true
            · exact hab (horder.trans _ _ _ hcb hca)
            · exact (horder.incomp_trans c b a ⟨hbc, hcb⟩ ⟨hab, hba⟩).1 hca
        simpa using hac
      · intro a b
        by_cases hba : less b a = true
        · have hab : ¬ less a b = true := fun hab => horder.irrefl _ (horder.trans _ _ _ hab hba)
          simp [hba, hab]
        · simp [hba]
    obtain ⟨hlt, rfl⟩ := List.getElem?_eq_some_iff.mp hnth
    rw [List.pairwise_iff_getElem] at hsorted
    constructor
    · intro a ha
      obtain ⟨i, hi, rfl⟩ := List.getElem_of_mem ha
      rw [List.length_take] at hi
      rw [List.getElem_take]
      simpa using hsorted i middle (by omega) hlt (by omega)
    · intro b hb
      obtain ⟨i, hi, rfl⟩ := List.getElem_of_mem hb
      rw [List.length_drop] at hi
      rw [List.getElem_drop]
      simpa using hsorted middle (middle + 1 + i) hlt (by omega) (by omega)

/-- A selection that leaves the part before the element in the other order. -/
def NthElement.reversed (nth : NthElement) : NthElement where
  select less middle range :=
    ((nth.select less middle range).take middle).reverse ++
      (nth.select less middle range).drop middle
  perm less middle range := by
    have hreversed := (List.reverse_perm ((nth.select less middle range).take middle)).append_right
      ((nth.select less middle range).drop middle)
    rw [List.take_append_drop] at hreversed
    exact hreversed.trans (nth.perm less middle range)
  placed less middle range horder a ha := by
    by_cases hmiddle : middle ≤ (nth.select less middle range).length
    · have hlength : ((nth.select less middle range).take middle).reverse.length = middle := by
        rw [List.length_reverse, List.length_take, min_eq_left hmiddle]
      rw [List.getElem?_append_right hlength.le, hlength, Nat.sub_self, List.getElem?_drop,
        Nat.add_zero] at ha
      obtain ⟨hbefore, hafter⟩ := nth.placed less middle range horder a ha
      constructor
      · intro b hb
        rw [List.take_left' hlength, List.mem_reverse] at hb
        exact hbefore b hb
      · intro b hb
        rw [← List.drop_drop, List.drop_left' hlength, List.drop_drop] at hb
        exact hafter b hb
    · have hlt := (List.getElem?_eq_some_iff.mp ha).1
      simp only [List.length_append, List.length_reverse, List.length_take,
        List.length_drop] at hlt
      omega

/-- The members are unsigned 32-bit numbers in the program, and a signed one. -/
structure SpatialNode (F : Type) where
  lower : Vec3 F
  upper : Vec3 F
  begin : ℕ
  count : ℕ
  escape : ℕ
  minimumIndex : ℤ
  deriving DecidableEq, Repr

structure SpatialIndex (F : Type) where
  points : List (Vec3 F)
  originalIndices : List ℤ
  nodes : List (SpatialNode F)
  deriving DecidableEq, Repr

variable {F D : Type} [FloatArith F] [FloatArith D] [Floats F D]

instance inhabitedSpatialNode : Inhabited (SpatialNode F) := ⟨⟨default, default, 0, 0, 0, 0⟩⟩

def leafCapacity : ℕ := 16

def coordinate (point : Vec3 F) (axis : ℕ) : F :=
  if axis = 0 then point.x else if axis = 1 then point.y else point.z

def referencePoint (reference : List (Vec3 F)) (original : ℤ) : Vec3 F :=
  reference.getD original.toNat default

theorem referencePoint_mem {reference : List (Vec3 F)} {c : ℤ}
    (hc : 0 ≤ c ∧ c < reference.length) : referencePoint reference c ∈ reference := by
  have hlt : c.toNat < reference.length := by omega
  rw [referencePoint, List.getD_eq_getElem?_getD, List.getElem?_eq_getElem hlt]
  exact List.getElem_mem hlt

/-- Extends the bounds and the least index of a node by one point of its range. -/
def enclose (reference : List (Vec3 F)) (node : SpatialNode F) (original : ℤ) : SpatialNode F :=
  let point := referencePoint reference original
  { node with
    lower := ⟨stdMin node.lower.x point.x, stdMin node.lower.y point.y,
      stdMin node.lower.z point.z⟩
    upper := ⟨stdMax node.upper.x point.x, stdMax node.upper.y point.y,
      stdMax node.upper.z point.z⟩
    minimumIndex := min node.minimumIndex original }

/-- The node over a range, before it is known whether it is a leaf. -/
def rangeNode (reference : List (Vec3 F)) (begin : ℕ) (range : List ℤ) : SpatialNode F :=
  let first := referencePoint reference (range.headD 0)
  range.foldl (enclose reference)
    ⟨first, first, begin, range.length, 0, int32Max⟩

variable (D) in
/-- The axis of the greatest extent, the first of several. -/
def widestAxis (node : SpatialNode F) : ℕ :=
  let extent (axis : ℕ) : D :=
    widen (coordinate node.upper axis) - widen (coordinate node.lower axis)
  ([1, 2].foldl (fun (best : ℕ × D) candidate =>
    if best.2 < extent candidate then (candidate, extent candidate) else best) (0, extent 0)).1

/-- The order of a split: by one coordinate, then by index. -/
def splitBefore (reference : List (Vec3 F)) (axis : ℕ) (left right : ℤ) : Bool :=
  let l := coordinate (referencePoint reference left) axis
  let r := coordinate (referencePoint reference right) axis
  l < r ∨ (equal l r ∧ left < right)

variable (D) in
/-- The subtree over a range of slots, as the range of indices is left and as nodes to append. -/
def buildSubtree (nth : NthElement) (reference : List (Vec3 F)) (begin nodeIndex : ℕ)
    (range : List ℤ) : List ℤ × List (SpatialNode F) :=
  let node := rangeNode reference begin range
  if range.length ≤ leafCapacity then
    (range.insertionSort (· ≤ ·), [{ node with escape := nodeIndex + 1 }])
  else
    let middle := range.length / 2
    let selected := nth.select (splitBefore reference (widestAxis D node)) middle range
    let left := buildSubtree nth reference begin (nodeIndex + 1) (selected.take middle)
    let right := buildSubtree nth reference (begin + middle) (nodeIndex + 1 + left.2.length)
      (selected.drop middle)
    (left.1 ++ right.1,
      { node with count := 0, escape := nodeIndex + 1 + left.2.length + right.2.length } ::
        (left.2 ++ right.2))
termination_by range.length
decreasing_by
  all_goals
    have hlarge : 16 < range.length := Nat.not_le.mp ‹_›
    have hlength := (nth.perm (splitBefore reference (widestAxis D node)) middle range).length_eq
  · exact (List.length_take_le _ _).trans_lt (by omega)
  · rw [List.length_drop, hlength]
    omega

variable (D) in
def buildSpatialIndex (nth : NthElement) (reference : List (Vec3 F)) :
    Except Exn (SpatialIndex F) :=
  if reference = [] ∨ int32Max < reference.length then
    .error (.invalidArgument "spatial index requires a nonempty int32-sized reference")
  else if ∃ point ∈ reference, ¬ point.finite then
    .error (.invalidArgument "spatial index requires finite coordinates")
  else
    let built := buildSubtree D nth reference 0 0 ((List.range reference.length).map Int.ofNat)
    .ok ⟨built.1.map (referencePoint reference), built.1, built.2⟩

theorem exists_buildSpatialIndex (nth : NthElement) {reference : List (Vec3 F)}
    (hne : reference ≠ []) (hlength : reference.length ≤ int32Max)
    (hfinite : ∀ point ∈ reference, point.finite = true) :
    ∃ index, buildSpatialIndex D nth reference = .ok index := by
  unfold buildSpatialIndex
  rw [if_neg (not_or.mpr ⟨hne, Nat.not_lt.mpr hlength⟩),
    if_neg fun ⟨p, hp, hn⟩ => hn (hfinite p hp)]
  exact ⟨_, rfl⟩

theorem buildSpatialIndex_accepted {nth : NthElement} {reference : List (Vec3 F)}
    {index : SpatialIndex F} (h : buildSpatialIndex D nth reference = .ok index) :
    reference ≠ [] ∧ reference.length ≤ int32Max ∧ ∀ point ∈ reference, point.finite = true := by
  unfold buildSpatialIndex at h
  split_ifs at h with hsize hfinite
  rw [not_or, not_lt] at hsize
  refine ⟨hsize.1, hsize.2, fun p hp => ?_⟩
  by_contra hn
  exact hfinite ⟨p, hp, hn⟩

theorem buildSpatialIndex_eq {nth : NthElement} {reference : List (Vec3 F)}
    {index : SpatialIndex F} (h : buildSpatialIndex D nth reference = .ok index) :
    index.points = index.originalIndices.map (referencePoint reference) ∧
      buildSubtree D nth reference 0 0 ((List.range reference.length).map Int.ofNat) =
        (index.originalIndices, index.nodes) := by
  unfold buildSpatialIndex at h
  split_ifs at h
  cases h
  exact ⟨rfl, rfl⟩

theorem buildSubtree_leaf (nth : NthElement) (reference : List (Vec3 F)) (begin nodeIndex : ℕ)
    {range : List ℤ} (hleaf : range.length ≤ leafCapacity) :
    buildSubtree D nth reference begin nodeIndex range = (range.insertionSort (· ≤ ·),
      [{ rangeNode reference begin range with escape := nodeIndex + 1 }]) := by
  rw [buildSubtree, if_pos hleaf]

theorem buildSubtree_interior (nth : NthElement) (reference : List (Vec3 F))
    (begin nodeIndex : ℕ) {range selected : List ℤ} (hlarge : ¬ range.length ≤ leafCapacity)
    (hselected : nth.select (splitBefore reference (widestAxis D (rangeNode reference begin range)))
      (range.length / 2) range = selected)
    {left right : List ℤ × List (SpatialNode F)}
    (hleft : buildSubtree D nth reference begin (nodeIndex + 1)
      (selected.take (range.length / 2)) = left)
    (hright : buildSubtree D nth reference (begin + range.length / 2)
      (nodeIndex + 1 + left.2.length) (selected.drop (range.length / 2)) = right) :
    buildSubtree D nth reference begin nodeIndex range = (left.1 ++ right.1,
      { rangeNode reference begin range with
        count := 0
        escape := nodeIndex + 1 + left.2.length + right.2.length } :: (left.2 ++ right.2)) := by
  subst hselected hleft hright
  rw [buildSubtree, if_neg hlarge]

/-- What holds of leaves, and of an interior node when it holds of the subtrees over two halves of
its range, holds of every subtree. -/
theorem buildSubtree_induction (nth : NthElement) (reference : List (Vec3 F))
    {motive : ℕ → ℕ → List ℤ → List ℤ × List (SpatialNode F) → Prop}
    (leaf : ∀ begin nodeIndex range, range.length ≤ leafCapacity →
      motive begin nodeIndex range (range.insertionSort (· ≤ ·),
        [{ rangeNode reference begin range with escape := nodeIndex + 1 }]))
    (interior : ∀ begin nodeIndex range lower upper left right, leafCapacity < range.length →
      (lower ++ upper).Perm range → lower.length = range.length / 2 →
      motive begin (nodeIndex + 1) lower left →
      motive (begin + range.length / 2) (nodeIndex + 1 + left.2.length) upper right →
      motive begin nodeIndex range (left.1 ++ right.1,
        { rangeNode reference begin range with
          count := 0
          escape := nodeIndex + 1 + left.2.length + right.2.length } :: (left.2 ++ right.2)))
    (begin nodeIndex : ℕ) (range : List ℤ) :
    motive begin nodeIndex range (buildSubtree D nth reference begin nodeIndex range) := by
  induction begin, nodeIndex, range using buildSubtree.induct (D := D) nth reference with
  | case1 begin nodeIndex range hleaf =>
    rw [buildSubtree_leaf nth reference begin nodeIndex hleaf]
    exact leaf begin nodeIndex range hleaf
  | case2 begin nodeIndex range node hlarge middle selected left ihLeft _ ihRight =>
    have hperm : selected.Perm range := nth.perm _ _ _
    rw [buildSubtree_interior nth reference begin nodeIndex hlarge rfl rfl rfl]
    apply interior begin nodeIndex range (selected.take middle) (selected.drop middle) left
    · exact Nat.not_le.mp hlarge
    · rwa [List.take_append_drop]
    · rw [List.length_take, hperm.length_eq]
      exact min_eq_left (Nat.div_le_self _ _)
    · exact ihLeft
    · exact ihRight

theorem buildSubtree_perm (nth : NthElement) (reference : List (Vec3 F)) (begin nodeIndex : ℕ)
    (range : List ℤ) : (buildSubtree D nth reference begin nodeIndex range).1.Perm range := by
  induction begin, nodeIndex, range using buildSubtree_induction (D := D) nth reference with
  | leaf begin nodeIndex range hleaf => exact List.perm_insertionSort _ _
  | interior begin nodeIndex range lower upper left right hlarge hperm hlength ihLeft ihRight =>
    exact (ihLeft.append ihRight).trans hperm

@[simp] theorem foldl_enclose_begin (reference : List (Vec3 F)) (range : List ℤ)
    (node : SpatialNode F) : (range.foldl (enclose reference) node).begin = node.begin := by
  induction range generalizing node with
  | nil => rfl
  | cons c range ih => exact ih _

@[simp] theorem foldl_enclose_count (reference : List (Vec3 F)) (range : List ℤ)
    (node : SpatialNode F) : (range.foldl (enclose reference) node).count = node.count := by
  induction range generalizing node with
  | nil => rfl
  | cons c range ih => exact ih _

@[simp] theorem foldl_enclose_escape (reference : List (Vec3 F)) (range : List ℤ)
    (node : SpatialNode F) : (range.foldl (enclose reference) node).escape = node.escape := by
  induction range generalizing node with
  | nil => rfl
  | cons c range ih => exact ih _

@[simp] theorem rangeNode_begin (reference : List (Vec3 F)) (begin : ℕ) (range : List ℤ) :
    (rangeNode reference begin range).begin = begin := foldl_enclose_begin ..

@[simp] theorem rangeNode_count (reference : List (Vec3 F)) (begin : ℕ) (range : List ℤ) :
    (rangeNode reference begin range).count = range.length := foldl_enclose_count ..

@[simp] theorem rangeNode_escape (reference : List (Vec3 F)) (begin : ℕ) (range : List ℤ) :
    (rangeNode reference begin range).escape = 0 := foldl_enclose_escape ..

/-- No coordinate of the first point is above that of the second. -/
structure Below (a b : Vec3 F) : Prop where
  x : a.x ≤ b.x
  y : a.y ≤ b.y
  z : a.z ≤ b.z

/-- The bounds and the least index of one node extend to those of another. -/
structure SpatialNode.Within (inner outer : SpatialNode F) : Prop where
  lower : Below outer.lower inner.lower
  upper : Below inner.upper outer.upper
  minimumIndex : outer.minimumIndex ≤ inner.minimumIndex

/-- One point of the reference, as a node. -/
def pointNode (reference : List (Vec3 F)) (original : ℤ) : SpatialNode F :=
  let point := referencePoint reference original
  ⟨point, point, 0, 0, 0, original⟩

theorem pointNode_self [FiniteNumbers F] {reference : List (Vec3 F)} {c : ℤ}
    (h : (referencePoint reference c).finite = true) :
    (pointNode reference c).Within (pointNode reference c) := by
  obtain ⟨hx, hy, hz⟩ := Vec3.finite_iff_axes.mp h
  have hbelow : Below (referencePoint reference c) (referencePoint reference c) :=
    ⟨FiniteNumbers.number hx, FiniteNumbers.number hy, FiniteNumbers.number hz⟩
  exact ⟨hbelow, hbelow, le_rfl⟩

section Ordered

variable [OrderedFloat F]

theorem Below.trans {a b c : Vec3 F} (hab : Below a b) (hbc : Below b c) : Below a c :=
  ⟨OrderedFloat.le_trans hab.x hbc.x, OrderedFloat.le_trans hab.y hbc.y,
    OrderedFloat.le_trans hab.z hbc.z⟩

theorem SpatialNode.Within.trans {a b c : SpatialNode F} (hab : a.Within b) (hbc : b.Within c) :
    a.Within c :=
  ⟨hbc.lower.trans hab.lower, hab.upper.trans hbc.upper, hbc.minimumIndex.trans hab.minimumIndex⟩

theorem enclose_within {reference : List (Vec3 F)} {node : SpatialNode F} {c : ℤ}
    (hnode : node.Within node) (hc : (pointNode reference c).Within (pointNode reference c)) :
    node.Within (enclose reference node c) ∧
      (pointNode reference c).Within (enclose reference node c) := by
  constructor
  · constructor
    · exact ⟨stdMin_le_left hnode.lower.x, stdMin_le_left hnode.lower.y,
        stdMin_le_left hnode.lower.z⟩
    · exact ⟨(le_stdMax_iff hnode.upper.x hc.upper.x).mpr (.inl hnode.upper.x),
        (le_stdMax_iff hnode.upper.y hc.upper.y).mpr (.inl hnode.upper.y),
        (le_stdMax_iff hnode.upper.z hc.upper.z).mpr (.inl hnode.upper.z)⟩
    · exact min_le_left _ _
  · constructor
    · exact ⟨stdMin_le_right hnode.lower.x hc.lower.x, stdMin_le_right hnode.lower.y hc.lower.y,
        stdMin_le_right hnode.lower.z hc.lower.z⟩
    · exact ⟨(le_stdMax_iff hnode.upper.x hc.upper.x).mpr (.inr hc.upper.x),
        (le_stdMax_iff hnode.upper.y hc.upper.y).mpr (.inr hc.upper.y),
        (le_stdMax_iff hnode.upper.z hc.upper.z).mpr (.inr hc.upper.z)⟩
    · exact min_le_right _ _

theorem foldl_enclose_within {reference : List (Vec3 F)} :
    ∀ {range : List ℤ} {node : SpatialNode F}, node.Within node →
      (∀ c ∈ range, (pointNode reference c).Within (pointNode reference c)) →
      node.Within (range.foldl (enclose reference) node) ∧
        ∀ c ∈ range, (pointNode reference c).Within (range.foldl (enclose reference) node)
  | [], node, hnode, _ => ⟨hnode, by simp⟩
  | c :: range, node, hnode, hrange => by
    obtain ⟨hold, hnew⟩ := enclose_within hnode (hrange c (by simp))
    have hself : (enclose reference node c).Within (enclose reference node c) := by
      constructor
      · exact ⟨OrderedFloat.le_left hold.lower.x, OrderedFloat.le_left hold.lower.y,
          OrderedFloat.le_left hold.lower.z⟩
      · exact ⟨OrderedFloat.le_right hold.upper.x, OrderedFloat.le_right hold.upper.y,
          OrderedFloat.le_right hold.upper.z⟩
      · exact le_rfl
    obtain ⟨hall, heach⟩ := foldl_enclose_within hself
      fun d hd => hrange d (List.mem_cons_of_mem c hd)
    refine ⟨hold.trans hall, fun d hd => ?_⟩
    rcases List.mem_cons.mp hd with rfl | hd
    · exact hnew.trans hall
    · exact heach d hd

theorem within_rangeNode {reference : List (Vec3 F)} {begin : ℕ} {range : List ℤ}
    (hrange : ∀ c ∈ range, (pointNode reference c).Within (pointNode reference c)) :
    ∀ c ∈ range, (pointNode reference c).Within (rangeNode reference begin range) := by
  intro c hc
  have hfirst := hrange (range.headD 0) (by
    cases range with
    | nil => cases hc
    | cons d range => simp)
  unfold rangeNode
  refine (foldl_enclose_within ?_ hrange).2 c hc
  exact ⟨hfirst.lower, hfirst.upper, le_rfl⟩

end Ordered
end PointcloudAd.Cuda
