import PointcloudAd.Cuda.SpatialIndex
import PointcloudAd.Library.Matching

/-!
# The tree of the spatial index

The nodes of an index are a tree in preorder: a leaf is one node, and an interior node is followed
by the subtree of its first child, and that by the subtree of its second. A subtree is known by the
positions of its nodes and of its slots.
-/

namespace PointcloudAd.Cuda

open Library

variable {F D : Type} [FloatArith F] [FloatArith D] [Floats F D]

/-- The bounds and the least index of a node are those of some points. -/
structure Bounds (reference : List (Vec3 F)) (node : SpatialNode F) (slots : List ℤ) : Prop where
  within : ∀ c ∈ slots, (pointNode reference c).Within node
  lower : ∀ axis, ∃ c ∈ slots,
    coordinate node.lower axis = coordinate (referencePoint reference c) axis
  upper : ∀ axis, ∃ c ∈ slots,
    coordinate node.upper axis = coordinate (referencePoint reference c) axis
  minimumIndex : node.minimumIndex ∈ slots

/-- A subtree from a node position to its escape, over slots from a position on, with leaves of
`least` points or more and of a height. -/
inductive Subtree (reference : List (Vec3 F)) (index : SpatialIndex F) (least : ℕ) :
    ℕ → ℕ → List ℤ → ℕ → ℕ → Prop
  | leaf {cursor begin : ℕ} {slots : List ℤ} {node : SpatialNode F}
      (hnode : index.nodes[cursor]? = some node) (hbounds : Bounds reference node slots)
      (hbegin : node.begin = begin) (hcount : node.count = slots.length)
      (hescape : node.escape = cursor + 1) (hleast : least ≤ slots.length)
      (hcapacity : slots.length ≤ leafCapacity) (hsorted : slots.Pairwise (· < ·))
      (hslots : slots <+: index.originalIndices.drop begin) :
      Subtree reference index least cursor begin slots (cursor + 1) 0
  | branch {cursor begin middle escape height height' : ℕ} {left right : List ℤ}
      {node : SpatialNode F} (hnode : index.nodes[cursor]? = some node)
      (hbounds : Bounds reference node (left ++ right)) (hbegin : node.begin = begin)
      (hcount : node.count = 0) (hescape : node.escape = escape)
      (hfirst : Subtree reference index least (cursor + 1) begin left middle height)
      (hsecond : Subtree reference index least middle (begin + left.length) right escape height') :
      Subtree reference index least cursor begin (left ++ right) escape (max height height' + 1)

variable {reference : List (Vec3 F)} {index : SpatialIndex F} {least : ℕ}

namespace Subtree

variable {cursor begin escape height : ℕ} {slots : List ℤ}

theorem cursor_lt_escape (h : Subtree reference index least cursor begin slots escape height) :
    cursor < escape := by
  induction h with
  | leaf => exact Nat.lt_succ_self _
  | branch _ _ _ _ _ _ _ ihFirst ihSecond => omega

theorem exists_node (h : Subtree reference index least cursor begin slots escape height) :
    ∃ node, index.nodes[cursor]? = some node ∧ node.escape = escape ∧ node.begin = begin ∧
      Bounds reference node slots := by
  cases h with
  | leaf hnode hbounds hbegin _ hescape => exact ⟨_, hnode, hescape, hbegin, hbounds⟩
  | branch hnode hbounds hbegin _ hescape => exact ⟨_, hnode, hescape, hbegin, hbounds⟩

theorem escape_le (h : Subtree reference index least cursor begin slots escape height) :
    escape ≤ index.nodes.length := by
  induction h with
  | leaf hnode => exact (List.getElem?_eq_some_iff.mp hnode).1
  | branch _ _ _ _ _ _ _ _ ihSecond => exact ihSecond

theorem slots_prefix (h : Subtree reference index least cursor begin slots escape height) :
    slots <+: index.originalIndices.drop begin := by
  induction h with
  | leaf _ _ _ _ _ _ _ _ hslots => exact hslots
  | branch _ _ _ _ _ _ _ ihFirst ihSecond => exact prefix_append_of_drop ihFirst ihSecond

theorem exists_subtree (h : Subtree reference index least cursor begin slots escape height) {k : ℕ}
    (hk : cursor ≤ k) (hlt : k < escape) :
    ∃ begin' slots' escape' height',
      Subtree reference index least k begin' slots' escape' height' := by
  induction h with
  | leaf hnode hbounds hbegin hcount hescape hleast hcapacity hsorted hslots =>
    obtain rfl := Nat.le_antisymm (Nat.lt_succ_iff.mp hlt) hk
    exact ⟨_, _, _, _, .leaf hnode hbounds hbegin hcount hescape hleast hcapacity hsorted hslots⟩
  | @branch cursor _ middle _ _ _ _ _ _ hnode hbounds hbegin hcount hescape hfirst hsecond ihFirst
      ihSecond =>
    rcases Nat.lt_or_eq_of_le hk with hk | rfl
    · by_cases hmiddle : k < middle
      · exact ihFirst hk hmiddle
      · exact ihSecond (Nat.not_lt.mp hmiddle) hlt
    · exact ⟨_, _, _, _, .branch hnode hbounds hbegin hcount hescape hfirst hsecond⟩

theorem least_le_length (h : Subtree reference index least cursor begin slots escape height) :
    least ≤ slots.length := by
  induction h with
  | leaf _ _ _ _ _ hleast => exact hleast
  | branch _ _ _ _ _ _ _ ihFirst =>
    rw [List.length_append]
    exact ihFirst.trans (Nat.le_add_right _ _)

theorem size_le (h : Subtree reference index least cursor begin slots escape height)
    (hleast : 8 ≤ least) : 4 * (escape - cursor + 1) ≤ slots.length := by
  induction h with
  | leaf _ _ _ _ _ hleast' => omega
  | branch _ _ _ _ _ hfirst hsecond ihFirst ihSecond =>
    have hmiddle := hfirst.cursor_lt_escape
    have hend := hsecond.cursor_lt_escape
    rw [List.length_append]
    omega

theorem exists_children (h : Subtree reference index least cursor begin slots escape height)
    (hleast : 0 < least) {node : SpatialNode F} (hnode : index.nodes[cursor]? = some node)
    (hcount : node.count = 0) :
    ∃ first second : SpatialNode F, index.nodes[cursor + 1]? = some first ∧
      index.nodes[first.escape]? = some second ∧ second.escape = escape := by
  cases h with
  | leaf hnode' _ _ hcount' _ hleast' =>
    obtain rfl := Option.some.inj (hnode.symm.trans hnode')
    omega
  | branch _ _ _ _ _ hfirst hsecond =>
    obtain ⟨first, hfirst', rfl, -⟩ := hfirst.exists_node
    obtain ⟨second, hsecond', hescape, -⟩ := hsecond.exists_node
    exact ⟨first, second, hfirst', hsecond', hescape⟩

theorem eq_leaf (h : Subtree reference index least cursor begin slots escape height)
    {node : SpatialNode F} (hnode : index.nodes[cursor]? = some node) (hcount : node.count ≠ 0) :
    escape = cursor + 1 ∧ node.count = slots.length ∧ slots.length ≤ leafCapacity ∧
      slots.Pairwise (· < ·) := by
  cases h with
  | leaf hnode' _ _ hcount' _ _ hcapacity hsorted =>
    obtain rfl := Option.some.inj (hnode.symm.trans hnode')
    exact ⟨rfl, hcount', hcapacity, hsorted⟩
  | branch hnode' _ _ hcount' =>
    obtain rfl := Option.some.inj (hnode.symm.trans hnode')
    exact absurd hcount' hcount

theorem two_mul_least_le (h : Subtree reference index least cursor begin slots escape height)
    (hbranch : escape ≠ cursor + 1) : 2 * least ≤ slots.length := by
  cases h with
  | leaf => exact absurd rfl hbranch
  | branch _ _ _ _ _ hfirst hsecond =>
    have := hfirst.least_le_length
    have := hsecond.least_le_length
    rw [List.length_append]
    omega

end Subtree

/-- The node at a position among those from one to another is a leaf over a slot. -/
def Covers (index : SpatialIndex F) (cursor escape slot k : ℕ) : Prop :=
  cursor ≤ k ∧ k < escape ∧ ∃ node, index.nodes[k]? = some node ∧ node.count ≠ 0 ∧
    node.begin ≤ slot ∧ slot < node.begin + node.count

namespace Subtree

variable {cursor begin escape height : ℕ} {slots : List ℤ}

theorem slot_of_covers (h : Subtree reference index least cursor begin slots escape height)
    {slot k : ℕ} (hcovers : Covers index cursor escape slot k) :
    begin ≤ slot ∧ slot < begin + slots.length := by
  obtain ⟨hk, hlt, node, hnode, hcount, hbegin, hslot⟩ := hcovers
  induction h with
  | leaf hnode' _ hbegin' hcount' =>
    obtain rfl := Nat.le_antisymm (Nat.lt_succ_iff.mp hlt) hk
    obtain rfl := Option.some.inj (hnode.symm.trans hnode')
    omega
  | @branch cursor _ middle _ _ _ _ _ _ hnode' _ _ hcount' _ _ _ ihFirst ihSecond =>
    rw [List.length_append]
    rcases Nat.lt_or_eq_of_le hk with hk | rfl
    · by_cases hmiddle : k < middle
      · have := ihFirst hk hmiddle
        omega
      · have := ihSecond (Nat.not_lt.mp hmiddle) hlt
        omega
    · obtain rfl := Option.some.inj (hnode.symm.trans hnode')
      exact absurd hcount' hcount

/-- Every slot of a subtree is in one of its leaves. -/
theorem existsUnique_covers (h : Subtree reference index least cursor begin slots escape height)
    (hleast : 0 < least) {slot : ℕ} (hbegin : begin ≤ slot) (hslot : slot < begin + slots.length) :
    ∃! k, Covers index cursor escape slot k := by
  induction h with
  | @leaf cursor begin slots node hnode _ hbegin' hcount _ hleast' =>
    have hpositive : 0 < slots.length := hleast.trans_le hleast'
    refine ⟨cursor, ⟨le_rfl, Nat.lt_succ_self _, node, hnode, ?_, ?_, ?_⟩, fun k hk => ?_⟩
    · omega
    · omega
    · omega
    · exact Nat.le_antisymm (Nat.lt_succ_iff.mp hk.2.1) hk.1
  | @branch cursor begin middle escape _ _ left right node hnode _ _ hcount _ hfirst hsecond ihFirst
      ihSecond =>
    rw [List.length_append] at hslot
    have hroot : ∀ k, Covers index cursor escape slot k → cursor + 1 ≤ k := by
      rintro k ⟨hk, -, node', hnode', hcount', -⟩
      rcases Nat.lt_or_eq_of_le hk with hk | rfl
      · exact hk
      · obtain rfl := Option.some.inj (hnode.symm.trans hnode')
        exact absurd hcount hcount'
    have hmiddle := hfirst.cursor_lt_escape
    have hend := hsecond.cursor_lt_escape
    by_cases hleft : slot < begin + left.length
    · obtain ⟨k, hk, hunique⟩ := ihFirst hbegin hleft
      refine ⟨k, ⟨by have := hk.1; omega, by have := hk.2.1; omega, hk.2.2⟩, fun j hj => ?_⟩
      apply hunique
      refine ⟨hroot j hj, ?_, hj.2.2⟩
      by_contra hge
      have := hsecond.slot_of_covers ⟨Nat.not_lt.mp hge, hj.2.1, hj.2.2⟩
      omega
    · obtain ⟨k, hk, hunique⟩ := ihSecond (Nat.not_lt.mp hleft) (by omega)
      refine ⟨k, ⟨by have := hk.1; omega, hk.2.1, hk.2.2⟩, fun j hj => ?_⟩
      apply hunique
      refine ⟨?_, hj.2.1, hj.2.2⟩
      by_contra hlt
      have := hfirst.slot_of_covers ⟨hroot j hj, Nat.not_le.mp hlt, hj.2.2⟩
      omega

end Subtree

section Build

theorem foldl_attained {σ γ β : Type} {step : σ → γ → σ} (measure : σ → β) {value : γ → β}
    (hstep : ∀ s c, measure (step s c) = measure s ∨ measure (step s c) = value c) (l : List γ)
    (s : σ) : measure (l.foldl step s) = measure s ∨
      ∃ c ∈ l, measure (l.foldl step s) = value c := by
  induction l generalizing s with
  | nil => exact .inl rfl
  | cons c l ih =>
    rw [List.foldl_cons]
    rcases ih (step s c) with h | ⟨d, hd, h⟩
    · rcases hstep s c with hs | hs
      · exact .inl (h.trans hs)
      · exact .inr ⟨c, by simp, h.trans hs⟩
    · exact .inr ⟨d, by simp [hd], h⟩

theorem coordinate_enclose_lower (reference : List (Vec3 F)) (axis : ℕ) (node : SpatialNode F)
    (c : ℤ) : coordinate (enclose reference node c).lower axis = coordinate node.lower axis ∨
      coordinate (enclose reference node c).lower axis =
        coordinate (referencePoint reference c) axis := by
  unfold coordinate
  split_ifs
  · exact stdMin_choice _ _
  · exact stdMin_choice _ _
  · exact stdMin_choice _ _

theorem coordinate_enclose_upper (reference : List (Vec3 F)) (axis : ℕ) (node : SpatialNode F)
    (c : ℤ) : coordinate (enclose reference node c).upper axis = coordinate node.upper axis ∨
      coordinate (enclose reference node c).upper axis =
        coordinate (referencePoint reference c) axis := by
  unfold coordinate
  split_ifs
  · exact stdMax_choice _ _
  · exact stdMax_choice _ _
  · exact stdMax_choice _ _

variable [OrderedFloat F]

/-- The node over a range has its bounds and its least index. -/
theorem bounds_rangeNode {begin : ℕ} {range : List ℤ} (hne : range ≠ [])
    (hnumber : ∀ c ∈ range, (pointNode reference c).Within (pointNode reference c))
    (hfits : ∀ c ∈ range, c < int32Max) :
    Bounds reference (rangeNode reference begin range) range := by
  have hwithin : ∀ c ∈ range, (pointNode reference c).Within (rangeNode reference begin range) :=
    within_rangeNode hnumber
  have hfirst : range.headD 0 ∈ range := by
    cases range with
    | nil => exact absurd rfl hne
    | cons c range => simp
  refine ⟨hwithin, fun axis => ?_, fun axis => ?_, ?_⟩
  · rcases foldl_attained (fun node : SpatialNode F => coordinate node.lower axis)
      (coordinate_enclose_lower reference axis) range _ with h | h
    · exact ⟨_, hfirst, h⟩
    · exact h
  · rcases foldl_attained (fun node : SpatialNode F => coordinate node.upper axis)
      (coordinate_enclose_upper reference axis) range _ with h | h
    · exact ⟨_, hfirst, h⟩
    · exact h
  · have hchoice : ∀ (node : SpatialNode F) c,
        (enclose reference node c).minimumIndex = node.minimumIndex ∨
          (enclose reference node c).minimumIndex = c := fun node c => min_choice _ _
    rcases foldl_attained SpatialNode.minimumIndex hchoice range _ with h | ⟨c, hc, h⟩
    · have hle := (hwithin _ hfirst).minimumIndex
      rw [rangeNode, h] at hle
      exact absurd hle (not_le.mpr (hfits _ hfirst))
    · rw [rangeNode, h]
      exact hc

omit [OrderedFloat F] in
/-- Bounds do not depend on the order of the points, nor on the other members of the node. -/
theorem Bounds.perm {node node' : SpatialNode F} {slots slots' : List ℤ}
    (h : Bounds reference node slots) (hperm : slots'.Perm slots)
    (hlower : node'.lower = node.lower)
    (hupper : node'.upper = node.upper) (hminimum : node'.minimumIndex = node.minimumIndex) :
    Bounds reference node' slots' := by
  have hmem : ∀ c, c ∈ slots' ↔ c ∈ slots := fun c => hperm.mem_iff
  refine ⟨fun c hc => ?_, fun axis => ?_, fun axis => ?_, ?_⟩
  · obtain ⟨hl, hu, hm⟩ := h.within c ((hmem c).mp hc)
    exact ⟨hlower ▸ hl, hupper ▸ hu, hminimum ▸ hm⟩
  · simpa only [hmem, hlower] using h.lower axis
  · simpa only [hmem, hupper] using h.upper axis
  · rw [hmem, hminimum]
    exact h.minimumIndex

theorem pairwise_lt_insertionSort {range : List ℤ} (hnodup : range.Nodup) :
    (range.insertionSort (· ≤ ·)).Pairwise (· < ·) := by
  have hsorted := List.pairwise_insertionSort (· ≤ ·) range
  have hdistinct : (range.insertionSort (· ≤ ·)).Nodup :=
    (List.perm_insertionSort _ range).nodup_iff.mpr hnodup
  exact hsorted.imp₂ (fun a b hle hne => lt_of_le_of_ne hle hne) hdistinct

variable (reference least) in
/-- A range of indices of the reference that is enough for a leaf. -/
structure SlotRange (range : List ℤ) : Prop where
  members : ∀ c ∈ range, 0 ≤ c ∧ c < reference.length
  nodup : range.Nodup
  least_le : least ≤ range.length

variable (reference index least) in
/-- What a build returns for a range is the subtree over it, of logarithmic height, once it is
stored at the positions that the build counts on. -/
def Stores (begin nodeIndex : ℕ) (range : List ℤ) (built : List ℤ × List (SpatialNode F)) :
    Prop :=
  built.1.Perm range ∧ (SlotRange reference least range →
    built.1 <+: index.originalIndices.drop begin → built.2 <+: index.nodes.drop nodeIndex →
    ∃ height, Subtree reference index least nodeIndex begin built.1
      (nodeIndex + built.2.length) height ∧ ∀ d, range.length ≤ leafCapacity * 2 ^ d → height ≤ d)

omit [FloatArith F] [OrderedFloat F] in
theorem slotRange_all (hleast : least ≤ reference.length) :
    SlotRange reference least ((List.range reference.length).map Int.ofNat) := by
  constructor
  · intro c hc
    obtain ⟨i, hi, rfl⟩ := List.mem_map.mp hc
    have := List.mem_range.mp hi
    exact ⟨Int.natCast_nonneg i, by simpa using this⟩
  · exact List.nodup_range.map Int.ofNat_injective
  · rwa [List.length_map, List.length_range]

variable [FiniteNumbers F]

theorem SlotRange.bounds {range : List ℤ} (h : SlotRange reference least range)
    (hfinite : ∀ p ∈ reference, p.finite = true) (hlength : reference.length ≤ int32Max)
    (hleast : 0 < least) (begin : ℕ) :
    Bounds reference (rangeNode reference begin range) range := by
  have hne : range ≠ [] := List.ne_nil_of_length_pos (hleast.trans_le h.least_le)
  apply bounds_rangeNode hne
  · exact fun c hc => pointNode_self (hfinite _ (referencePoint_mem (h.members c hc)))
  · intro c hc
    have hlt := (h.members c hc).2
    omega

omit [FloatArith F] [OrderedFloat F] [FiniteNumbers F] in
theorem SlotRange.perm {range range' : List ℤ} (h : SlotRange reference least range)
    (hperm : range.Perm range') : SlotRange reference least range' :=
  ⟨fun c hc => h.members c (hperm.mem_iff.mpr hc), hperm.nodup_iff.mp h.nodup,
    hperm.length_eq ▸ h.least_le⟩

omit [FloatArith F] [OrderedFloat F] [FiniteNumbers F] in
theorem SlotRange.sublist {part range : List ℤ} (h : SlotRange reference least range)
    (hpart : part.Sublist range) (hleast : least ≤ part.length) : SlotRange reference least part :=
  ⟨fun c hc => h.members c (hpart.subset hc), h.nodup.sublist hpart, hleast⟩

theorem stores_leaf (hfinite : ∀ p ∈ reference, p.finite = true)
    (hlength : reference.length ≤ int32Max) (hleast : 0 < least) (begin nodeIndex : ℕ)
    (range : List ℤ) (hleaf : range.length ≤ leafCapacity) :
    Stores reference index least begin nodeIndex range (range.insertionSort (· ≤ ·),
      [{ rangeNode reference begin range with escape := nodeIndex + 1 }]) := by
  have hperm := List.perm_insertionSort (· ≤ ·) range
  refine ⟨hperm, fun hrange hslots hnodes => ⟨0, ?_, fun d _ => Nat.zero_le d⟩⟩
  obtain ⟨hnode, -⟩ := prefix_cons_drop hnodes
  apply Subtree.leaf hnode
  · exact (hrange.bounds hfinite hlength hleast begin).perm hperm rfl rfl rfl
  · exact rangeNode_begin ..
  · rw [hperm.length_eq]
    exact rangeNode_count ..
  · rfl
  · rw [hperm.length_eq]
    exact hrange.least_le
  · rwa [hperm.length_eq]
  · exact pairwise_lt_insertionSort hrange.nodup
  · exact hslots

theorem stores_interior (hfinite : ∀ p ∈ reference, p.finite = true)
    (hlength : reference.length ≤ int32Max) (hleast : 0 < least) (hsmall : least ≤ 8)
    (begin nodeIndex : ℕ) (range lower upper : List ℤ)
    (left right : List ℤ × List (SpatialNode F)) (hlarge : leafCapacity < range.length)
    (hperm : (lower ++ upper).Perm range) (hhalf : lower.length = range.length / 2)
    (hleft : Stores reference index least begin (nodeIndex + 1) lower left)
    (hright : Stores reference index least (begin + range.length / 2)
      (nodeIndex + 1 + left.2.length) upper right) :
    Stores reference index least begin nodeIndex range (left.1 ++ right.1,
      { rangeNode reference begin range with
        count := 0
        escape := nodeIndex + 1 + left.2.length + right.2.length } :: (left.2 ++ right.2)) := by
  obtain ⟨hpermLeft, hleft⟩ := hleft
  obtain ⟨hpermRight, hright⟩ := hright
  have hwhole : (left.1 ++ right.1).Perm range := (hpermLeft.append hpermRight).trans hperm
  refine ⟨hwhole, fun hrange hslots hnodes => ?_⟩
  have hsum : lower.length + upper.length = range.length := by
    rw [← List.length_append, hperm.length_eq]
  have hcapacity : leafCapacity = 16 := rfl
  have hhalves := hrange.perm hperm.symm
  have hrangeLeft : SlotRange reference least lower :=
    hhalves.sublist (List.sublist_append_left lower upper) (by omega)
  have hrangeRight : SlotRange reference least upper :=
    hhalves.sublist (List.sublist_append_right lower upper) (by omega)
  obtain ⟨hslotsLeft, hslotsRight⟩ := prefix_append_drop hslots
  obtain ⟨hnode, hnodes⟩ := prefix_cons_drop hnodes
  obtain ⟨hnodesLeft, hnodesRight⟩ := prefix_append_drop hnodes
  rw [← hhalf, ← hpermLeft.length_eq] at hright
  obtain ⟨height, hfirst, hheight⟩ := hleft hrangeLeft hslotsLeft hnodesLeft
  obtain ⟨height', hsecond, hheight'⟩ := hright hrangeRight hslotsRight hnodesRight
  refine ⟨max height height' + 1, ?_, fun d hd => ?_⟩
  · have hescape : nodeIndex + (({ rangeNode reference begin range with
        count := 0
        escape := nodeIndex + 1 + left.2.length + right.2.length } : SpatialNode F) ::
          (left.2 ++ right.2)).length = nodeIndex + 1 + left.2.length + right.2.length := by
      simp only [List.length_cons, List.length_append]
      omega
    rw [hescape]
    apply Subtree.branch hnode
    · exact (hrange.bounds hfinite hlength hleast begin).perm hwhole rfl rfl rfl
    · exact rangeNode_begin ..
    · rfl
    · rfl
    · exact hfirst
    · exact hsecond
  · cases d with
    | zero => omega
    | succ d =>
      rw [Nat.pow_succ, ← Nat.mul_assoc] at hd
      have := hheight d (by omega)
      have := hheight' d (by omega)
      omega

theorem stores_buildSubtree (hfinite : ∀ p ∈ reference, p.finite = true)
    (hlength : reference.length ≤ int32Max) (hleast : 0 < least) (hsmall : least ≤ 8)
    (nth : NthElement) (begin nodeIndex : ℕ) (range : List ℤ) :
    Stores reference index least begin nodeIndex range
      (buildSubtree D nth reference begin nodeIndex range) := by
  induction begin, nodeIndex, range using buildSubtree_induction (D := D) nth reference with
  | leaf begin nodeIndex range hleaf =>
    exact stores_leaf hfinite hlength hleast begin nodeIndex range hleaf
  | interior begin nodeIndex range lower upper left right hlarge hperm hhalf ihLeft ihRight =>
    exact stores_interior hfinite hlength hleast hsmall begin nodeIndex range lower upper left
      right hlarge hperm hhalf ihLeft ihRight

end Build

/-- A node position at a depth below the root. -/
inductive AtDepth (index : SpatialIndex F) : ℕ → ℕ → Prop
  | root : AtDepth index 0 0
  | first {cursor depth : ℕ} {node : SpatialNode F} (hparent : AtDepth index cursor depth)
      (hnode : index.nodes[cursor]? = some node) (hcount : node.count = 0) :
      AtDepth index (cursor + 1) (depth + 1)
  | second {cursor depth : ℕ} {node child : SpatialNode F} (hparent : AtDepth index cursor depth)
      (hnode : index.nodes[cursor]? = some node) (hcount : node.count = 0)
      (hchild : index.nodes[cursor + 1]? = some child) :
      AtDepth index child.escape (depth + 1)

/-- An index over a reference as the searches assume it. -/
structure SpatialIndex.WellFormed (index : SpatialIndex F) (reference : List (Vec3 F)) : Prop where
  perm : index.originalIndices.Perm ((List.range reference.length).map Int.ofNat)
  points : index.points = index.originalIndices.map (referencePoint reference)
  root : ∃ node : SpatialNode F, index.nodes[0]? = some node ∧ node.escape = index.nodes.length
  escape : ∀ k (node : SpatialNode F), index.nodes[k]? = some node → k < node.escape ∧
    node.escape ≤ index.nodes.length
  interior : ∀ k (node : SpatialNode F), index.nodes[k]? = some node → node.count = 0 →
    ∃ first second : SpatialNode F,
    index.nodes[k + 1]? = some first ∧ index.nodes[first.escape]? = some second ∧
      second.escape = node.escape
  leaf : ∀ k (node : SpatialNode F), index.nodes[k]? = some node → node.count ≠ 0 →
    node.escape = k + 1 ∧
    node.count ≤ leafCapacity ∧ (1 < index.nodes.length → 8 ≤ node.count) ∧
    node.begin + node.count ≤ reference.length ∧
    ((index.originalIndices.drop node.begin).take node.count).Pairwise (· < ·)
  covered : ∀ slot < reference.length, ∃! k, Covers index 0 index.nodes.length slot k
  bounds : ∀ k (node : SpatialNode F), index.nodes[k]? = some node → ∃ slots,
    slots <+: index.originalIndices.drop node.begin ∧
    (∀ slot, (∃ leaf, Covers index k node.escape slot leaf) ↔
      node.begin ≤ slot ∧ slot < node.begin + slots.length) ∧ Bounds reference node slots
  size : index.nodes.length ≤ reference.length / 4 + 1
  reached : ∀ k < index.nodes.length, ∃ depth, AtDepth index k depth
  depth_le : ∀ k depth, AtDepth index k depth → depth ≤ 27

theorem Subtree.exists_atDepth {cursor begin escape height depth : ℕ} {slots : List ℤ}
    (h : Subtree reference index least cursor begin slots escape height)
    (hdepth : AtDepth index cursor depth) {k : ℕ} (hk : cursor ≤ k) (hlt : k < escape) :
    ∃ e, AtDepth index k e := by
  induction h generalizing depth with
  | leaf =>
    obtain rfl := Nat.le_antisymm (Nat.lt_succ_iff.mp hlt) hk
    exact ⟨depth, hdepth⟩
  | @branch cursor _ middle _ _ _ _ _ _ hnode _ _ hcount _ hfirst _ ihFirst ihSecond =>
    rcases Nat.lt_or_eq_of_le hk with hk | rfl
    · by_cases hmiddle : k < middle
      · exact ihFirst (.first hdepth hnode hcount) hk hmiddle
      · obtain ⟨child, hchild, rfl, -⟩ := hfirst.exists_node
        exact ihSecond (.second hdepth hnode hcount hchild) (Nat.not_lt.mp hmiddle) hlt
    · exact ⟨depth, hdepth⟩

theorem AtDepth.exists_subtree {slots : List ℤ} {escape height : ℕ}
    (hroot : Subtree reference index least 0 0 slots escape height) (hleast : 0 < least)
    {k depth : ℕ} (h : AtDepth index k depth) :
    ∃ begin slots' escape' height', Subtree reference index least k begin slots' escape' height' ∧
      depth + height' ≤ height := by
  induction h with
  | root => exact ⟨_, _, _, _, hroot, (Nat.zero_add height).le⟩
  | first _ hnode hcount ih =>
    obtain ⟨_, _, _, _, hsubtree, hheight⟩ := ih
    cases hsubtree with
    | leaf hnode' _ _ hcount' _ hleast' =>
      obtain rfl := Option.some.inj (hnode.symm.trans hnode')
      omega
    | branch _ _ _ _ _ hfirst => exact ⟨_, _, _, _, hfirst, by omega⟩
  | second _ hnode hcount hchild ih =>
    obtain ⟨_, _, _, _, hsubtree, hheight⟩ := ih
    cases hsubtree with
    | leaf hnode' _ _ hcount' _ hleast' =>
      obtain rfl := Option.some.inj (hnode.symm.trans hnode')
      omega
    | branch _ _ _ _ _ hfirst hsecond =>
      obtain ⟨child', hchild', rfl, -⟩ := hfirst.exists_node
      obtain rfl := Option.some.inj (hchild.symm.trans hchild')
      exact ⟨_, _, _, _, hsecond, by omega⟩

/-- An index whose nodes are one subtree over all of a reference is well formed. -/
theorem Subtree.wellFormed {height : ℕ}
    (hroot : Subtree reference index (min 8 reference.length) 0 0 index.originalIndices
      index.nodes.length height)
    (hne : reference ≠ []) (hheight : height ≤ 27)
    (hperm : index.originalIndices.Perm ((List.range reference.length).map Int.ofNat))
    (hpoints : index.points = index.originalIndices.map (referencePoint reference)) :
    index.WellFormed reference := by
  have hpositive : 0 < min 8 reference.length := by
    have := List.length_pos_iff.mpr hne
    omega
  have hsize : index.originalIndices.length = reference.length := by
    rw [hperm.length_eq, List.length_map, List.length_range]
  have hsubtree : ∀ {k node}, index.nodes[k]? = some node → ∃ slots height',
      Subtree reference index (min 8 reference.length) k node.begin slots node.escape height' := by
    intro k node hnode
    obtain ⟨_, slots, _, height', h⟩ := hroot.exists_subtree (Nat.zero_le k)
      (List.getElem?_eq_some_iff.mp hnode).1
    obtain ⟨node', hnode', rfl, rfl, -⟩ := h.exists_node
    obtain rfl := Option.some.inj (hnode.symm.trans hnode')
    exact ⟨slots, height', h⟩
  have hmin : 1 < index.nodes.length → min 8 reference.length = 8 := by
    intro hbranch
    have := hroot.two_mul_least_le (Nat.ne_of_gt hbranch)
    omega
  refine ⟨hperm, hpoints, ?_, ?_, ?_, ?_, ?_, ?_, ?_, ?_, ?_⟩
  · obtain ⟨node, hnode, hescape, -⟩ := hroot.exists_node
    exact ⟨node, hnode, hescape⟩
  · intro k node hnode
    obtain ⟨slots, _, h⟩ := hsubtree hnode
    exact ⟨h.cursor_lt_escape, h.escape_le⟩
  · intro k node hnode hcount
    obtain ⟨slots, _, h⟩ := hsubtree hnode
    exact h.exists_children hpositive hnode hcount
  · intro k node hnode hcount
    obtain ⟨slots, _, h⟩ := hsubtree hnode
    obtain ⟨hescape, hlength, hcapacity, hsorted⟩ := h.eq_leaf hnode hcount
    have hleast := h.least_le_length
    have hprefix := h.slots_prefix
    have hend := hprefix.length_le
    rw [List.length_drop] at hend
    refine ⟨hescape, hlength ▸ hcapacity, fun hbranch => ?_, ?_, ?_⟩
    · have := hmin hbranch
      omega
    · omega
    · rwa [hlength, ← List.prefix_iff_eq_take.mp hprefix]
  · intro slot hslot
    apply hroot.existsUnique_covers hpositive (Nat.zero_le slot)
    omega
  · intro k node hnode
    obtain ⟨slots, _, h⟩ := hsubtree hnode
    obtain ⟨node', hnode', -, -, hbounds⟩ := h.exists_node
    obtain rfl := Option.some.inj (hnode.symm.trans hnode')
    refine ⟨slots, h.slots_prefix, fun slot => ⟨?_, ?_⟩, hbounds⟩
    · rintro ⟨leaf, hleaf⟩
      exact h.slot_of_covers hleaf
    · rintro ⟨hbegin, hslot⟩
      exact (h.existsUnique_covers hpositive hbegin hslot).exists
  · by_cases hbranch : 1 < index.nodes.length
    · have := hroot.size_le (hmin hbranch).ge
      omega
    · omega
  · intro k hk
    exact hroot.exists_atDepth .root (Nat.zero_le k) hk
  · intro k depth hdepth
    obtain ⟨_, _, _, _, _, hle⟩ := hdepth.exists_subtree hroot hpositive
    omega

/-- The build stores one subtree over all of a reference that fits. -/
theorem buildSpatialIndex_subtree [OrderedFloat F] [FiniteNumbers F] (nth : NthElement)
    (hne : reference ≠ []) (hlength : reference.length ≤ int32Max)
    (hfinite : ∀ p ∈ reference, p.finite = true) :
    ∃ index, buildSpatialIndex D nth reference = .ok index ∧
      index.originalIndices.Perm ((List.range reference.length).map Int.ofNat) ∧
      index.points = index.originalIndices.map (referencePoint reference) ∧
      ∃ height ≤ 27, Subtree reference index (min 8 reference.length) 0 0 index.originalIndices
        index.nodes.length height := by
  obtain ⟨index, hindex⟩ := exists_buildSpatialIndex (D := D) nth hne hlength hfinite
  obtain ⟨hpoints, hbuilt⟩ := buildSpatialIndex_eq hindex
  have hpositive : 0 < reference.length := List.length_pos_iff.mpr hne
  have hstores : Stores reference index (min 8 reference.length) 0 0
      ((List.range reference.length).map Int.ofNat)
      (buildSubtree D nth reference 0 0 ((List.range reference.length).map Int.ofNat)) :=
    stores_buildSubtree hfinite hlength (by omega) (by omega) nth 0 0 _
  rw [hbuilt] at hstores
  obtain ⟨hperm, hstores⟩ := hstores
  obtain ⟨height, hsubtree, hheight⟩ :=
    hstores (slotRange_all (min_le_right _ _)) List.prefix_rfl List.prefix_rfl
  rw [Nat.zero_add] at hsubtree
  refine ⟨index, hindex, hperm, hpoints, height, hheight 27 ?_, hsubtree⟩
  rw [List.length_map, List.length_range]
  exact hlength.trans (by decide)

theorem exists_wellFormed [OrderedFloat F] [FiniteNumbers F] (nth : NthElement)
    (hne : reference ≠ []) (hlength : reference.length ≤ int32Max)
    (hfinite : ∀ p ∈ reference, p.finite = true) :
    ∃ index, buildSpatialIndex D nth reference = .ok index ∧ index.WellFormed reference := by
  obtain ⟨index, hindex, hperm, hpoints, height, hheight, hsubtree⟩ :=
    buildSpatialIndex_subtree (D := D) nth hne hlength hfinite
  exact ⟨index, hindex, hsubtree.wellFormed hne hheight hperm hpoints⟩

/-- The build yields a well-formed index over every reference that fits. -/
theorem buildSpatialIndex_wellFormed [OrderedFloat F] [FiniteNumbers F] (nth : NthElement)
    (hne : reference ≠ []) (hlength : reference.length ≤ int32Max)
    (hfinite : ∀ p ∈ reference, p.finite = true) :
    ∃ index, buildSpatialIndex D nth reference = .ok index ∧ index.WellFormed reference :=
  exists_wellFormed nth hne hlength hfinite

/-- Seventeen points of a line are two leaves. -/
theorem buildSpatialIndex_wellFormed_line :
    ∃ index, buildSpatialIndex (Exact ℚ) .sorting
        ((List.range 17).map fun i => (⟨.fin i, .fin 0, .fin 0⟩ : Vec3 (Exact ℚ))) = .ok index ∧
      index.WellFormed
        ((List.range 17).map fun i => (⟨.fin i, .fin 0, .fin 0⟩ : Vec3 (Exact ℚ))) :=
  buildSpatialIndex_wellFormed .sorting (List.ne_nil_of_length_pos (by simp)) (by decide)
    (List.forall_mem_map.mpr fun _ _ => rfl)

end PointcloudAd.Cuda
