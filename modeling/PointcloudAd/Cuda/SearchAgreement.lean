import PointcloudAd.Backends.Exhaustive
import PointcloudAd.Cuda.NearestKernels
import PointcloudAd.Library.ExactAlgebra
import PointcloudAd.Library.LeastRank

/-!
# Agreement of the searches

In exact arithmetic every search keeps the lexicographic minimum of the pairs of a squared distance
and an index that it has looked at. The scan in tiles looks at all points, the walk of the index
leaves out subtrees that are not below the best so far, and the search of the processor looks at
candidates with all nearest points among them.
-/

namespace PointcloudAd.Cuda

open Library Registration

variable {K : Type} [LinearOrder K] [Field K] [FieldFunctions K]

/-- The nearest point of a reference within a bound, the first of several, or -1. -/
def IsNearest (reference : List (Vec3 (Exact K))) (query : Vec3 (Exact K)) (bound : Exact K)
    (index : ℤ) : Prop :=
  let distance (i : ℕ) : Exact K := squaredDistance query (reference.getD i default)
  (∃ i < reference.length, index = i ∧ distance i ≤ bound ∧
      ∀ j < reference.length, distance j ≤ bound →
        distance i < distance j ∨ (distance i = distance j ∧ i ≤ j)) ∨
    (index = -1 ∧ ∀ j < reference.length, ¬ distance j ≤ bound)

section Distances

theorem finite_iff {p : Vec3 (Exact K)} :
    p.finite = true ↔ ∃ x y z, p = ⟨.fin x, .fin y, .fin z⟩ := by
  constructor
  · intro h
    simp only [Vec3.finite_iff_axes, Exact.isFinite_iff] at h
    obtain ⟨⟨x, hx⟩, ⟨y, hy⟩, z, hz⟩ := h
    exact ⟨x, y, z, by rw [← hx, ← hy, ← hz]⟩
  · rintro ⟨x, y, z, rfl⟩
    rfl

/-- The squared distance of a query from a point of the reference. -/
def distanceTo (reference : List (Vec3 (Exact K))) (query : Vec3 (Exact K)) (i : ℕ) : WithTop K :=
  (squaredDistance (D := Exact K) query (reference.getD i default)).toTop

variable {reference : List (Vec3 (Exact K))} {query : Vec3 (Exact K)}

theorem finite_getD (hreference : ∀ p ∈ reference, p.finite = true) (i : ℕ) :
    (reference.getD i default).finite = true := by
  rw [List.getD_eq_getElem?_getD]
  cases h : reference[i]? with
  | none => rfl
  | some p => exact hreference p (List.mem_of_getElem? h)

theorem ofTop_distanceTo (hquery : query.finite = true)
    (hreference : ∀ p ∈ reference, p.finite = true) (i : ℕ) :
    Exact.ofTop (distanceTo reference query i) =
      squaredDistance query (reference.getD i default) := by
  obtain ⟨x, y, z, rfl⟩ := finite_iff.mp hquery
  obtain ⟨x', y', z', hp⟩ := finite_iff.mp (finite_getD hreference i)
  apply Exact.ofTop_toTop
  rw [hp]
  rfl

end Distances

/-- An index in the program's form. -/
def indexOf : WithTop ℕ → ℤ
  | none => -1
  | some i => i

/-- The best distance and index in the program's form. -/
def kept (best : DistanceRank (WithTop K)) : Exact K × ℤ :=
  (Exact.ofTop (ofLex best).1, indexOf (ofLex best).2)

omit [LinearOrder K] [Field K] [FieldFunctions K] in
@[simp] theorem kept_bounded (bound : WithTop K) :
    kept (bounded bound) = (Exact.ofTop bound, -1) := rfl

omit [LinearOrder K] [Field K] [FieldFunctions K] in
@[simp] theorem kept_ranked (distance : ℕ → WithTop K) (i : ℕ) :
    kept (ranked distance i) = (Exact.ofTop (distance i), (i : ℤ)) := rfl

theorem ranked_lt_iff_kept {distance : ℕ → WithTop K} {best : DistanceRank (WithTop K)} {i : ℕ} :
    ranked distance i < best ↔
      Exact.ofTop (distance i) < (kept best).1 ∨
        equal (Exact.ofTop (distance i)) (kept best).1 = true ∧
          ((kept best).2 < 0 ∨ (i : ℤ) < (kept best).2) := by
  have hindex : ∀ o : WithTop ℕ, WithTop.some i < o ↔ indexOf o < 0 ∨ (i : ℤ) < indexOf o := by
    intro o
    induction o with
    | top => simp [indexOf]
    | coe j => simp [indexOf]
  rw [ranked_lt_iff, hindex]
  simp [kept]

theorem kept_min (distance : ℕ → WithTop K) (best : DistanceRank (WithTop K)) (i : ℕ) :
    kept (min best (ranked distance i)) =
      if Exact.ofTop (distance i) < (kept best).1 ∨
          equal (Exact.ofTop (distance i)) (kept best).1 = true ∧
            ((kept best).2 < 0 ∨ (i : ℤ) < (kept best).2) then
        (Exact.ofTop (distance i), (i : ℤ))
      else kept best := by
  by_cases h : ranked distance i < best
  · rw [min_eq_right h.le, if_pos (ranked_lt_iff_kept.mp h), kept_ranked]
  · rw [min_eq_left (not_lt.mp h), if_neg fun hc => h (ranked_lt_iff_kept.mpr hc)]

section Searches

variable {reference : List (Vec3 (Exact K))} {query : Vec3 (Exact K)}

theorem keepNearest_kept (hquery : query.finite = true)
    (hreference : ∀ p ∈ reference, p.finite = true) (best : DistanceRank (WithTop K)) (i : ℕ) :
    keepNearest reference query (kept best) i =
      kept (min best (ranked (distanceTo reference query) i)) := by
  rw [kept_min, ofTop_distanceTo hquery hreference]
  rfl

theorem foldl_keepNearest (hquery : query.finite = true)
    (hreference : ∀ p ∈ reference, p.finite = true) :
    ∀ (candidates : List ℕ) (best : DistanceRank (WithTop K)),
      (candidates.map Int.ofNat).foldl (keepNearest reference query) (kept best) =
        kept (leastRank (ranked (distanceTo reference query)) best candidates)
  | [], _ => rfl
  | i :: candidates, best => by
    have hstep := keepNearest_kept hquery hreference best i
    have ih := foldl_keepNearest hquery hreference candidates
      (min best (ranked (distanceTo reference query) i))
    rw [List.map_cons, List.foldl_cons]
    exact (congrArg (fun kept => (candidates.map Int.ofNat).foldl
      (keepNearest reference query) kept)
      hstep).trans ih

/-- The lexicographic minimum over the first points of a reference. -/
def leastOf (reference : List (Vec3 (Exact K))) (query : Vec3 (Exact K)) (bound : WithTop K)
    (count : ℕ) : DistanceRank (WithTop K) :=
  leastRank (ranked (distanceTo reference query)) (bounded bound) (List.range count)

/-- The next point is kept when it is nearer than all before it: an index found so far is lower. -/
theorem tileStep_kept (hquery : query.finite = true)
    (hreference : ∀ p ∈ reference, p.finite = true) (bound : WithTop K) {offset index : ℕ}
    {tile : List (Vec3 (Exact K))}
    (htile : tile.getD index default = reference.getD (offset + index) default) :
    tileStep query offset tile (kept (leastOf reference query bound (offset + index))) index =
      kept (leastOf reference query bound (offset + index + 1)) := by
  have hnext : leastOf reference query bound (offset + index + 1) =
      min (leastOf reference query bound (offset + index))
        (ranked (distanceTo reference query) (offset + index)) := by
    rw [leastOf, List.range_succ, leastRank_append]
    rfl
  have hearlier : ¬ ((offset + index : ℕ) : ℤ) <
      (kept (leastOf reference query bound (offset + index))).2 := by
    rcases leastRank_attained (ranked (distanceTo reference query)) (bounded bound)
      (List.range (offset + index)) with h | ⟨i, hi, h⟩
    · rw [leastOf, h]
      simp only [kept_bounded]
      omega
    · rw [leastOf, h]
      have := List.mem_range.mp hi
      simp only [kept_ranked]
      omega
  rw [hnext, kept_min, ofTop_distanceTo hquery hreference]
  simp only [tileStep, htile, hearlier, or_false]

theorem foldl_tileStep (hquery : query.finite = true)
    (hreference : ∀ p ∈ reference, p.finite = true) (bound : WithTop K) {offset : ℕ}
    {tile : List (Vec3 (Exact K))} (count : ℕ)
    (htile : ∀ index < count, tile.getD index default = reference.getD (offset + index) default) :
    (List.range count).foldl (tileStep query offset tile)
        (kept (leastOf reference query bound offset)) =
      kept (leastOf reference query bound (offset + count)) := by
  induction count with
  | zero => rfl
  | succ count ih =>
    rw [List.range_succ, List.foldl_append, ih fun index hi => htile index (by omega)]
    exact tileStep_kept hquery hreference bound (htile count (by omega))

theorem getD_loadTile {offset index : ℕ} (tile : List (Vec3 (Exact K)))
    (hindex : index < kBlockSize) (hlt : offset + index < reference.length) :
    (loadTile reference offset tile).getD index default =
      reference.getD (offset + index) default := by
  simp [loadTile, hindex, hlt, List.getD_eq_getElem?_getD]

theorem tilePass_kept (hquery : query.finite = true)
    (hreference : ∀ p ∈ reference, p.finite = true) (bound : WithTop K) {pass : ℕ}
    {state : List (Vec3 (Exact K)) × Exact K × ℤ}
    (hstate : state.2 = kept
      (leastOf reference query bound (min reference.length (pass * kBlockSize))))
    (hpass : pass * kBlockSize ≤ reference.length) :
    (tilePass reference query state pass).2 =
      kept (leastOf reference query bound (min reference.length ((pass + 1) * kBlockSize))) := by
  rw [min_eq_right hpass] at hstate
  simp only [tilePass]
  rw [hstate, foldl_tileStep hquery hreference bound]
  · rw [Nat.succ_mul]
    congr 2
    split_ifs with h
    · omega
    · omega
  · intro index hindex
    apply getD_loadTile
    · split_ifs at hindex <;> omega
    · split_ifs at hindex <;> omega

theorem nearestThread_eq (hquery : query.finite = true)
    (hreference : ∀ p ∈ reference, p.finite = true) (bound : WithTop K)
    (shared : List (Vec3 (Exact K))) :
    nearestThread reference shared query (Exact.ofTop bound) =
      (kept (leastOf reference query bound reference.length)).2 := by
  have hpasses : ∀ passes, passes ≤ (reference.length + kBlockSize - 1) / kBlockSize →
      ((List.range passes).foldl (tilePass reference query)
          (shared, Exact.ofTop bound, -1)).2 =
        kept (leastOf reference query bound (min reference.length (passes * kBlockSize))) := by
    intro passes
    induction passes with
    | zero =>
      intro _
      simp [leastOf, leastRank]
    | succ passes ih =>
      intro hle
      rw [List.range_succ, List.foldl_append]
      apply tilePass_kept hquery hreference bound (ih (by omega))
      have := (Nat.le_div_iff_mul_le (by decide)).mp hle
      simp only [kBlockSize] at this ⊢
      omega
  have hall : reference.length ≤
      (reference.length + kBlockSize - 1) / kBlockSize * kBlockSize := by
    have := Nat.lt_div_mul_add (a := reference.length + kBlockSize - 1) (b := kBlockSize)
      (by decide)
    simp only [kBlockSize] at this ⊢
    omega
  rw [nearestThread, hpasses _ le_rfl, min_eq_left hall]

section Boxes

variable [IsStrictOrderedRing K]

/-- An interval is no farther than any of its points. -/
theorem axisGap_le {q p : K} {lower upper : Exact K} (hlower : lower ≤ .fin p)
    (hupper : .fin p ≤ upper) :
    ∃ gap : K, axisGap (.fin q) lower upper = Exact.fin gap ∧ gap * gap ≤ (q - p) * (q - p) := by
  by_cases hbelow : Exact.fin q < lower
  · rw [axisGap, if_pos hbelow]
    cases lower with
    | fin l =>
      have hql := Exact.fin_lt_fin.mp hbelow
      have hlp := Exact.fin_le_fin.mp hlower
      refine ⟨l - q, Exact.fin_sub_fin l q, ?_⟩
      calc (l - q) * (l - q) ≤ (p - q) * (p - q) :=
            mul_self_le_mul_self (sub_nonneg.mpr hql.le) (sub_le_sub_right hlp q)
        _ = (q - p) * (q - p) := by rw [← neg_sub q p, neg_mul_neg]
    | inf s =>
      cases s with
      | false => cases hlower
      | true => cases hbelow
    | nan => cases hlower
  · rw [axisGap, if_neg hbelow]
    by_cases habove : upper < Exact.fin q
    · rw [if_pos habove]
      cases upper with
      | fin u =>
        have huq := Exact.fin_lt_fin.mp habove
        have hpu := Exact.fin_le_fin.mp hupper
        exact ⟨q - u, Exact.fin_sub_fin q u,
          mul_self_le_mul_self (sub_nonneg.mpr huq.le) (sub_le_sub_left hpu q)⟩
      | inf s =>
        cases s with
        | false => cases habove
        | true => cases hupper
      | nan => cases hupper
    · rw [if_neg habove]
      exact ⟨0, rfl, by rw [mul_zero]; exact mul_self_nonneg _⟩

/-- The box of a node is no farther than any point that the node encloses. -/
theorem lowerDistance_le (hquery : query.finite = true)
    (hreference : ∀ p ∈ reference, p.finite = true) {node : SpatialNode (Exact K)} {i : ℕ}
    (hnode : (pointNode reference i).Within node) :
    ∃ lower : K, lowerDistance query node = Exact.fin lower ∧
      (lower : WithTop K) ≤ distanceTo reference query i := by
  obtain ⟨x, y, z, rfl⟩ := finite_iff.mp hquery
  obtain ⟨x', y', z', hp⟩ := finite_iff.mp (finite_getD hreference i)
  have hpoint : referencePoint reference (i : ℤ) = ⟨.fin x', .fin y', .fin z'⟩ := hp
  obtain ⟨hlower, hupper, -⟩ := hnode
  simp only [pointNode, hpoint] at hlower hupper
  obtain ⟨dx, hdx, hx⟩ := axisGap_le (q := x) hlower.x hupper.x
  obtain ⟨dy, hdy, hy⟩ := axisGap_le (q := y) hlower.y hupper.y
  obtain ⟨dz, hdz, hz⟩ := axisGap_le (q := z) hlower.z hupper.z
  refine ⟨dx * dx + dy * dy + dz * dz, ?_, ?_⟩
  · simp only [lowerDistance, hdx, hdy, hdz, Exact.fin_mul_fin, Exact.fin_add_fin]
  · have hdistance : distanceTo reference ⟨.fin x, .fin y, .fin z⟩ i =
        (((x - x') * (x - x') + (y - y') * (y - y') + (z - z') * (z - z') : K) : WithTop K) := by
      rw [distanceTo, hp]
      simp only [squaredDistance, Floats.widen, Exact.fin_sub_fin, Exact.fin_mul_fin,
        Exact.fin_add_fin]
      rfl
    rw [hdistance, WithTop.coe_le_coe]
    exact add_le_add (add_le_add hx hy) hz

/-- A pruned subtree holds no point below the best so far. -/
theorem le_of_pruned (hquery : query.finite = true)
    (hreference : ∀ p ∈ reference, p.finite = true) {node : SpatialNode (Exact K)}
    {best : DistanceRank (WithTop K)} (hpruned : Pruned query node (kept best)) {i : ℕ}
    (hnode : (pointNode reference i).Within node) :
    best ≤ ranked (distanceTo reference query) i := by
  obtain ⟨lower, hlower, hle⟩ := lowerDistance_le hquery hreference hnode
  by_contra hlt
  have hbetter := ranked_lt_iff.mp (not_le.mp hlt)
  rw [Pruned, hlower, ← Exact.ofTop_coe] at hpruned
  rcases hpruned with hfar | ⟨hequal, hfound, hindex⟩
  · have hfar : (ofLex best).1 < (lower : WithTop K) := Exact.ofTop_lt_ofTop.mp hfar
    rcases hbetter with hnear | ⟨hsame, -⟩
    · exact absurd (hnear.trans hfar) hle.not_gt
    · exact absurd (hsame.trans_lt hfar) hle.not_gt
  · have hequal : (lower : WithTop K) = (ofLex best).1 := Exact.equal_ofTop.mp hequal
    rcases hbetter with hnear | ⟨-, hless⟩
    · exact absurd (hnear.trans_eq hequal.symm) hle.not_gt
    · have hmin : node.minimumIndex ≤ (i : ℤ) := hnode.minimumIndex
      -- The index found is not above the least of the subtree, so not above this one.
      simp only [kept] at hfound hindex
      cases ho : (ofLex best).2 with
      | top =>
        rw [ho] at hfound
        exact absurd hfound (by decide)
      | coe j =>
        rw [ho] at hindex hless
        have hij : i < j := WithTop.coe_lt_coe.mp hless
        have hji : (j : ℤ) ≤ i := hindex.trans hmin
        omega

variable {index : SpatialIndex (Exact K)}

omit [IsStrictOrderedRing K] in
theorem slotStep_kept (hquery : query.finite = true)
    (hreference : ∀ p ∈ reference, p.finite = true)
    (hpoints : index.points = index.originalIndices.map (referencePoint reference))
    {slot i : ℕ} (hslot : index.originalIndices[slot]? = some (i : ℤ))
    (best : DistanceRank (WithTop K)) :
    slotStep index query (kept best) slot =
      kept (min best (ranked (distanceTo reference query) i)) := by
  have hpoint : index.points.getD slot default = reference.getD i default := by
    rw [List.getD_eq_getElem?_getD, hpoints, List.getElem?_map, hslot]
    rfl
  have horiginal : index.originalIndices.getD slot 0 = (i : ℤ) := by
    rw [List.getD_eq_getElem?_getD, hslot]
    rfl
  rw [kept_min, ofTop_distanceTo hquery hreference]
  simp only [slotStep, hpoint, horiginal]

omit [IsStrictOrderedRing K] in
theorem foldl_slotStep (hquery : query.finite = true)
    (hreference : ∀ p ∈ reference, p.finite = true)
    (hpoints : index.points = index.originalIndices.map (referencePoint reference)) (part : List ℕ)
    (begin : ℕ) (hpart : part.map Int.ofNat <+: index.originalIndices.drop begin)
    (best : DistanceRank (WithTop K)) :
    (List.range' begin part.length).foldl (slotStep index query) (kept best) =
      kept (leastRank (ranked (distanceTo reference query)) best part) := by
  induction part generalizing begin best with
  | nil => rfl
  | cons i part ih =>
    obtain ⟨hslot, hrest⟩ := prefix_cons_drop hpart
    rw [List.length_cons, List.range'_succ, List.foldl_cons,
      slotStep_kept hquery hreference hpoints hslot, ih (begin + 1) hrest]
    rfl

omit [IsStrictOrderedRing K] in
theorem walk_node {cursor : ℕ} {node : SpatialNode (Exact K)}
    (hnode : index.nodes[cursor]? = some node) (passes : ℕ) (best : Exact K × ℤ) :
    walk index query (passes + 1) cursor best =
      if Pruned query node best then walk index query passes node.escape best
      else if node.count = 0 then walk index query passes (cursor + 1) best
      else walk index query passes node.escape
        ((List.range' node.begin node.count).foldl (slotStep index query) best) := by
  obtain ⟨hlt, hget⟩ := List.getElem?_eq_some_iff.mp hnode
  have hgetD : index.nodes.getD cursor default = node := by
    rw [List.getD_eq_getElem?_getD, hnode, Option.getD_some]
  rw [walk, if_pos hlt, hgetD]

/-- A walk passes over a subtree with the minimum over its range, in no more passes than it has
nodes. -/
structure WalksOver (reference : List (Vec3 (Exact K))) (query : Vec3 (Exact K))
    (index : SpatialIndex (Exact K)) (begin nodeIndex : ℕ) (range : List ℤ)
    (built : List ℤ × List (SpatialNode (Exact K))) : Prop where
  perm : built.1.Perm range
  passes : (∀ c ∈ range, 0 ≤ c) → built.1 <+: index.originalIndices.drop begin →
    built.2 <+: index.nodes.drop nodeIndex → ∀ best, ∃ used ≤ built.2.length, ∀ passes,
      walk index query (passes + used) nodeIndex (kept best) =
        walk index query passes (nodeIndex + built.2.length)
          (kept (leastRank (ranked (distanceTo reference query)) best (range.map Int.toNat)))

omit [LinearOrder K] [Field K] [FieldFunctions K] [IsStrictOrderedRing K] in
theorem map_toNat {indices : List ℤ} (h : ∀ c ∈ indices, 0 ≤ c) :
    (indices.map Int.toNat).map Int.ofNat = indices := by
  rw [List.map_map]
  calc indices.map (Int.ofNat ∘ Int.toNat) = indices.map id :=
        List.map_congr_left fun c hc => Int.toNat_of_nonneg (h c hc)
    _ = indices := List.map_id _

theorem pointNode_within (hreference : ∀ p ∈ reference, p.finite = true) {begin : ℕ}
    {range : List ℤ} {c : ℤ} (hc : c ∈ range) :
    (pointNode reference c).Within (rangeNode reference begin range) := by
  exact within_rangeNode (fun d _ => pointNode_self (finite_getD hreference d.toNat)) c hc

theorem leastRank_of_pruned (hquery : query.finite = true)
    (hreference : ∀ p ∈ reference, p.finite = true) {node : SpatialNode (Exact K)}
    {best : DistanceRank (WithTop K)} (hpruned : Pruned query node (kept best)) {range : List ℤ}
    (hnode : ∀ c ∈ range, 0 ≤ c → (pointNode reference c).Within node)
    (hmembers : ∀ c ∈ range, 0 ≤ c) :
    leastRank (ranked (distanceTo reference query)) best (range.map Int.toNat) = best := by
  refine leastRank_eq_start fun i hi => ?_
  obtain ⟨c, hc, rfl⟩ := List.mem_map.mp hi
  have hcast : (c.toNat : ℤ) = c := Int.toNat_of_nonneg (hmembers c hc)
  apply le_of_pruned hquery hreference hpruned
  rw [hcast]
  exact hnode c hc (hmembers c hc)

theorem walksOver_leaf (hquery : query.finite = true)
    (hreference : ∀ p ∈ reference, p.finite = true)
    (hpoints : index.points = index.originalIndices.map (referencePoint reference))
    (begin nodeIndex : ℕ) (range : List ℤ) :
    WalksOver reference query index begin nodeIndex range (range.insertionSort (· ≤ ·),
      [{ rangeNode reference begin range with escape := nodeIndex + 1 }]) := by
  refine ⟨List.perm_insertionSort _ _, fun hmembers hslots hnodes best => ⟨1, le_rfl, ?_⟩⟩
  intro passes
  obtain ⟨hnode, -⟩ := prefix_cons_drop hnodes
  rw [walk_node hnode]
  split_ifs with hpruned hempty
  · rw [leastRank_of_pruned hquery hreference hpruned _ hmembers]
    · rfl
    · intro c hc _
      obtain ⟨hlower, hupper, hminimum⟩ :
          (pointNode reference c).Within (rangeNode reference begin range) :=
        pointNode_within hreference hc
      exact ⟨hlower, hupper, hminimum⟩
  · rw [rangeNode_count, List.length_eq_zero_iff] at hempty
    subst hempty
    rfl
  · have hcast := map_toNat fun c (hc : c ∈ range.insertionSort (· ≤ ·)) =>
      hmembers c ((List.mem_insertionSort _).mp hc)
    have hfold := foldl_slotStep hquery hreference hpoints
      ((range.insertionSort (· ≤ ·)).map Int.toNat) begin (by rwa [hcast]) best
    rw [List.length_map, List.length_insertionSort] at hfold
    simp only [rangeNode_begin, rangeNode_count]
    rw [hfold]
    congr 2
    refine leastRank_congr fun i => ?_
    simp

theorem walksOver_interior (hquery : query.finite = true)
    (hreference : ∀ p ∈ reference, p.finite = true) (begin nodeIndex : ℕ)
    (range lower upper : List ℤ) (left right : List ℤ × List (SpatialNode (Exact K)))
    (hperm : (lower ++ upper).Perm range) (hlength : lower.length = range.length / 2)
    (hleft : WalksOver reference query index begin (nodeIndex + 1) lower left)
    (hright : WalksOver reference query index (begin + range.length / 2)
      (nodeIndex + 1 + left.2.length) upper right) :
    WalksOver reference query index begin nodeIndex range (left.1 ++ right.1,
      { rangeNode reference begin range with
        count := 0
        escape := nodeIndex + 1 + left.2.length + right.2.length } :: (left.2 ++ right.2)) := by
  refine ⟨(hleft.perm.append hright.perm).trans hperm, fun hmembers hslots hnodes best => ?_⟩
  obtain ⟨hnode, hchildren⟩ := prefix_cons_drop hnodes
  obtain ⟨hfirst, hsecond⟩ := prefix_append_drop hchildren
  obtain ⟨hlow, hhigh⟩ := prefix_append_drop hslots
  rw [hleft.perm.length_eq, hlength] at hhigh
  have hescape : nodeIndex + (left.2.length + right.2.length + 1) =
      nodeIndex + 1 + left.2.length + right.2.length := by omega
  simp only [List.length_cons, List.length_append, hescape]
  by_cases hpruned : Pruned query { rangeNode reference begin range with
      count := 0
      escape := nodeIndex + 1 + left.2.length + right.2.length } (kept best)
  · refine ⟨1, by omega, fun passes => ?_⟩
    rw [walk_node hnode, if_pos hpruned,
      leastRank_of_pruned hquery hreference hpruned _ hmembers]
    intro c hc _
    obtain ⟨hlower, hupper, hminimum⟩ :
          (pointNode reference c).Within (rangeNode reference begin range) :=
        pointNode_within hreference hc
    exact ⟨hlower, hupper, hminimum⟩
  · have hin : ∀ c, c ∈ range ↔ c ∈ lower ∨ c ∈ upper := fun c => by
      rw [← hperm.mem_iff, List.mem_append]
    obtain ⟨used, hused, hwalk⟩ := hleft.passes
      (fun c hc => hmembers c ((hin c).mpr (.inl hc))) hlow hfirst best
    obtain ⟨used', hused', hwalk'⟩ := hright.passes
      (fun c hc => hmembers c ((hin c).mpr (.inr hc))) hhigh hsecond
      (leastRank (ranked (distanceTo reference query)) best (lower.map Int.toNat))
    refine ⟨used' + used + 1, by omega, fun passes => ?_⟩
    have hboth : leastRank (ranked (distanceTo reference query)) best (range.map Int.toNat) =
        leastRank (ranked (distanceTo reference query))
          (leastRank (ranked (distanceTo reference query)) best (lower.map Int.toNat))
          (upper.map Int.toNat) := by
      rw [← leastRank_append, ← List.map_append]
      exact leastRank_congr fun i => ((hperm.map Int.toNat).mem_iff).symm
    rw [← Nat.add_assoc, walk_node hnode, if_neg hpruned, if_pos rfl, ← Nat.add_assoc,
      hwalk, hwalk',
      hboth]

theorem walksOver_buildSubtree (hquery : query.finite = true)
    (hreference : ∀ p ∈ reference, p.finite = true)
    (hpoints : index.points = index.originalIndices.map (referencePoint reference))
    (nth : NthElement) (begin nodeIndex : ℕ) (range : List ℤ) :
    WalksOver reference query index begin nodeIndex range
      (buildSubtree (Exact K) nth reference begin nodeIndex range) := by
  induction begin, nodeIndex, range using buildSubtree_induction (D := Exact K) nth reference with
  | leaf begin nodeIndex range =>
    exact walksOver_leaf hquery hreference hpoints begin nodeIndex range
  | interior begin nodeIndex range lower upper left right _ hperm hlength hleft hright =>
    exact walksOver_interior hquery hreference begin nodeIndex range lower upper left right hperm
      hlength hleft hright

omit [IsStrictOrderedRing K] in
theorem walk_end {cursor : ℕ} (h : index.nodes.length ≤ cursor) (passes : ℕ)
    (best : Exact K × ℤ) : walk index query passes cursor best = some best := by
  cases passes with
  | zero => rw [walk, if_neg (Nat.not_lt.mpr h)]
  | succ passes => rw [walk, if_neg (Nat.not_lt.mpr h)]

theorem walk_buildSpatialIndex (hquery : query.finite = true)
    (hreference : ∀ p ∈ reference, p.finite = true) {nth : NthElement}
    (hbuilt : buildSpatialIndex (Exact K) nth reference = .ok index) (bound : WithTop K)
    {passes : ℕ} (hpasses : index.nodes.length ≤ passes) :
    walk index query passes 0 (Exact.ofTop bound, -1) =
      some (kept (leastOf reference query bound reference.length)) := by
  obtain ⟨hpoints, hsubtree⟩ := buildSpatialIndex_eq hbuilt
  have hwalks := walksOver_buildSubtree hquery hreference hpoints nth 0 0
    ((List.range reference.length).map Int.ofNat)
  rw [hsubtree] at hwalks
  obtain ⟨used, hused, hwalk⟩ := hwalks.passes (by simp) List.prefix_rfl List.prefix_rfl
    (bounded bound)
  obtain ⟨spare, rfl⟩ := Nat.exists_eq_add_of_le' (hused.trans hpasses)
  have hmembers : ((List.range reference.length).map Int.ofNat).map Int.toNat =
      List.range reference.length := by
    rw [List.map_map]
    exact List.map_id _
  rw [← kept_bounded, hwalk, walk_end (Nat.zero_add _).ge, hmembers]
  rfl

end Boxes

/-- The minimum over the reference is at the nearest point. -/
theorem isNearest_leastOf (hquery : query.finite = true)
    (hreference : ∀ p ∈ reference, p.finite = true) (bound : WithTop K) :
    IsNearest reference query (Exact.ofTop bound)
      (kept (leastOf reference query bound reference.length)).2 := by
  have hdistance := ofTop_distanceTo hquery hreference
  have hle : ∀ j < reference.length, leastOf reference query bound reference.length ≤
      ranked (distanceTo reference query) j := fun j hj =>
    leastRank_le (List.mem_range.mpr hj)
  have hstart : leastOf reference query bound reference.length ≤ bounded bound := leastRank_le_start
  rcases leastRank_attained (ranked (distanceTo reference query)) (bounded bound)
    (List.range reference.length) with h | ⟨i, hi, h⟩
  · have hleast : leastOf reference query bound reference.length = bounded bound := h
    rw [hleast] at hle ⊢
    refine .inr ⟨rfl, fun j hj => ?_⟩
    dsimp only
    rw [← hdistance, Exact.ofTop_le_ofTop, not_le]
    exact bounded_le_ranked_iff.mp (hle j hj)
  · have hleast : leastOf reference query bound reference.length =
        ranked (distanceTo reference query) i := h
    rw [hleast] at hle hstart ⊢
    refine .inl ⟨i, List.mem_range.mp hi, rfl, ?_, fun j hj _ => ?_⟩
    · dsimp only
      rw [← hdistance, Exact.ofTop_le_ofTop]
      exact ranked_le_bounded_iff.mp hstart
    · dsimp only
      rw [← hdistance, ← hdistance, Exact.ofTop_lt_ofTop, Exact.ofTop_inj]
      exact ranked_le_ranked_iff.mp (hle j hj)

/-- What the processor's search relies on: the tree finds a point, and the candidates around it are
points of the reference, all of the nearest among them. -/
def FindsNearest (pcl : Pcl (Exact K) (Exact K)) (reference : List (Vec3 (Exact K)))
    (query : Vec3 (Exact K)) : Prop :=
  ∃ found near, pcl.nearestKSearch reference query 1 = .ok found ∧ found ≠ [] ∧
    pcl.radiusSearch reference query (tieRadius ((found.map Prod.snd).getD 0 0)) = .ok near ∧
    (∀ c ∈ near.map Prod.fst, 0 ≤ c ∧ c < reference.length) ∧
    ∀ i < reference.length,
      (∀ j < reference.length,
        squaredDistance (D := Exact K) query (reference.getD i default) ≤
          squaredDistance query (reference.getD j default)) →
      (i : ℤ) ∈ near.map Prod.fst

theorem leastRank_candidates (hquery : query.finite = true)
    (hreference : ∀ p ∈ reference, p.finite = true) {candidates : List ℕ}
    (hmembers : ∀ i ∈ candidates, i < reference.length)
    (hnearest : ∀ i < reference.length,
      (∀ j < reference.length,
        squaredDistance (D := Exact K) query (reference.getD i default) ≤
          squaredDistance query (reference.getD j default)) → i ∈ candidates)
    (bound : WithTop K) :
    leastRank (ranked (distanceTo reference query)) (bounded bound) candidates =
      leastOf reference query bound reference.length := by
  apply leastRank_eq_of_subset
  · intro i hi
    exact List.mem_range.mpr (hmembers i hi)
  · intro i hi hleast
    refine hnearest i (List.mem_range.mp hi) fun j hj => ?_
    rw [← ofTop_distanceTo hquery hreference, ← ofTop_distanceTo hquery hreference,
      Exact.ofTop_le_ofTop]
    exact distance_le_of_ranked_le (hleast j (List.mem_range.mpr hj))

theorem queryAt_eq {pcl : Pcl (Exact K) (Exact K)} {packed : List (Vec3 (Exact K))} {i : ℕ}
    (hquery : (packed.getD i default).finite = true)
    (hreference : ∀ p ∈ reference, p.finite = true)
    (htree : FindsNearest pcl reference (packed.getD i default)) {radius : Exact K}
    {bound : WithTop K} (hbound : radius * radius = Exact.ofTop bound) :
    queryAt pcl reference packed radius i (-1) =
      .ok (kept (leastOf reference (packed.getD i default) bound reference.length)).2 := by
  obtain ⟨found, near, hfound, hne, hnear, hmembers, hnearest⟩ := htree
  have hcast : ((near.map Prod.fst).map Int.toNat).map Int.ofNat = near.map Prod.fst :=
    map_toNat fun c hc => (hmembers c hc).1
  have hleast : leastRank (ranked (distanceTo reference (packed.getD i default))) (bounded bound)
      ((near.map Prod.fst).map Int.toNat) =
        leastOf reference (packed.getD i default) bound reference.length := by
    apply leastRank_candidates hquery hreference
    · intro j hj
      obtain ⟨c, hc, rfl⟩ := List.mem_map.mp hj
      have := hmembers c hc
      omega
    · intro j hj hleast
      exact List.mem_map.mpr ⟨j, hnearest j hj hleast, Int.toNat_natCast j⟩
  have hfold := foldl_keepNearest hquery hreference ((near.map Prod.fst).map Int.toNat)
    (bounded bound)
  rw [hcast, hleast, kept_bounded, ← hbound] at hfold
  simp only [queryAt, hfound, ok_bind, List.length_eq_zero_iff, if_neg hne, hnear, hfold]
  rfl

theorem packPoints_finite : ∀ {queries : List (Vec3 (Exact K))},
    (∀ q ∈ queries, q.finite = true) → packPoints queries = (queries, none)
  | [], _ => rfl
  | q :: queries, h => by
    have ih := packPoints_finite fun p hp => h p (List.mem_cons_of_mem q hp)
    have hnarrow : (q.narrow : Vec3 (Exact K)) = q := rfl
    have hq : q.finite = true := h q (by simp)
    rw [packPoints]
    simp only [hnarrow, hq, not_true_eq_false, if_false, ih]

omit [LinearOrder K] [Field K] [FieldFunctions K] in
theorem option_mapM_eq {α β : Type} {f : α → Option β} {g : α → β} :
    ∀ {l : List α}, (∀ a ∈ l, f a = some (g a)) → l.mapM f = some (l.map g)
  | [], _ => rfl
  | a :: l, h => by
    have ih := option_mapM_eq fun b hb => h b (List.mem_cons_of_mem a hb)
    rw [List.mapM_cons, h a (by simp), ih]
    rfl

/-- The point that is found for a query: of the smallest squared distance, and of those the first.
-/
def nearestAnswer (reference : List (Vec3 (Exact K))) (bound : WithTop K) (query : Vec3 (Exact K)) :
    ℤ :=
  (kept (leastOf reference query bound reference.length)).2

theorem indexedNearestKernel_answers [IsStrictOrderedRing K] {nth : NthElement}
    {index : SpatialIndex (Exact K)} (hreference : ∀ p ∈ reference, p.finite = true)
    {queries : List (Vec3 (Exact K))} (hqueries : ∀ q ∈ queries, q.finite = true)
    (hindex : buildSpatialIndex (Exact K) nth reference = .ok index) (bound : WithTop K)
    {passes : ℕ} (hpasses : index.nodes.length ≤ passes) :
    indexedNearestKernel passes index queries (Exact.ofTop bound) =
      some (queries.map (nearestAnswer reference bound)) := by
  apply option_mapM_eq
  intro q hq
  rw [walk_buildSpatialIndex (hqueries q hq) hreference hindex bound hpasses, Option.map_some]
  rfl

theorem query_answers [IsStrictOrderedRing K] (hreference : ∀ p ∈ reference, p.finite = true)
    {queries : List (Vec3 (Exact K))} (hqueries : ∀ q ∈ queries, q.finite = true)
    {radius : Exact K} {bound : WithTop K} (hbound : radius * radius = Exact.ofTop bound)
    {pcl : Pcl (Exact K) (Exact K)} (htree : ∀ q ∈ queries, FindsNearest pcl reference q)
    (executor : CpuExecutor) (scheduler : Scheduler) (buffers : Buffers (Exact K) (Exact K)) :
    (Registration.query pcl reference executor scheduler queries radius).outcome buffers =
      .ok (queries.map (nearestAnswer reference bound)) := by
  have hanswer : ∀ i < queries.length, queryAt pcl reference queries radius i (-1) =
      .ok (nearestAnswer reference bound (queries.getD i default)) := by
    intro i hi
    have hmem : queries.getD i default ∈ queries := by
      rw [List.getD_eq_getElem?_getD, List.getElem?_eq_getElem hi]
      exact List.getElem_mem hi
    exact queryAt_eq (hqueries _ hmem) hreference (htree _ hmem) hbound
  rw [query_eq (packPoints_finite hqueries) hanswer, map_range_getD]

/-- The scan of the whole reference, the walk of its index and the search of the processor answer
every query with the nearest point. -/
theorem searches_agree [IsStrictOrderedRing K] (nth : NthElement)
    (shared : ℕ → List (Vec3 (Exact K))) (hne : reference ≠ [])
    (hlength : reference.length ≤ int32Max) (hreference : ∀ p ∈ reference, p.finite = true)
    {queries : List (Vec3 (Exact K))} (hqueries : ∀ q ∈ queries, q.finite = true)
    {radius : Exact K} (hradius : 0 ≤ radius) {pcl : Pcl (Exact K) (Exact K)}
    (htree : ∀ q ∈ queries, FindsNearest pcl reference q) (executor : CpuExecutor)
    (scheduler : Scheduler) (buffers : Buffers (Exact K) (Exact K)) :
    ∃ index indices, buildSpatialIndex (Exact K) nth reference = .ok index ∧
      nearestKernel shared reference queries (radius * radius) = indices ∧
      (∀ passes, index.nodes.length ≤ passes →
        indexedNearestKernel passes index queries (radius * radius) = some indices) ∧
      (Registration.query pcl reference executor scheduler queries radius).outcome buffers =
        .ok indices ∧
      List.Forall₂ (fun query i => IsNearest reference query (radius * radius) i) queries
        indices := by
  obtain ⟨bound, hbound⟩ := Exact.mul_self_eq_ofTop hradius
  obtain ⟨index, hindex⟩ := exists_buildSpatialIndex (D := Exact K) nth hne hlength hreference
  refine ⟨index, queries.map (nearestAnswer reference bound), hindex, ?_, ?_, ?_, ?_⟩
  · rw [hbound]
    refine List.ext_getElem (by simp [nearestKernel]) fun i hi hi' => ?_
    rw [List.length_map] at hi'
    simp only [nearestKernel, List.getElem_mapIdx, List.getElem_map]
    exact nearestThread_eq (hqueries _ (List.getElem_mem hi')) hreference bound _
  · intro passes hpasses
    rw [hbound]
    exact indexedNearestKernel_answers hreference hqueries hindex bound hpasses
  · exact query_answers hreference hqueries hbound htree executor scheduler buffers
  · rw [hbound, List.forall₂_map_right_iff, List.forall₂_same]
    exact fun q hq => isNearest_leastOf (hqueries q hq) hreference bound

end Searches

/-- The points of two leaves. -/
def leafPoints : List (Vec3 (Exact ℚ)) := (List.range 17).map fun i : ℕ => exactPoint i 0 0

/-- A query between two points, one far from all of them, and one in the second leaf. -/
def leafQueries : List (Vec3 (Exact ℚ)) :=
  [exactPoint (1 / 2) 0 0, exactPoint 20 0 0, exactPoint 15 1 0]

theorem findsNearest_leafQueries : ∀ q ∈ leafQueries,
    FindsNearest (.exhaustive fun _ => none) leafPoints q := by
  intro q hq
  simp only [leafQueries, List.mem_cons, List.not_mem_nil, or_false] at hq
  rcases hq with rfl | rfl | rfl
  · exact ⟨_, _, rfl, by decide +kernel, rfl, by decide +kernel, by decide +kernel⟩
  · exact ⟨_, _, rfl, by decide +kernel, rfl, by decide +kernel, by decide +kernel⟩
  · exact ⟨_, _, rfl, by decide +kernel, rfl, by decide +kernel, by decide +kernel⟩

/-- Of two points at the same distance all searches find the first. -/
theorem searches_agree_tie : ∃ index,
    buildSpatialIndex (Exact ℚ) .sorting leafPoints = .ok index ∧
      nearestKernel (fun _ => []) leafPoints leafQueries ((1 : Exact ℚ) * 1) = [0, -1, 15] ∧
      (∀ passes, index.nodes.length ≤ passes →
        indexedNearestKernel passes index leafQueries ((1 : Exact ℚ) * 1) = some [0, -1, 15]) ∧
      (Registration.query (.exhaustive fun _ => none) leafPoints ⟨2, Nat.two_pos⟩ .alternating
        leafQueries 1).outcome
          (⟨[], [], [], [], [], CpuExecutor.initial⟩ : Buffers (Exact ℚ) (Exact ℚ)) =
        .ok [0, -1, 15] ∧
      List.Forall₂ (fun query i => IsNearest leafPoints query ((1 : Exact ℚ) * 1) i) leafQueries
        [0, -1, 15] := by
  have hne : leafPoints ≠ [] := List.ne_nil_of_length_pos (by decide)
  have hqueries : ∀ q ∈ leafQueries, q.finite = true := by decide
  have hradius : (0 : Exact ℚ) ≤ 1 := by decide
  obtain ⟨index, indices, hindex, hscan, hagree⟩ := searches_agree .sorting (fun _ => []) hne
    (by decide) (by decide) hqueries hradius findsNearest_leafQueries ⟨2, Nat.two_pos⟩ .alternating
    (⟨[], [], [], [], [], CpuExecutor.initial⟩ : Buffers (Exact ℚ) (Exact ℚ))
  have hindices : nearestKernel (fun _ => []) leafPoints leafQueries ((1 : Exact ℚ) * 1) =
      [0, -1, 15] := by decide +kernel
  obtain rfl : indices = [0, -1, 15] := hscan.symm.trans hindices
  exact ⟨index, hindex, hscan, hagree⟩

end PointcloudAd.Cuda
