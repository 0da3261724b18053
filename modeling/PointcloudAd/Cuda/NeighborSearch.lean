import PointcloudAd.Cuda.IndexPacking
import PointcloudAd.Cuda.NeighborKernel
import PointcloudAd.Library.LeastMembers

/-!
# The nearest neighbours

What the neighbour kernel keeps are the nearest of the points it has passed, in their order. A
subtree that it passes over holds none of them, since no point of a box is nearer than the box.
The pending nodes are the roots of what is left, lower ones on top.
-/

namespace PointcloudAd.Cuda

open Library Registration

variable {F D : Type} [FloatArith F] [FloatArith D] [Floats F D]

section Order

variable [OrderedFloat F] [RoundedDistances F D]

theorem axisGap_square_le {q p lower upper : F} (hq : isFinite q = true) (hp : isFinite p = true)
    (hlower : isFinite lower = true) (hupper : isFinite upper = true) (hl : lower ≤ p)
    (hu : p ≤ upper) :
    (0 : D) ≤ axisGap q lower upper * axisGap q lower upper ∧
      (axisGap q lower upper * axisGap q lower upper : D) ≤
        (widen q - widen p) * (widen q - widen p) := by
  by_cases hbelow : q < lower
  · rw [axisGap, if_pos hbelow]
    exact ⟨RoundedDistances.square_nonneg hlower hq,
      RoundedDistances.nested_left hq hlower hp (OrderedFloat.lt_iff.mp hbelow).1 hl⟩
  · rw [axisGap, if_neg hbelow]
    by_cases habove : upper < q
    · rw [if_pos habove]
      exact ⟨RoundedDistances.square_nonneg hq hupper,
        RoundedDistances.nested_right hp hupper hq hu (OrderedFloat.lt_iff.mp habove).1⟩
    · rw [if_neg habove]
      exact ⟨RoundedDistances.zero_square F, RoundedDistances.zero_le_square hq hp⟩

variable {reference : List (Vec3 F)} {query : Vec3 F} {slots : List ℤ} {node : SpatialNode F}

theorem Bounds.lowerDistance_le (h : Bounds reference node slots)
    (hfinite : ∀ p ∈ reference, p.finite = true)
    (hmembers : ∀ c ∈ slots, 0 ≤ c ∧ c < reference.length) (hquery : query.finite = true) {c : ℤ}
    (hc : c ∈ slots) : (lowerDistance query node : D) ≤
      squaredDistance query (referencePoint reference c) := by
  have hbounds := h.bounds_finite hfinite hmembers
  have hpoint := coordinate_finite (hfinite _ (referencePoint_mem (hmembers c hc)))
  have hcoordinate := coordinate_finite hquery
  obtain ⟨hlower, hupper, -⟩ := h.within c hc
  obtain ⟨hx, hx'⟩ := axisGap_square_le (D := D) (hcoordinate 0) (hpoint 0) (hbounds 0).1
    (hbounds 0).2 hlower.x hupper.x
  obtain ⟨hy, hy'⟩ := axisGap_square_le (D := D) (hcoordinate 1) (hpoint 1) (hbounds 1).1
    (hbounds 1).2 hlower.y hupper.y
  obtain ⟨hz, hz'⟩ := axisGap_square_le (D := D) (hcoordinate 2) (hpoint 2) (hbounds 2).1
    (hbounds 2).2 hlower.z hupper.z
  exact RoundedDistances.add_le_add F (RoundedDistances.add_nonneg F hx hy) hz
    (RoundedDistances.add_le_add F hx hy hx' hy') hz'

variable [OrderedFloat D]

omit [OrderedFloat F] in
theorem squaredDistance_number {p : Vec3 F} (hquery : query.finite = true) (hp : p.finite = true) :
    (squaredDistance query p : D) ≤ squaredDistance query p := by
  have hq := coordinate_finite hquery
  have hpoint := coordinate_finite hp
  have hx : (0 : D) ≤ _ := RoundedDistances.square_nonneg (hq 0) (hpoint 0)
  have hy : (0 : D) ≤ _ := RoundedDistances.square_nonneg (hq 1) (hpoint 1)
  have hz : (0 : D) ≤ _ := RoundedDistances.square_nonneg (hq 2) (hpoint 2)
  exact OrderedFloat.le_right
    (RoundedDistances.add_nonneg F (RoundedDistances.add_nonneg F hx hy) hz)

variable (D) in
/-- A point of the reference as the kernel keeps it. -/
def entry (reference : List (Vec3 F)) (query : Vec3 F) (c : ℤ) : D × ℤ :=
  (squaredDistance query (referencePoint reference c), c)

variable (D) in
/-- The order of the indices of the reference by distance, then by index. -/
def NearerIndex (reference : List (Vec3 F)) (query : Vec3 F) (a b : ℤ) : Prop :=
  Nearer (entry D reference query a) (entry D reference query b)

omit [OrderedFloat F] in
theorem nearerIndex_total [FiniteNumbers D]
    (hfinite : ∀ p ∈ reference, p.finite = true) (hquery : query.finite = true) :
    IsStrictTotalOrder ℤ (NearerIndex D reference query) := by
  apply indexed_total
  intro c
  apply squaredDistance_number (F := F) hquery
  by_cases hlt : c.toNat < reference.length
  · rw [referencePoint, List.getD_eq_getElem?_getD, List.getElem?_eq_getElem hlt]
    exact hfinite _ (List.getElem_mem hlt)
  · rw [referencePoint, List.getD_eq_getElem?_getD, List.getElem?_eq_none (Nat.le_of_not_lt hlt)]
    have hzero : isFinite (0 : F) = true := RoundedDistances.zero_finite D
    exact Bool.and_eq_true_iff.mpr ⟨Bool.and_eq_true_iff.mpr ⟨hzero, hzero⟩, hzero⟩

end Order

section Insertion

@[simp] theorem length_insertEntry (e : D × ℤ) (position : ℕ) (cells : List (D × ℤ)) :
    (insertEntry e position cells).length = cells.length := by
  induction position generalizing cells with
  | zero => exact List.length_set
  | succ position ih =>
    unfold insertEntry
    dsimp only
    split_ifs
    · rw [ih, List.length_set]
    · exact List.length_set

theorem getElem?_insertEntry (e : D × ℤ) {position i : ℕ} (h : position < i)
    (cells : List (D × ℤ)) : (insertEntry e position cells)[i]? = cells[i]? := by
  induction position generalizing cells with
  | zero => exact List.getElem?_set_ne (Nat.ne_of_lt h)
  | succ position ih =>
    unfold insertEntry
    dsimp only
    split_ifs
    · rw [ih (by omega), List.getElem?_set_ne (Nat.ne_of_lt h)]
    · exact List.getElem?_set_ne (Nat.ne_of_lt h)

/-- The entry goes after the last cell that it is not nearer than. -/
theorem insertEntry_spec (e : D × ℤ) {position : ℕ} {cells : List (D × ℤ)}
    (hposition : position < cells.length) :
    ∃ front back, cells.take position = front ++ back ∧
      (insertEntry e position cells).take (position + 1) = front ++ e :: back ∧
      (∀ b ∈ back, Nearer e b) ∧ ∀ a ∈ front.getLast?, ¬ Nearer e a := by
  induction position generalizing cells with
  | zero =>
    refine ⟨[], [], rfl, ?_, by simp, by simp⟩
    rw [insertEntry, List.take_add_one, List.getElem?_set_self hposition]
    rfl
  | succ position ih =>
    have hlt : position < cells.length := by omega
    have hbefore : cells.getD position (0, 0) = cells.get ⟨position, hlt⟩ := by
      rw [List.getD_eq_getElem?_getD, List.getElem?_eq_getElem hlt]
      rfl
    have htake : cells.take (position + 1) =
        cells.take position ++ [cells.get ⟨position, hlt⟩] := by
      rw [List.take_add_one, List.getElem?_eq_getElem hlt]
      rfl
    unfold insertEntry
    dsimp only
    rw [hbefore, htake]
    by_cases hnearer : Nearer e (cells.get ⟨position, hlt⟩)
    · rw [if_pos hnearer]
      have hmoved : position < (cells.set (position + 1) (cells.get ⟨position, hlt⟩)).length := by
        simpa using hlt
      obtain ⟨front, back, hparts, hresult, hback, hfront⟩ := ih hmoved
      rw [List.take_set_of_le (by omega)] at hparts
      refine ⟨front, back ++ [cells.get ⟨position, hlt⟩], ?_, ?_, ?_, hfront⟩
      · rw [hparts, List.append_assoc]
      · rw [List.take_add_one, hresult, getElem?_insertEntry e (Nat.lt_succ_self _),
          List.getElem?_set_self hposition]
        simp
      · intro b hb
        rcases List.mem_append.mp hb with hb | hb
        · exact hback b hb
        · rwa [List.mem_singleton.mp hb]
    · rw [if_neg hnearer]
      refine ⟨cells.take position ++ [cells.get ⟨position, hlt⟩], [], ?_, ?_, by simp, ?_⟩
      · rw [List.append_nil]
      · rw [List.take_add_one, List.take_set_of_le (le_refl _), List.getElem?_set_self hposition,
          htake]
        rfl
      · intro a ha
        rw [List.getLast?_concat, Option.mem_some_iff] at ha
        rwa [← ha]

end Insertion

/-- The cells hold the nearest of the indices seen. -/
structure Kept (reference : List (Vec3 F)) (query : Vec3 F) (k : ℕ) (cells : List (D × ℤ))
    (found : ℕ) (seen best : List ℤ) : Prop where
  length_eq : cells.length = k
  found_eq : found = best.length
  take_eq : cells.take found = best.map (entry D reference query)
  least : LeastMembers (NearerIndex D reference query) k seen best

theorem before_of_getLast {α : Type} {lt : α → α → Prop} [IsTrans α lt] {l : List α} {c : α}
    (hsorted : l.Pairwise lt) (hlast : ∀ a ∈ l.getLast?, lt a c) : ∀ a ∈ l, lt a c := by
  rcases List.eq_nil_or_concat l with rfl | ⟨init, last, rfl⟩
  · simp
  · rw [List.concat_eq_append] at hsorted hlast ⊢
    rw [List.pairwise_append] at hsorted
    have hbefore : lt last c := hlast last (by rw [List.getLast?_concat, Option.mem_some_iff])
    intro a ha
    rcases List.mem_append.mp ha with ha | ha
    · exact trans_of lt (hsorted.2.2 a ha last (by simp)) hbefore
    · rwa [List.mem_singleton.mp ha]

section Kept

variable {reference : List (Vec3 F)} {query : Vec3 F} {k : ℕ} {cells : List (D × ℤ)} {found : ℕ}
  {seen best : List ℤ} [IsStrictTotalOrder ℤ (NearerIndex D reference query)]

/-- A candidate is put among the first of what is kept, and what follows these is dropped. -/
theorem Kept.insert (h : Kept reference query k cells found seen best) {c : ℤ} (hc : c ∉ seen)
    {kept dropped : List ℤ} (hbest : best = kept ++ dropped) (hposition : kept.length < k)
    (hdropped : ∀ b ∈ dropped, NearerIndex D reference query c b)
    (hfull : dropped ≠ [] → kept.length + 1 = k) :
    ∃ best', Kept reference query k (insertEntry (entry D reference query c) kept.length cells)
      (kept.length + 1) (c :: seen) best' := by
  have hlt : kept.length < cells.length := by rwa [h.length_eq]
  obtain ⟨front, back, hparts, hresult, hback, hfront⟩ :=
    insertEntry_spec (entry D reference query c) hlt
  have htake : cells.take kept.length = kept.map (entry D reference query) := by
    have hle : kept.length ≤ found := by
      rw [h.found_eq, hbest, List.length_append]
      exact Nat.le_add_right _ _
    have hcells := congrArg (List.take kept.length) h.take_eq
    rw [List.take_take, min_eq_left hle, hbest, List.map_append] at hcells
    rw [hcells]
    exact List.take_left' (List.length_map _)
  rw [htake, List.map_eq_append_iff] at hparts
  obtain ⟨before, after, rfl, rfl, rfl⟩ := hparts
  have hsorted := h.least.sorted
  rw [hbest, List.append_assoc] at hsorted
  have hlength : (before ++ c :: after).length = (before ++ after).length + 1 := by
    simp only [List.length_append, List.length_cons]
    omega
  refine ⟨before ++ c :: after, ?_, hlength.symm, ?_, ?_⟩
  · rw [length_insertEntry, h.length_eq]
  · rw [hresult, List.map_append, List.map_cons]
  · apply h.least.insert (by rw [hbest, List.append_assoc])
    · apply before_of_getLast (List.pairwise_append.mp hsorted).1
      intro a ha
      have hmem : a ∈ seen := by
        apply h.least.subset
        rw [hbest, List.append_assoc]
        exact List.mem_append_left _ (List.mem_of_getLast? ha)
      have hnot : ¬ NearerIndex D reference query c a :=
        hfront _ (by rw [List.getLast?_map, ha]; rfl)
      rcases trichotomous_of (NearerIndex D reference query) a c with hless | rfl | hless
      · exact hless
      · exact absurd hmem hc
      · exact absurd hless hnot
    · intro b hb
      rcases List.mem_append.mp hb with hb | hb
      · exact hback _ (List.mem_map_of_mem hb)
      · exact hdropped b hb
    · rw [hlength]
      exact hposition
    · intro hne
      rw [hlength]
      exact hfull hne

omit [IsStrictTotalOrder ℤ (NearerIndex D reference query)] in
theorem Kept.exists_last (h : Kept reference query k cells found seen best) (hk : 0 < k)
    (hfull : found = k) :
    ∃ init last, best = init ++ [last] ∧ init.length + 1 = k ∧
      cells.getD (k - 1) (0, 0) = entry D reference query last := by
  have hlength : best.length = k := h.found_eq.symm.trans hfull
  rcases List.eq_nil_or_concat best with rfl | ⟨init, last, rfl⟩
  · exact absurd hlength (Nat.ne_of_lt hk)
  · rw [List.length_concat] at hlength
    refine ⟨init, last, List.concat_eq_append, hlength, ?_⟩
    have hcell := congrArg (fun l => l[init.length]?) h.take_eq
    simp only [List.concat_eq_append, List.map_append] at hcell
    rw [List.getElem?_take_of_lt (by omega), List.getElem?_append_right (by simp)] at hcell
    rw [List.getD_eq_getElem?_getD, ← hlength, Nat.add_sub_cancel, hcell]
    simp

variable [FiniteNumbers D]

omit [IsStrictTotalOrder ℤ (NearerIndex D reference query)] in
theorem notNearer_iff {a c : ℤ} (hne : a ≠ c) :
    NotNearer (entry D reference query a)
      (squaredDistance query (referencePoint reference c)) c ↔
        NearerIndex D reference query a c := by
  unfold NotNearer NearerIndex Nearer entry
  simp only [FiniteNumbers.equal_iff]
  constructor
  · rintro (hless | ⟨⟨hle, hge⟩, hindex⟩)
    · exact .inl hless
    · exact .inr ⟨⟨hge, hle⟩, lt_of_le_of_ne hindex hne⟩
  · rintro (hless | ⟨⟨hle, hge⟩, hindex⟩)
    · exact .inl hless
    · exact .inr ⟨⟨hge, hle⟩, hindex.le⟩

variable {index : SpatialIndex F}

theorem Kept.offerSlot (h : Kept reference query k cells found seen best) (hk : 0 < k)
    (hpoints : index.points = index.originalIndices.map (referencePoint reference)) {slot : ℕ}
    {c : ℤ} (hslot : index.originalIndices[slot]? = some c) (hc : c ∉ seen) :
    ∃ best', Kept reference query k (offerSlot index query k (cells, found) slot).1
      (offerSlot index query k (cells, found) slot).2 (c :: seen) best' := by
  have hpoint : index.points.getD slot default = referencePoint reference c := by
    rw [hpoints, List.getD_eq_getElem?_getD, List.getElem?_map, hslot]
    rfl
  have hid : index.originalIndices.getD slot 0 = c := by
    rw [List.getD_eq_getElem?_getD, hslot]
    rfl
  unfold Cuda.offerSlot
  dsimp only
  rw [hpoint, hid]
  by_cases hfull : found = k
  · obtain ⟨init, last, rfl, hinit, hlast⟩ := h.exists_last hk hfull
    have hne : last ≠ c := by
      rintro rfl
      exact hc (h.least.subset last (by simp))
    rw [if_pos hfull, hlast]
    by_cases hskip : NearerIndex D reference query last c
    · rw [if_pos ((notNearer_iff hne).mpr hskip)]
      refine ⟨init ++ [last], h.length_eq, h.found_eq, h.take_eq, ?_⟩
      have hfar : ∀ d ∈ [c], ∀ b ∈ init ++ [last], NearerIndex D reference query b d := by
        intro d hd
        rw [List.mem_singleton.mp hd]
        apply before_of_getLast h.least.sorted
        intro a ha
        rw [List.getLast?_concat, Option.mem_some_iff] at ha
        rwa [← ha]
      exact h.least.skip (h.found_eq.symm.trans hfull) hfar
    · rw [if_neg fun hlater => hskip ((notNearer_iff hne).mp hlater)]
      have hbefore : NearerIndex D reference query c last := by
        rcases trichotomous_of (NearerIndex D reference query) c last with hless | heq | hless
        · exact hless
        · exact absurd heq.symm hne
        · exact absurd hless hskip
      have hinsert := h.insert hc rfl (by omega)
        (fun b hb => by rwa [List.mem_singleton.mp hb]) fun _ => hinit
      rw [hinit] at hinsert
      rwa [hfull, ← hinit, Nat.add_sub_cancel, hinit]
  · rw [if_neg hfull]
    have hroom : best.length < k :=
      lt_of_le_of_ne h.least.length_le fun heq => hfull (h.found_eq.trans heq)
    have hinsert := h.insert hc (List.append_nil best).symm hroom (by simp) (by simp)
    rwa [← h.found_eq] at hinsert

theorem Kept.foldl_offerSlot (hk : 0 < k)
    (hpoints : index.points = index.originalIndices.map (referencePoint reference))
    {slots : List ℤ} {begin : ℕ} (hslots : slots <+: index.originalIndices.drop begin)
    (h : Kept reference query k cells found seen best) (hnodup : (slots ++ seen).Nodup) :
    ∃ best', Kept reference query k
      ((List.range' begin slots.length).foldl (Cuda.offerSlot index query k) (cells, found)).1
      ((List.range' begin slots.length).foldl (Cuda.offerSlot index query k) (cells, found)).2
      (slots ++ seen) best' := by
  induction slots generalizing begin cells found seen best with
  | nil => exact ⟨best, h⟩
  | cons c slots ih =>
    obtain ⟨hslot, hrest⟩ := prefix_cons_drop hslots
    rw [List.cons_append, List.nodup_cons, List.mem_append, not_or] at hnodup
    obtain ⟨best', hoffered⟩ := h.offerSlot hk hpoints hslot hnodup.1.2
    have hmiddle : (slots ++ c :: seen).Perm (c :: (slots ++ seen)) := List.perm_middle
    obtain ⟨best'', hkept⟩ := ih hrest hoffered (hmiddle.nodup_iff.mpr
      (List.nodup_cons.mpr ⟨by simpa using hnodup.1, hnodup.2⟩))
    refine ⟨best'', hkept.length_eq, hkept.found_eq, hkept.take_eq, ?_⟩
    exact hkept.least.congr fun d => hmiddle.mem_iff

variable [OrderedFloat F] [OrderedFloat D] [RoundedDistances F D]

/-- The points of a subtree that is passed over are not among the nearest. -/
theorem Kept.skip (h : Kept reference query k cells found seen best) (hk : 0 < k)
    {node : SpatialNode F} {slots : List ℤ} (hbounds : Bounds reference node slots)
    (hfinite : ∀ p ∈ reference, p.finite = true)
    (hmembers : ∀ c ∈ slots, 0 ≤ c ∧ c < reference.length) (hquery : query.finite = true)
    (hnew : ∀ c ∈ slots, c ∉ seen) (hfull : found = k)
    (hpruned : NotNearer (cells.getD (k - 1) (0, 0)) (lowerDistance query node)
      node.minimumIndex) : Kept reference query k cells found (slots ++ seen) best := by
  obtain ⟨init, last, rfl, -, hlast⟩ := h.exists_last hk hfull
  refine ⟨h.length_eq, h.found_eq, h.take_eq, ?_⟩
  apply h.least.skip (h.found_eq.symm.trans hfull)
  intro c hc
  have hne : last ≠ c := by
    rintro rfl
    exact hnew last hc (h.least.subset last (by simp))
  have hle := hbounds.lowerDistance_le (D := D) hfinite hmembers hquery hc
  have hmin : node.minimumIndex ≤ c := (hbounds.within c hc).minimumIndex
  have hbefore : NearerIndex D reference query last c := by
    rw [← notNearer_iff hne]
    rw [hlast] at hpruned
    -- The box is after the last neighbour, and the point is no nearer than the box.
    rcases hpruned with hfar | ⟨hequal, hindex⟩
    · exact .inl (lt_le_trans hfar hle)
    · obtain ⟨-, hge⟩ := FiniteNumbers.equal_iff.mp hequal
      have hlater := OrderedFloat.le_trans hge hle
      by_cases hsame : squaredDistance query (referencePoint reference c) ≤
          (entry D reference query last).1
      · exact .inr ⟨FiniteNumbers.equal_iff.mpr ⟨hsame, hlater⟩, hindex.trans hmin⟩
      · exact .inl (OrderedFloat.lt_iff.mpr ⟨hlater, hsame⟩)
  apply before_of_getLast h.least.sorted
  intro a ha
  rw [List.getLast?_concat, Option.mem_some_iff] at ha
  rwa [← ha]

end Kept

section Pending

variable {reference : List (Vec3 F)} {index : SpatialIndex F} {least : ℕ}

variable (reference index least) in
/-- A stack of subtrees, the top one first, with the indices and the number of nodes in them. A
subtree is low enough for the stack to stay small. -/
inductive Stacked : List ℕ → List ℤ → ℕ → Prop
  | nil : Stacked [] [] 0
  | cons {cursor begin escape height work : ℕ} {rest : List ℕ} {slots remaining : List ℤ}
      (hsubtree : Subtree reference index least cursor begin slots escape height)
      (hdepth : rest.length + height ≤ 27) (hrest : Stacked rest remaining work) :
      Stacked (cursor :: rest) (slots ++ remaining) (escape - cursor + work)

theorem Stacked.length_le {stack : List ℕ} {remaining : List ℤ} {work : ℕ}
    (h : Stacked reference index least stack remaining work) : stack.length ≤ 28 := by
  cases h with
  | nil => exact Nat.zero_le 28
  | cons _ hdepth =>
    rw [List.length_cons]
    omega

/-- The array of pending nodes, up to their number, is a stack. -/
structure Pending (state : KnnState D) (stack : List ℕ) : Prop where
  capacity : state.pending.length = pendingCapacity
  count_eq : state.pendingCount = stack.length
  take_eq : state.pending.take state.pendingCount = stack.reverse

omit [FloatArith D] in
theorem Pending.pop {state : KnnState D} {cursor : ℕ} {rest : List ℕ}
    (h : Pending state (cursor :: rest)) :
    state.pendingCount - 1 = rest.length ∧ state.pending[rest.length]? = some cursor ∧
      state.pending.take rest.length = rest.reverse := by
  have hcount : state.pendingCount = rest.length + 1 := h.count_eq
  have htake := h.take_eq
  rw [hcount, List.reverse_cons] at htake
  refine ⟨by omega, ?_, ?_⟩
  · have hcell := congrArg (fun l => l[rest.length]?) htake
    simpa using hcell
  · have hbelow := congrArg (List.take rest.length) htake
    rw [List.take_take, min_eq_left (Nat.le_succ _)] at hbelow
    rw [hbelow]
    exact List.take_left' List.length_reverse

omit [FloatArith D] in
/-- Two nodes pushed after one is popped. -/
theorem Pending.push {state : KnnState D} {cursor : ℕ} {rest : List ℕ}
    (h : Pending state (cursor :: rest)) (hroom : rest.length + 1 < pendingCapacity)
    (near far : ℕ) :
    Pending { state with
      pending := (state.pending.set rest.length far).set (rest.length + 1) near
      pendingCount := rest.length + 2 } (near :: far :: rest) := by
  obtain ⟨-, -, hbelow⟩ := h.pop
  have hlength := h.capacity
  refine ⟨by simpa using hlength, rfl, ?_⟩
  dsimp only
  rw [List.take_add_one, List.getElem?_set_self (by rw [List.length_set]; omega),
    List.take_set_of_le (le_refl _), List.take_add_one, List.getElem?_set_self (by omega),
    List.take_set_of_le (le_refl _), hbelow]
  simp

end Pending

section Loop

variable {reference : List (Vec3 F)} {index : SpatialIndex F} {query : Vec3 F} {k least : ℕ}

variable (reference index query k least) in
/-- What a thread finds in memory: an index over the reference and a point of it. -/
structure Searchable : Prop where
  positive : 0 < k
  least_pos : 0 < least
  finite : ∀ p ∈ reference, p.finite = true
  query : query.finite = true
  points : index.points = index.originalIndices.map (referencePoint reference)
  members : ∀ c ∈ index.originalIndices, 0 ≤ c ∧ c < reference.length
  nodup : index.originalIndices.Nodup

variable (reference index query k least) in
/-- Every index was seen or is in a pending subtree, and the nearest of those seen are kept. -/
def KnnInvariant (state : KnnState D) (work : ℕ) : Prop :=
  ∃ stack remaining seen best, Pending state stack ∧
    Stacked reference index least stack remaining work ∧
    Kept reference query k state.cells state.found seen best ∧
    (seen ++ remaining).Perm index.originalIndices

variable [OrderedFloat F] [OrderedFloat D] [FiniteNumbers D] [RoundedDistances F D]

/-- One pass leaves less to visit. -/
theorem knnStep_invariant (henv : Searchable reference index query k least) {state : KnnState D}
    {work : ℕ} (h : KnnInvariant reference index query k least state work)
    (hpending : 0 < state.pendingCount) :
    ∃ next work', knnStep index query k state = some next ∧
      KnnInvariant reference index query k least next work' ∧ work' < work := by
  have htotal := nearerIndex_total (D := D) henv.finite henv.query
  obtain ⟨stack, remaining, seen, best, hstack, hstacked, hkept, hperm⟩ := h
  have hnodup := hperm.nodup_iff.mpr henv.nodup
  cases hstacked with
  | nil => exact absurd hstack.count_eq (Nat.ne_of_gt hpending)
  | @cons cursor begin escape height work rest slots remaining hsubtree hdepth hrest =>
    obtain ⟨htop, hcursor, hbelow⟩ := hstack.pop
    obtain ⟨node, hnode, hescape, hbegin, hbounds⟩ := hsubtree.exists_node
    have hlt := hsubtree.cursor_lt_escape
    have hsize : cursor < index.nodes.length := hlt.trans_le hsubtree.escape_le
    have hread : index.nodes.getD cursor default = node := by
      rw [List.getD_eq_getElem?_getD, hnode]
      rfl
    have hmembers : ∀ c ∈ slots, c ∈ index.originalIndices := fun c hc =>
      hperm.mem_iff.mp (by simp [hc])
    have hnew : ∀ c ∈ slots, c ∉ seen := fun c hc hseen =>
      (List.nodup_append.mp hnodup).2.2 c hseen c (by simp [hc]) rfl
    have hpassed : (slots ++ seen ++ remaining).Perm index.originalIndices := by
      refine List.Perm.trans ?_ hperm
      rw [← List.append_assoc]
      exact List.perm_append_comm.append_right remaining
    have hpopped : ∀ cells found,
        Pending (D := D) ⟨cells, found, state.pending, rest.length⟩ rest :=
      fun _ _ => ⟨hstack.capacity, rfl, hbelow⟩
    unfold knnStep
    simp only [htop, hcursor, Option.bind_eq_bind, Option.bind_some, if_neg (Nat.not_le.mpr hsize),
      hread]
    by_cases hpruned : state.found = k ∧ NotNearer (state.cells.getD (k - 1) (0, 0))
        (lowerDistance query node) node.minimumIndex
    · rw [if_pos hpruned]
      refine ⟨_, work, rfl, ⟨rest, remaining, slots ++ seen, best, hpopped _ _, hrest, ?_, hpassed⟩,
        by omega⟩
      exact hkept.skip henv.positive hbounds henv.finite
        (fun c hc => henv.members c (hmembers c hc)) henv.query hnew hpruned.1 hpruned.2
    · rw [if_neg hpruned]
      cases hsubtree with
      | leaf hnode' _ hbegin' hcount _ hleast _ _ hslots =>
        obtain rfl := Option.some.inj (hnode.symm.trans hnode')
        have hsome : node.count ≠ 0 := by
          have := henv.least_pos
          omega
        rw [if_neg hsome, hbegin', hcount]
        obtain ⟨best', hoffered⟩ := hkept.foldl_offerSlot henv.positive henv.points hslots
          (hpassed.nodup_iff.mpr henv.nodup).of_append_left
        exact ⟨_, work, rfl, ⟨rest, remaining, slots ++ seen, best', hpopped _ _, hrest, hoffered,
          hpassed⟩, by omega⟩
      | @branch _ _ middle _ height height' left right _ hnode' _ _ hcount _ hfirst hsecond =>
        obtain rfl := Option.some.inj (hnode.symm.trans hnode')
        obtain ⟨first, hfirst', rfl, -⟩ := hfirst.exists_node
        obtain ⟨second, hsecond', -⟩ := hsecond.exists_node
        have hroom : rest.length + 1 < pendingCapacity :=
          lt_of_le_of_lt (by omega : rest.length + 1 ≤ 28) (by decide)
        have hmiddle := hfirst.cursor_lt_escape
        have hend := hsecond.cursor_lt_escape
        rw [if_pos hcount]
        simp only [hfirst', hsecond', Option.bind_some]
        rw [if_pos (hstack.capacity ▸ hroom)]
        by_cases hnearer : (lowerDistance query first : D) ≤ lowerDistance query second
        · simp only [if_pos hnearer]
          refine ⟨_, _, rfl, ⟨_, _, seen, best, hstack.push hroom (cursor + 1) first.escape,
            .cons hfirst (by rw [List.length_cons]; omega) (.cons hsecond (by omega) hrest), hkept,
            ?_⟩, by omega⟩
          rwa [← List.append_assoc left]
        · simp only [if_neg hnearer]
          refine ⟨_, _, rfl, ⟨_, _, seen, best, hstack.push hroom first.escape (cursor + 1),
            .cons hsecond (by rw [List.length_cons]; omega) (.cons hfirst (by omega) hrest), hkept,
            ?_⟩, by omega⟩
          refine List.Perm.trans (List.Perm.append_left seen ?_) hperm
          rw [← List.append_assoc right]
          exact List.perm_append_comm.append_right remaining

/-- Every state on the way is as the invariant says. -/
theorem KnnReached.invariant (henv : Searchable reference index query k least)
    {start state : KnnState D} {work : ℕ}
    (hstart : KnnInvariant reference index query k least start work)
    (h : KnnReached index query k start state) :
    ∃ work', KnnInvariant reference index query k least state work' := by
  induction h with
  | start => exact ⟨work, hstart⟩
  | step _ hpending hstep ih =>
    obtain ⟨work', hstate⟩ := ih
    obtain ⟨next, work'', hnext, hinvariant, -⟩ := knnStep_invariant henv hstate hpending
    obtain rfl := Option.some.inj (hnext.symm.trans hstep)
    exact ⟨work'', hinvariant⟩

theorem knnLoop_ends (henv : Searchable reference index query k least) {passes work : ℕ}
    (hpasses : work ≤ passes) {state : KnnState D}
    (h : KnnInvariant reference index query k least state work) :
    ∃ final, knnLoop index query k passes state = some final ∧ final.pendingCount = 0 ∧
      ∃ work', KnnInvariant reference index query k least final work' := by
  induction passes generalizing state work with
  | zero =>
    have hdone : ¬ 0 < state.pendingCount := by
      intro hpending
      obtain ⟨_, work', -, -, hless⟩ := knnStep_invariant henv h hpending
      omega
    rw [knnLoop, if_neg hdone]
    exact ⟨state, rfl, Nat.eq_zero_of_not_pos hdone, work, h⟩
  | succ passes ih =>
    rw [knnLoop]
    by_cases hpending : 0 < state.pendingCount
    · obtain ⟨next, work', hnext, hinvariant, hless⟩ := knnStep_invariant henv h hpending
      rw [if_pos hpending, hnext]
      exact ih (by omega) hinvariant
    · rw [if_neg hpending]
      exact ⟨state, rfl, Nat.eq_zero_of_not_pos hpending, work, h⟩

omit [OrderedFloat F] [OrderedFloat D] [FiniteNumbers D] [RoundedDistances F D] in
theorem knnLoop_mono {passes passes' : ℕ} (hpasses : passes ≤ passes') {state final : KnnState D}
    (h : knnLoop index query k passes state = some final) :
    knnLoop index query k passes' state = some final := by
  induction passes generalizing passes' state with
  | zero =>
    rw [knnLoop] at h
    split_ifs at h with hpending
    cases passes' with
    | zero => rwa [knnLoop, if_neg hpending]
    | succ passes' => rwa [knnLoop, if_neg hpending]
  | succ passes ih =>
    cases passes' with
    | zero => exact absurd hpasses (Nat.not_succ_le_zero _)
    | succ passes' =>
      rw [knnLoop] at h ⊢
      by_cases hpending : 0 < state.pendingCount
      · rw [if_pos hpending] at h ⊢
        obtain ⟨next, hnext, hloop⟩ := Option.bind_eq_some_iff.mp h
        rw [hnext]
        exact ih (Nat.succ_le_succ_iff.mp hpasses) hloop
      · rw [if_neg hpending] at h ⊢
        exact h

end Loop

/-- On the index of any finite reference, a thread of the neighbour kernel never has more than 28
pending nodes and never faults, and it ends with the nearest points of its query, nearest first and
least index first among equals, whatever was in its memory. -/
theorem exactKnn_nearest [OrderedFloat F] [FiniteNumbers F] [OrderedFloat D] [FiniteNumbers D]
    [RoundedDistances F D] {reference : List (Vec3 F)} {query : Vec3 F} {k : ℕ} (nth : NthElement)
    (hlength : reference.length ≤ int32Max) (hfinite : ∀ p ∈ reference, p.finite = true)
    (hquery : query ∈ reference) (hk : 1 ≤ k) (hcount : k ≤ reference.length)
    {cells : List (D × ℤ)} (hcells : cells.length = k) {pending : List ℕ}
    (hpending : pending.length = pendingCapacity) :
    ∃ index, buildSpatialIndex D nth reference = .ok index ∧
      (∀ state, KnnReached index query k (knnStart cells pending) state →
        state.pendingCount ≤ 28 ∧
          (0 < state.pendingCount → ∃ next, knnStep index query k state = some next)) ∧
      ∃ final ids, (∀ passes, index.nodes.length ≤ passes →
          knnLoop index query k passes (knnStart cells pending) = some final) ∧
        final.cells = ids.map (entry D reference query) ∧ ids.length = k ∧
        LeastMembers (NearerIndex D reference query) k
          ((List.range reference.length).map Int.ofNat) ids := by
  obtain ⟨index, hindex, hperm, hpoints, height, hheight, hsubtree⟩ :=
    buildSpatialIndex_subtree (D := D) nth (List.ne_nil_of_mem hquery) hlength hfinite
  have hrange : SlotRange reference 1 ((List.range reference.length).map Int.ofNat) :=
    slotRange_all (hk.trans hcount)
  have henv : Searchable reference index query k (min 8 reference.length) :=
    ⟨hk, by omega, hfinite, hfinite query hquery, hpoints,
      fun c hc => hrange.members c (hperm.mem_iff.mp hc), hperm.nodup_iff.mpr hrange.nodup⟩
  have hstart : KnnInvariant reference index query k (min 8 reference.length)
      (knnStart cells pending) (index.nodes.length - 0 + 0) := by
    refine ⟨[0], index.originalIndices ++ [], [], [], ⟨?_, rfl, ?_⟩,
      .cons hsubtree (by simpa using hheight) .nil, ⟨hcells, rfl, rfl, .nil⟩, by simp⟩
    · rw [knnStart, List.length_set, hpending]
    · rw [knnStart, List.take_add_one, List.getElem?_set_self (by rw [hpending]; decide)]
      rfl
  refine ⟨index, hindex, fun state hreached => ?_, ?_⟩
  · obtain ⟨work, hstate⟩ := hreached.invariant henv hstart
    constructor
    · obtain ⟨stack, _, _, _, hstack, hstacked, -⟩ := hstate
      exact hstack.count_eq ▸ hstacked.length_le
    · intro hsome
      obtain ⟨next, _, hnext, -⟩ := knnStep_invariant henv hstate hsome
      exact ⟨next, hnext⟩
  · obtain ⟨final, hfinal, hdone, _, stack, remaining, seen, ids, hstack, hstacked, hkept, hall⟩ :=
      knnLoop_ends henv le_rfl hstart
    have hnil : stack = [] := List.length_eq_zero_iff.mp (hstack.count_eq.symm.trans hdone)
    subst hnil
    cases hstacked
    rw [List.append_nil] at hall
    have hleast := hkept.least.congr fun c => (hall.trans hperm).mem_iff
    have hids : ids.length = k := hleast.length_eq hrange.nodup (by simpa using hcount)
    refine ⟨final, ids, fun passes hpasses => knnLoop_mono hpasses hfinal, ?_, hids, hleast⟩
    rw [← hkept.take_eq, hkept.found_eq, hids, ← hkept.length_eq, List.take_length]

/-- Ten places along a line, two points at each: enough for several leaves. -/
def coincidentPoints : List (Vec3 (Exact ℚ)) :=
  (List.range 20).map fun i : ℕ => ⟨.fin (i / 2 : ℕ), 0, 0⟩

theorem exactKnn_nearest_coincident :
    ∃ index, buildSpatialIndex (Exact ℚ) .sorting coincidentPoints = .ok index ∧
      (∀ state, KnnReached index ⟨.fin 4, 0, 0⟩ 3
          (knnStart (List.replicate 3 ((.nan : Exact ℚ), 7)) (List.replicate 64 9)) state →
        state.pendingCount ≤ 28 ∧
          (0 < state.pendingCount → ∃ next, knnStep index ⟨.fin 4, 0, 0⟩ 3 state = some next)) ∧
      ∃ final ids, (∀ passes, index.nodes.length ≤ passes →
          knnLoop index ⟨.fin 4, 0, 0⟩ 3 passes
            (knnStart (List.replicate 3 ((.nan : Exact ℚ), 7)) (List.replicate 64 9)) =
              some final) ∧
        final.cells = ids.map (entry (Exact ℚ) coincidentPoints ⟨.fin 4, 0, 0⟩) ∧ ids.length = 3 ∧
        LeastMembers (NearerIndex (Exact ℚ) coincidentPoints ⟨.fin 4, 0, 0⟩) 3
          ((List.range coincidentPoints.length).map Int.ofNat) ids := by
  apply exactKnn_nearest .sorting
  · decide
  · decide +kernel
  · decide +kernel
  · decide
  · decide
  · exact List.length_replicate
  · exact List.length_replicate

end PointcloudAd.Cuda
