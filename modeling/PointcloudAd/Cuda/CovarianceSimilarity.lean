import PointcloudAd.Cuda.CovarianceKernel
import PointcloudAd.Library.JacobiRotation
import PointcloudAd.Registration.NormalEquations

/-!
# The covariance of a neighbourhood is regularized in an orthonormal basis

Over the real numbers the rotations of a thread keep the matrix that they started from, up to a
change of the orthonormal basis, and what the thread writes weighs the axis of the least entry.
-/

namespace PointcloudAd.Cuda

open Library Registration Matrix

theorem insertId_spec (value : ℤ) (front : List ℤ) (x : ℤ) (rest : List ℤ) :
    ∃ sorted, insertId value front.length (front ++ x :: rest) = sorted ++ rest ∧
      sorted.Perm (value :: front) ∧ (front.Pairwise (· ≤ ·) → sorted.Pairwise (· ≤ ·)) := by
  induction front using List.reverseRecOn generalizing x rest with
  | nil => exact ⟨[value], rfl, .refl _, fun _ => List.pairwise_singleton _ _⟩
  | append_singleton front last ih =>
    have hbefore : (front ++ [last] ++ x :: rest).getD front.length 0 = last := by simp
    have hlength : (front ++ [last]).length = front.length + 1 := by simp
    rw [hlength, insertId, hbefore]
    by_cases hless : value < last
    · obtain ⟨sorted, heq, hperm, hsorted⟩ := ih last (last :: rest)
      have hset : (front ++ [last] ++ x :: rest).set (front.length + 1) last =
          front ++ last :: last :: rest := by simp
      refine ⟨sorted ++ [last], ?_, ?_, fun hfront => ?_⟩
      · rw [if_pos hless, hset, heq, List.append_assoc]
        rfl
      · exact (hperm.append_right [last]).trans (.refl _)
      · rw [List.pairwise_append] at hfront ⊢
        refine ⟨hsorted hfront.1, hfront.2.1, fun a ha b hb => ?_⟩
        rcases List.mem_cons.mp (hperm.subset ha) with rfl | ha
        · exact List.eq_of_mem_singleton hb ▸ hless.le
        · exact hfront.2.2 a ha b hb
    · refine ⟨front ++ [last] ++ [value], ?_, ?_, fun hfront => ?_⟩
      · rw [if_neg hless]
        simp
      · exact List.perm_append_singleton value _
      · refine List.pairwise_append.mpr ⟨hfront, List.pairwise_singleton _ _, fun a ha b hb => ?_⟩
        rw [List.eq_of_mem_singleton hb]
        rcases List.mem_append.mp ha with ha | ha
        · exact ((List.pairwise_append.mp hfront).2.2 a ha last (List.mem_singleton_self _)).trans
            (not_lt.mp hless)
        · exact List.eq_of_mem_singleton ha ▸ not_lt.mp hless

theorem sortIds_spec (ids : List ℤ) :
    (sortIds ids).Perm ids ∧ (sortIds ids).Pairwise (· ≤ ·) := by
  rcases ids with - | ⟨first, others⟩
  · exact ⟨.refl _, .nil⟩
  have hloop : ∀ n, n ≤ others.length → ∃ front,
      (List.range' 1 n).foldl (fun ids j => insertId (ids.getD j 0) j ids) (first :: others) =
        front ++ others.drop n ∧ front.Perm (first :: others.take n) ∧
      front.Pairwise (· ≤ ·) := by
    intro n hn
    induction n with
    | zero => exact ⟨[first], rfl, .refl _, List.pairwise_singleton _ _⟩
    | succ n ih =>
      obtain ⟨front, heq, hperm, hsorted⟩ := ih (Nat.le_of_succ_le hn)
      have hlength : front.length = 1 + n := by
        rw [hperm.length_eq, List.length_cons, List.length_take_of_le (Nat.le_of_succ_le hn),
          Nat.add_comm]
      have hdrop : others.drop n = others[n] :: others.drop (n + 1) := List.drop_eq_getElem_cons hn
      have hvalue : ∀ x rest, (front ++ x :: rest).getD front.length 0 = x := by simp
      obtain ⟨sorted, hinsert, hinsertPerm, hinsertSorted⟩ :=
        insertId_spec others[n] front others[n] (others.drop (n + 1))
      refine ⟨sorted, ?_, ?_, hinsertSorted hsorted⟩
      · rw [List.range'_concat, List.foldl_append, heq, hdrop, Nat.one_mul, ← hlength,
          List.foldl_cons, List.foldl_nil, hvalue, hinsert]
      · rw [← List.take_concat_get' others n hn]
        exact hinsertPerm.trans ((hperm.cons _).trans
          (List.perm_append_singleton others[n] (first :: others.take n)).symm)
  obtain ⟨front, heq, hperm, hsorted⟩ := hloop others.length le_rfl
  have hfront : sortIds (first :: others) = front :=
    heq.trans (by rw [List.drop_length, List.append_nil])
  rw [List.take_length] at hperm
  exact hfront ▸ ⟨hperm, hsorted⟩

theorem sortIds_perm {ids ids' : List ℤ} (h : ids.Perm ids') : sortIds ids = sortIds ids' :=
  List.Perm.eq_of_pairwise (fun _ _ _ _ => le_antisymm) (sortIds_spec ids).2 (sortIds_spec ids').2
    (((sortIds_spec ids).1.trans h).trans (sortIds_spec ids').1.symm)

/-- What the language's standard says of the sign of one value put on another. -/
structure CopiesSign (copysign : ℝ → ℝ → ℝ) : Prop where
  magnitude : ∀ a b, |copysign a b| = |a|
  sign : ∀ a b, 0 ≤ copysign a b * b

theorem setEntry_apply {D : Type} [FloatArith D] (matrix : Mat3 D) (r c i j : Fin 3) (value : D) :
    setEntry matrix r c value i j = if i = r ∧ j = c then value else matrix i j := by
  by_cases hi : i = r
  · subst hi
    simp [setEntry, Function.update_apply]
  · simp [setEntry, hi]

theorem pivotOf_lt {D : Type} [FloatArith D] (matrix : Mat3 D) :
    (pivotOf matrix).1 < (pivotOf matrix).2 := by
  simp only [pivotOf]
  split_ifs <;> decide

section

variable {p q : Fin 3} {t c s : ℝ}

theorem turnRow_vectors (hpq : p ≠ q) (state : JacobiState ℝ) (r : Fin 3) :
    (turnRow p q c s state r).vectors =
      Function.update state.vectors r (turn p q c s (state.vectors r)) := by
  funext i j
  simp only [turnRow, setEntry_apply]
  by_cases hi : i = r
  · subst hi
    simp only [Function.update_self, true_and, turn]
    split_ifs with hq hp
    · exact absurd (hp.symm.trans hq) hpq
    · rfl
    · rfl
    · rfl
  · simp only [Function.update_of_ne hi, hi, false_and, if_false]

theorem rotatePlane_vectors (hpq : p ≠ q) (M V : Mat3 ℝ) :
    Matrix.of (rotatePlane p q t c s ⟨M, V⟩).vectors = Matrix.of V * planeRotation p q c s := by
  have hloop : List.finRange 3 = [0, 1, 2] := rfl
  funext i
  rw [mul_planeRotation hpq]
  change (rotatePlane p q t c s ⟨M, V⟩).vectors i = turn p q c s (V i)
  simp only [rotatePlane, hloop, List.foldl_cons, List.foldl_nil, turnRow_vectors hpq]
  fin_cases i <;> simp

/-- What a rotation writes: in its plane, and in the row and the column outside the plane. -/
structure PlaneRotated (p q : Fin 3) (t c s : ℝ) (M N : Mat3 ℝ) : Prop where
  diagonal : N p p = M p p - t * M p q ∧ N q q = M q q + t * M p q
  cleared : N p q = 0 ∧ N q p = 0
  left : ∀ r, r ≠ p → r ≠ q → N r p = c * M r p - s * M r q ∧ N p r = N r p
  right : ∀ r, r ≠ p → r ≠ q → N r q = s * M r p + c * M r q ∧ N q r = N r q
  outside : ∀ r, r ≠ p → r ≠ q → N r r = M r r

theorem rotatePlane_rotated (hpq : p < q) (state : JacobiState ℝ) :
    PlaneRotated p q t c s state.matrix (rotatePlane p q t c s state).matrix := by
  have hloop : List.finRange 3 = [0, 1, 2] := rfl
  revert hpq
  fin_cases p <;> fin_cases q <;> intro hpq <;> try exact absurd hpq (by decide)
  all_goals
    constructor
    all_goals
      simp [Fin.forall_fin_succ, rotatePlane, hloop, turnRow, setEntry_apply]

/-- The entries that a rotation by Jacobi's angle writes are those of the similar matrix. -/
theorem PlaneRotated.similar (hpq : p < q) {M N : Mat3 ℝ} (hrotated : PlaneRotated p q t c s M N)
    (hsymm : (Matrix.of M)ᵀ = Matrix.of M) (h : JacobiAngle (Matrix.of M) p q c s t) :
    Matrix.of N = (planeRotation p q c s)ᵀ * Matrix.of M * planeRotation p q c s := by
  set A := (planeRotation p q c s)ᵀ * Matrix.of M * planeRotation p q c s with hA
  have hA_symm : ∀ i j, A i j = A j i := by
    intro i j
    have htransposed : Aᵀ = A := by
      rw [hA, Matrix.transpose_mul, Matrix.transpose_mul, Matrix.transpose_transpose, hsymm,
        Matrix.mul_assoc]
    exact congrFun (congrFun htransposed j) i
  have hleft : ∀ r, r ≠ p → r ≠ q → N r p = A r p := fun r hp hq =>
    (hrotated.left r hp hq).1.trans (rotated_left hpq.ne (Matrix.of M) hp hq).symm
  have hright : ∀ r, r ≠ p → r ≠ q → N r q = A r q := fun r hp hq =>
    (hrotated.right r hp hq).1.trans (rotated_right hpq.ne (Matrix.of M) hp hq).symm
  funext i j
  change N i j = A i j
  by_cases hip : i = p
  · subst hip
    by_cases hjp : j = i
    · subst hjp
      exact hrotated.diagonal.1.trans (h.diagonal_left hpq.ne hsymm).symm
    by_cases hjq : j = q
    · subst hjq
      exact hrotated.cleared.1.trans (h.pivot hpq.ne hsymm).symm
    · rw [(hrotated.left j hjp hjq).2, hleft j hjp hjq, hA_symm]
  by_cases hiq : i = q
  · subst hiq
    by_cases hjp : j = p
    · subst hjp
      rw [hrotated.cleared.2, hA_symm]
      exact (h.pivot hpq.ne hsymm).symm
    by_cases hjq : j = i
    · subst hjq
      exact hrotated.diagonal.2.trans (h.diagonal_right hpq.ne hsymm).symm
    · rw [(hrotated.right j hjp hjq).2, hright j hjp hjq, hA_symm]
  by_cases hjp : j = p
  · subst hjp
    exact hleft i hip hiq
  by_cases hjq : j = q
  · subst hjq
    exact hright i hip hiq
  · have hij : i = j := by omega
    subst hij
    exact (hrotated.outside i hip hiq).trans
      (rotated_other hpq.ne (Matrix.of M) hip hiq hip hiq).symm

end

section

variable {copysign : ℝ → ℝ → ℝ} {state : JacobiState ℝ}

theorem step_angle (hcopysign : CopiesSign copysign) {M : Mat3 ℝ} {p q : Fin 3}
    (hpivot : M p q ≠ 0) :
    let t := tangent copysign (doubleCotangent M p q)
    JacobiAngle (Matrix.of M) p q (1 / √(1 + t * t)) (t * (1 / √(1 + t * t))) t := by
  intro t
  set tau := doubleCotangent M p q with htau
  have hunit : |copysign 1 tau| = 1 := (hcopysign.magnitude 1 tau).trans abs_one
  have hsquare : copysign 1 tau ^ 2 = 1 := by rw [← sq_abs, hunit, one_pow]
  have hproduct : copysign 1 tau * tau = |tau| := by
    rw [← abs_of_nonneg (hcopysign.sign 1 tau), abs_mul, hunit, one_mul]
  have hquotient : tau = (M q q - M p p) / (2 * M p q) := by
    rw [htau, doubleCotangent, real_lit, Rat.cast_ofNat]
  exact jacobiAngle_of_cotangent hpivot hquotient hsquare hproduct rfl rfl

/-- A step in matrix terms: a rotation at Jacobi's angle in the plane of the pivot. -/
theorem jacobiStep_rotation (hcopysign : CopiesSign copysign)
    (hsymm : (Matrix.of state.matrix)ᵀ = Matrix.of state.matrix)
    (hsettled : settled state.matrix = false) :
    ∃ c s t, JacobiAngle (Matrix.of state.matrix) (pivotOf state.matrix).1
        (pivotOf state.matrix).2 c s t ∧
      Matrix.of (jacobiStep copysign state).matrix =
        (planeRotation (pivotOf state.matrix).1 (pivotOf state.matrix).2 c s)ᵀ *
          Matrix.of state.matrix *
          planeRotation (pivotOf state.matrix).1 (pivotOf state.matrix).2 c s ∧
      Matrix.of (jacobiStep copysign state).vectors =
        Matrix.of state.vectors *
          planeRotation (pivotOf state.matrix).1 (pivotOf state.matrix).2 c s := by
  have hpivot : state.matrix (pivotOf state.matrix).1 (pivotOf state.matrix).2 ≠ 0 := by
    intro hzero
    have hequal : settled state.matrix = true := by
      unfold settled
      rw [hzero]
      exact Bool.or_eq_true_iff.mpr (.inr (decide_eq_true rfl))
    exact Bool.false_ne_true (hsettled.symm.trans hequal)
  have hlt := pivotOf_lt state.matrix
  have hangle := step_angle hcopysign hpivot
  exact ⟨_, _, _, hangle, (rotatePlane_rotated hlt state).similar hlt hsymm hangle,
    rotatePlane_vectors hlt.ne state.matrix state.vectors⟩

theorem jacobiStep_squares (hcopysign : CopiesSign copysign)
    (hsymm : (Matrix.of state.matrix)ᵀ = Matrix.of state.matrix)
    (hsettled : settled state.matrix = false) :
    (jacobiStep copysign state).matrix (pivotOf state.matrix).1 (pivotOf state.matrix).2 = 0 ∧
      offSquares (Matrix.of (jacobiStep copysign state).matrix) =
        offSquares (Matrix.of state.matrix) -
          2 * state.matrix (pivotOf state.matrix).1 (pivotOf state.matrix).2 ^ 2 := by
  obtain ⟨c, s, t, hangle, hmatrix, -⟩ := jacobiStep_rotation hcopysign hsymm hsettled
  have hne := (pivotOf_lt state.matrix).ne
  constructor
  · exact (congrFun (congrFun hmatrix _) _).trans (hangle.pivot hne hsymm)
  · rw [hmatrix, hangle.offSquares hne hsymm]
    rfl

theorem JacobiReached.similar (hcopysign : CopiesSign copysign) {start : JacobiState ℝ}
    {A : Matrix (Fin 3) (Fin 3) ℝ}
    (hstart : SimilarIn A (Matrix.of start.matrix) (Matrix.of start.vectors)) {made : ℕ}
    (h : JacobiReached copysign start made state) :
    SimilarIn A (Matrix.of state.matrix) (Matrix.of state.vectors) := by
  induction h with
  | start => exact hstart
  | @step made state hreached hpasses hsettled ih =>
    obtain ⟨c, s, t, hangle, hmatrix, hvectors⟩ :=
      jacobiStep_rotation hcopysign ih.symmetric hsettled
    rw [hmatrix, hvectors]
    exact ih.rotate (pivotOf_lt state.matrix).ne hangle.unit

theorem jacobiLoop_reached (copysign : ℝ → ℝ → ℝ) {start state : JacobiState ℝ} {made : ℕ}
    (hreached : JacobiReached copysign start made state) (passes : ℕ)
    (hpasses : made + passes = jacobiPasses) :
    ∃ total, JacobiReached copysign start total (jacobiLoop copysign passes state) ∧
      (settled (jacobiLoop copysign passes state).matrix = true ∨ total = jacobiPasses) := by
  induction passes generalizing made state with
  | zero => exact ⟨made, hreached, .inr hpasses⟩
  | succ passes ih =>
    rw [jacobiLoop]
    cases hsettled : settled state.matrix with
    | true => exact ⟨made, hreached, .inl hsettled⟩
    | false => exact ih (hreached.step (by omega) hsettled) (by omega)

theorem JacobiReached.made_le {copysign : ℝ → ℝ → ℝ} {start state : JacobiState ℝ} {made : ℕ}
    (h : JacobiReached copysign start made state) : made ≤ jacobiPasses := by
  cases h with
  | start => exact Nat.zero_le _
  | step hreached hpasses hsettled => exact hpasses

end

section

variable (original : List (Vec3 ℝ)) (ids : List ℤ)

/-- The centre of some neighbours. -/
noncomputable def centre : Fin 3 → ℝ :=
  (ids.length : ℝ)⁻¹ • (ids.map fun id => coordinates (referencePoint original id)).sum

/-- The scatter matrix of some neighbours. -/
noncomputable def scatterMatrix : Matrix (Fin 3) (Fin 3) ℝ :=
  (ids.map fun id =>
    vecMulVec (coordinates (referencePoint original id) - centre original ids)
      (coordinates (referencePoint original id) - centre original ids)).sum

theorem centre_perm {ids ids' : List ℤ} (h : ids.Perm ids') :
    centre original ids = centre original ids' := by
  rw [centre, centre, h.length_eq, (h.map _).sum_eq]

theorem scatterMatrix_perm {ids ids' : List ℤ} (h : ids.Perm ids') :
    scatterMatrix original ids = scatterMatrix original ids' := by
  rw [scatterMatrix, scatterMatrix, centre_perm original h, (h.map _).sum_eq]

theorem neighborMean_centre : neighborMean original ids = centre original ids := by
  have hloop : ∀ start : Fin 3 → ℝ, ids.foldl
      (fun mean id axis => mean axis + wideCoordinates (referencePoint original id) axis) start =
        start + (ids.map fun id => coordinates (referencePoint original id)).sum := by
    intro start
    induction ids generalizing start with
    | nil => exact (add_zero start).symm
    | cons id ids ih =>
      rw [List.foldl_cons, ih, List.map_cons, List.sum_cons, ← add_assoc]
      rfl
  funext axis
  simp only [neighborMean, hloop, centre, Pi.smul_apply, Pi.add_apply, zero_add, real_lit,
    Rat.cast_natCast, smul_eq_mul, div_eq_inv_mul]

theorem scatter_matrix :
    Matrix.of (scatter original (neighborMean original ids) ids) = scatterMatrix original ids := by
  have hloop : ∀ (centre : Fin 3 → ℝ) (start : Mat3 ℝ), Matrix.of (ids.foldl
      (fun matrix id =>
        let delta axis := wideCoordinates (referencePoint original id) axis - centre axis
        fun r c => matrix r c + delta r * delta c) start) =
      Matrix.of start + (ids.map fun id =>
        vecMulVec (coordinates (referencePoint original id) - centre)
        (coordinates (referencePoint original id) - centre)).sum := by
    intro centre start
    induction ids generalizing start with
    | nil => exact (add_zero _).symm
    | cons id ids ih =>
      rw [List.foldl_cons, ih, List.map_cons, List.sum_cons, ← add_assoc]
      rfl
  rw [scatter, hloop, neighborMean_centre, scatterMatrix]
  exact zero_add _

theorem covarianceStart_similar :
    SimilarIn (scatterMatrix original ids) (Matrix.of (covarianceStart original ids).matrix)
      (Matrix.of (covarianceStart original ids).vectors) := by
  have hmatrix : Matrix.of (covarianceStart original ids).matrix = scatterMatrix original ids :=
    (scatter_matrix original (sortIds ids)).trans (scatterMatrix_perm original (sortIds_spec ids).1)
  have hvectors : Matrix.of (covarianceStart (D := ℝ) original ids).vectors = 1 := by
    ext r c
    exact (Matrix.one_apply).symm
  rw [hmatrix, hvectors]
  constructor
  · have hterm : ∀ d : Fin 3 → ℝ, (vecMulVec d d)ᵀ = vecMulVec d d := fun d =>
      Matrix.transpose_vecMulVec d d
    rw [scatterMatrix, Matrix.transpose_list_sum, List.map_map]
    congr 1
    exact List.map_congr_left fun id _ => hterm _
  · rw [Matrix.transpose_one, Matrix.mul_one]
  · rw [Matrix.transpose_one, Matrix.mul_one, Matrix.one_mul]

end

theorem axisOrder_eq (matrix : Mat3 ℝ) : axisOrder matrix =
    if matrix 1 1 < matrix 0 0 then
      if matrix 2 2 < matrix 0 0 then
        if matrix 2 2 < matrix 1 1 then [2, 1, 0] else [1, 2, 0]
      else [1, 0, 2]
    else if matrix 2 2 < matrix 1 1 then
      if matrix 2 2 < matrix 0 0 then [2, 0, 1] else [0, 2, 1]
    else [0, 1, 2] := by
  by_cases h10 : matrix 1 1 < matrix 0 0 <;> by_cases h20 : matrix 2 2 < matrix 0 0 <;>
    by_cases h21 : matrix 2 2 < matrix 1 1 <;> simp [axisOrder, sinkAxis, h10, h20, h21]

theorem axisOrder_sorted (matrix : Mat3 ℝ) :
    (axisOrder matrix).Perm [0, 1, 2] ∧
      (axisOrder matrix).Pairwise fun a b => matrix a a ≤ matrix b b := by
  rw [axisOrder_eq]
  split_ifs with h10 h20 h21 h21 h20
  · exact ⟨by decide, by simp [h21.le, h10.le, h20.le]⟩
  · exact ⟨by decide, by simp [not_lt.mp h21, h10.le, h20.le]⟩
  · exact ⟨by decide, by simp [h10.le, not_lt.mp h20, h10.le.trans (not_lt.mp h20)]⟩
  · exact ⟨by decide, by simp [h20.le, h21.le, not_lt.mp h10]⟩
  · exact ⟨by decide, by simp [not_lt.mp h20, h21.le, not_lt.mp h10]⟩
  · exact ⟨by decide, by
      simp [not_lt.mp h10, not_lt.mp h21, (not_lt.mp h10).trans (not_lt.mp h21)]⟩

theorem axisOrder_least (matrix : Mat3 ℝ) (axis : Fin 3) :
    matrix ((axisOrder matrix).getD 0 0) ((axisOrder matrix).getD 0 0) ≤ matrix axis axis := by
  obtain ⟨hperm, hsorted⟩ := axisOrder_sorted matrix
  have hmem : axis ∈ axisOrder matrix := hperm.mem_iff.mpr (by fin_cases axis <;> decide)
  cases horder : axisOrder matrix with
  | nil => exact absurd (horder ▸ hmem) List.not_mem_nil
  | cons first others =>
    rw [horder] at hmem hsorted
    rcases List.mem_cons.mp hmem with rfl | hothers
    · exact le_rfl
    · exact List.rel_of_pairwise_cons hsorted hothers

theorem unflattened_flatten3 (m : Mat3 ℝ) : unflattened (flatten3 m) = Matrix.of m := by
  ext r c
  fin_cases r <;> fin_cases c <;> rfl

open Polynomial in
/-- What a thread writes for a neighbourhood, from the state that its rotations end in. -/
structure Regularized (final : JacobiState ℝ) (epsilon : ℝ) (result : Covariance ℝ) : Prop where
  weighted : unflattened result = Matrix.of final.vectors *
    Matrix.diagonal (Function.update 1 ((axisOrder final.matrix).getD 0 0) epsilon) *
    (Matrix.of final.vectors)ᵀ
  symmetric : (unflattened result)ᵀ = unflattened result
  eigenvalues : (unflattened result).charpoly = (X - C epsilon) * (X - C 1) ^ 2

theorem regularized_written {final : JacobiState ℝ}
    (horthogonal : Matrix.of final.vectors * (Matrix.of final.vectors)ᵀ = 1) (epsilon : ℝ) :
    Regularized final epsilon
      (flatten3 (regularized epsilon final.vectors ((axisOrder final.matrix).getD 0 0))) := by
  set axis := (axisOrder final.matrix).getD 0 0
  have hweighted : unflattened (flatten3 (regularized epsilon final.vectors axis)) =
      Matrix.of final.vectors * Matrix.diagonal (Function.update 1 axis epsilon) *
        (Matrix.of final.vectors)ᵀ :=
    (unflattened_flatten3 _).trans (weighted_axis horthogonal axis epsilon).symm
  refine ⟨hweighted, ?_, ?_⟩
  · rw [hweighted, weighted_symmetric]
  · rw [hweighted, weighted_axis_charpoly horthogonal, Fintype.card_fin]

/-- A launch writes what its threads compute to their places, and sets the flag when one of them
has nothing to write. -/
theorem covarianceKernel_writes {F D : Type} [FloatArith F] [FloatArith D] [Floats F D]
    (copysign : D → D → D) (original : List (Vec3 F)) (neighbors : List ℤ) (offset count k : ℕ)
    (epsilon : D) (memory : List (Covariance D) × Bool)
    (hcount : offset + count ≤ memory.1.length) :
    let thread i := covarianceThread copysign original epsilon (threadIds neighbors k i)
    let after := covarianceKernel copysign original neighbors offset count k epsilon memory
    after.1.length = memory.1.length ∧
      (∀ j, after.1[j]? = if offset ≤ j ∧ j < offset + count then
        (thread (j - offset)).or memory.1[j]? else memory.1[j]?) ∧
      (after.2 = true ↔ memory.2 = true ∨ ∃ i < count, thread i = none) := by
  intro thread
  induction count with
  | zero =>
    refine ⟨rfl, fun j => (if_neg (by omega)).symm, ?_⟩
    simp [covarianceKernel]
  | succ count ih =>
    obtain ⟨hlength, hentries, hflag⟩ := ih (by omega)
    set before := covarianceKernel copysign original neighbors offset count k epsilon memory
    have hafter : covarianceKernel copysign original neighbors offset (count + 1) k epsilon memory =
        covarianceWrite copysign original neighbors offset k epsilon before count := by
      rw [covarianceKernel, List.range_succ, List.foldl_append]
      rfl
    rw [hafter, covarianceWrite]
    cases hthread : thread count with
    | none =>
      rw [show covarianceThread copysign original epsilon (threadIds neighbors k count) = none from
        hthread]
      refine ⟨hlength, fun j => ?_, ?_⟩
      · rw [hentries]
        rcases eq_or_ne j (offset + count) with rfl | hj
        · rw [if_neg (by omega), if_pos (by omega), Nat.add_sub_cancel_left, hthread]
          rfl
        · have hiff : offset ≤ j ∧ j < offset + (count + 1) ↔ offset ≤ j ∧ j < offset + count := by
            omega
          simp only [hiff]
      · simp only [true_iff]
        exact .inr ⟨count, Nat.lt_succ_self _, hthread⟩
    | some result =>
      rw [show covarianceThread copysign original epsilon (threadIds neighbors k count) =
        some result from hthread]
      refine ⟨(List.length_set).trans hlength, fun j => ?_, ?_⟩
      · rcases eq_or_ne j (offset + count) with rfl | hj
        · rw [List.getElem?_set_self (by omega), if_pos (by omega),
            Nat.add_sub_cancel_left, hthread]
          rfl
        · rw [List.getElem?_set_ne hj.symm, hentries]
          have hiff : offset ≤ j ∧ j < offset + (count + 1) ↔ offset ≤ j ∧ j < offset + count := by
            omega
          simp only [hiff]
      · rw [hflag]
        simp only [Nat.lt_succ_iff_lt_or_eq, or_and_right, exists_or, exists_eq_left, hthread,
          reduceCtorEq, or_false]

theorem covarianceThread_perm {F D : Type} [FloatArith F] [FloatArith D] [Floats F D]
    (copysign : D → D → D) (original : List (Vec3 F)) (epsilon : D) {ids ids' : List ℤ}
    (h : ids.Perm ids') : covarianceThread copysign original epsilon ids =
      covarianceThread copysign original epsilon ids' := by
  have hfinal : covarianceFinal copysign original ids = covarianceFinal copysign original ids' := by
    rw [covarianceFinal, covarianceFinal, covarianceStart, covarianceStart, sortIds_perm h]
  rw [covarianceThread, covarianceThread, hfinal]

theorem covarianceThread_writes (copysign : ℝ → ℝ → ℝ) (original : List (Vec3 ℝ)) (epsilon : ℝ)
    (ids : List ℤ) :
    (∃ result, covarianceThread copysign original epsilon ids = some result) ↔
      1 / 10 ^ 12 < (covarianceFinal copysign original ids).matrix
        ((axisOrder (covarianceFinal copysign original ids).matrix).getD 1 0)
        ((axisOrder (covarianceFinal copysign original ids).matrix).getD 1 0) := by
  have hlimit : (lit (1 / 10 ^ 12) : ℝ) = 1 / 10 ^ 12 := by norm_num
  rw [← Option.isSome_iff_exists, covarianceThread, hlimit, ← not_le]
  simp only [real_isFinite, not_true_eq_false, false_or]
  split_ifs with hle
  · exact iff_of_false Bool.false_ne_true (not_not_intro hle)
  · exact iff_of_true rfl hle

/-- The rotations of a thread keep its scatter matrix in a turned basis, each one clears its pivot
and moves nothing out of the diagonal. A thread whose middle diagonal entry counts, and no other
one, writes a matrix, which weighs the axis of the least entry by the regularization, whatever the
order of its neighbours. -/
theorem covariance_similarity (copysign : ℝ → ℝ → ℝ) (hcopysign : CopiesSign copysign)
    (original : List (Vec3 ℝ)) (epsilon : ℝ) (ids : List ℤ) :
    (∀ made state, JacobiReached copysign (covarianceStart original ids) made state →
      made ≤ 48 ∧
      SimilarIn (scatterMatrix original ids) (Matrix.of state.matrix) (Matrix.of state.vectors) ∧
      (settled state.matrix = false →
        (jacobiStep copysign state).matrix (pivotOf state.matrix).1 (pivotOf state.matrix).2 = 0 ∧
        offSquares (Matrix.of (jacobiStep copysign state).matrix) ≤
          offSquares (Matrix.of state.matrix))) ∧
    (∃ made, JacobiReached copysign (covarianceStart original ids) made
      (covarianceFinal copysign original ids)) ∧
    ((axisOrder (covarianceFinal copysign original ids).matrix).Perm [0, 1, 2] ∧
      (axisOrder (covarianceFinal copysign original ids).matrix).Pairwise fun a b =>
        (covarianceFinal copysign original ids).matrix a a ≤
          (covarianceFinal copysign original ids).matrix b b) ∧
    (∀ axis, (covarianceFinal copysign original ids).matrix
        ((axisOrder (covarianceFinal copysign original ids).matrix).getD 0 0)
        ((axisOrder (covarianceFinal copysign original ids).matrix).getD 0 0) ≤
      (covarianceFinal copysign original ids).matrix axis axis) ∧
    ((∃ result, covarianceThread copysign original epsilon ids = some result) ↔
      1 / 10 ^ 12 < (covarianceFinal copysign original ids).matrix
        ((axisOrder (covarianceFinal copysign original ids).matrix).getD 1 0)
        ((axisOrder (covarianceFinal copysign original ids).matrix).getD 1 0)) ∧
    (∀ result, covarianceThread copysign original epsilon ids = some result →
      Regularized (covarianceFinal copysign original ids) epsilon result) ∧
    ∀ ids', ids.Perm ids' → covarianceThread copysign original epsilon ids' =
      covarianceThread copysign original epsilon ids := by
  have hsimilar := fun made state (h : JacobiReached copysign (covarianceStart original ids) made
    state) => h.similar hcopysign (covarianceStart_similar original ids)
  obtain ⟨total, hfinal, -⟩ := jacobiLoop_reached copysign
    (.start : JacobiReached copysign (covarianceStart original ids) 0 _) jacobiPasses
    (Nat.zero_add _)
  refine ⟨fun made state h => ⟨h.made_le, hsimilar made state h, fun hsettled => ?_⟩,
    ⟨total, hfinal⟩, axisOrder_sorted _, axisOrder_least _,
    covarianceThread_writes copysign original epsilon ids, fun result hresult => ?_,
    fun ids' h => (covarianceThread_perm copysign original epsilon h).symm⟩
  · obtain ⟨hzero, hsquares⟩ :=
      jacobiStep_squares hcopysign (hsimilar made state h).symmetric hsettled
    refine ⟨hzero, ?_⟩
    rw [hsquares]
    exact sub_le_self _ (mul_nonneg zero_le_two (sq_nonneg _))
  · simp only [covarianceThread, ite_eq_iff, reduceCtorEq, and_false, false_or,
      Option.some.injEq] at hresult
    rw [← hresult.2]
    exact regularized_written (hsimilar total _ hfinal).orthogonal epsilon

section Tilted

/-- The sign of a value that has no sign of its own is taken as positive. -/
noncomputable def signedMagnitude (a b : ℝ) : ℝ := if b < 0 then -|a| else |a|

theorem signedMagnitude_copies : CopiesSign signedMagnitude := by
  constructor
  · intro a b
    by_cases hb : b < 0
    · simp only [signedMagnitude, if_pos hb, abs_neg, abs_abs]
    · simp only [signedMagnitude, if_neg hb, abs_abs]
  · intro a b
    by_cases hb : b < 0
    · simp only [signedMagnitude, if_pos hb]
      exact mul_nonneg_of_nonpos_of_nonpos (neg_nonpos.mpr (abs_nonneg a)) hb.le
    · simp only [signedMagnitude, if_neg hb]
      exact mul_nonneg (abs_nonneg a) (not_lt.mp hb)

/-- Points along the diagonals of a square, and above and below it. -/
def tilted : List (Vec3 ℝ) :=
  ([(2, 2, 0), (-2, -2, 0), (1, -1, 0), (-1, 1, 0), (0, 0, 10), (0, 0, -10)] :
    List (ℤ × ℤ × ℤ)).map fun p => ⟨p.1, p.2.1, p.2.2⟩

theorem tilted_start : covarianceStart tilted [5, 0, 3, 1, 2, 4] =
    jacobiStart (![![10, 6, 0], ![6, 10, 0], ![0, 0, 200]] : Mat3 ℝ) := by
  have hsorted : sortIds [5, 0, 3, 1, 2, 4] = [0, 1, 2, 3, 4, 5] := by decide
  have hmean : (neighborMean tilted [0, 1, 2, 3, 4, 5] : Fin 3 → ℝ) = fun _ => 0 := by
    funext axis
    fin_cases axis <;> simp [neighborMean, wideCoordinates, referencePoint, tilted]
  unfold covarianceStart
  rw [hsorted, hmean]
  congr 1
  funext r c
  fin_cases r <;> fin_cases c <;> simp [scatter, wideCoordinates, referencePoint, tilted] <;>
    norm_num

/-- The turn in the plane of the square by an eighth of a full one. -/
theorem tilted_step : jacobiStep signedMagnitude
    (jacobiStart (![![10, 6, 0], ![6, 10, 0], ![0, 0, 200]] : Mat3 ℝ)) =
      ⟨![![4, 0, 0], ![0, 16, 0], ![0, 0, 200]],
        ![![1 / √2, 1 / √2, 0], ![-(1 / √2), 1 / √2, 0], ![0, 0, 1]]⟩ := by
  set start : JacobiState ℝ :=
    jacobiStart (![![10, 6, 0], ![6, 10, 0], ![0, 0, 200]] : Mat3 ℝ) with hstart
  have hpivot : pivotOf start.matrix = (0, 1) := by
    have hnot : ¬ (6 : ℝ) < 0 := by norm_num
    simp [pivotOf, hstart, jacobiStart, hnot]
  have htangent : tangent signedMagnitude (doubleCotangent start.matrix 0 1) = 1 := by
    simp [tangent, doubleCotangent, signedMagnitude, hstart, jacobiStart]
  have hstep : jacobiStep signedMagnitude start = rotatePlane 0 1 1 (1 / √2) (1 / √2) start := by
    unfold jacobiStep
    simp only [hpivot, htangent, real_sqrt, one_mul]
    rw [show √(1 + 1 : ℝ) = √2 by norm_num]
  have hmatrix : (rotatePlane 0 1 1 (1 / √2) (1 / √2) start).matrix =
      ![![4, 0, 0], ![0, 16, 0], ![0, 0, 200]] := by
    funext r c
    fin_cases r <;> fin_cases c <;>
      simp [rotatePlane, List.finRange, turnRow, setEntry_apply, hstart, jacobiStart] <;> norm_num
  have hvectors : (rotatePlane 0 1 1 (1 / √2) (1 / √2) start).vectors =
      ![![1 / √2, 1 / √2, 0], ![-(1 / √2), 1 / √2, 0], ![0, 0, 1]] := by
    funext r c
    fin_cases r <;> fin_cases c <;>
      simp [rotatePlane, List.finRange, turnRow, setEntry_apply, hstart, jacobiStart]
  rw [hstep]
  generalize rotatePlane 0 1 1 (1 / √2) (1 / √2) start = state at hmatrix hvectors ⊢
  rcases state with ⟨matrix, vectors⟩
  simp only at hmatrix hvectors
  rw [hmatrix, hvectors]

theorem tilted_final : covarianceFinal signedMagnitude tilted [5, 0, 3, 1, 2, 4] =
      ⟨![![4, 0, 0], ![0, 16, 0], ![0, 0, 200]],
        ![![1 / √2, 1 / √2, 0], ![-(1 / √2), 1 / √2, 0], ![0, 0, 1]]⟩ := by
  have hsettled : settled (![![10, 6, 0], ![6, 10, 0], ![0, 0, 200]] : Mat3 ℝ) = false := by
    simp [settled, pivotOf]
    norm_num
    exact decide_eq_false (by norm_num)
  have hsettled' : settled (![![4, 0, 0], ![0, 16, 0], ![0, 0, 200]] : Mat3 ℝ) = true := by
    simp only [settled, Bool.or_eq_true, decide_eq_true_eq]
    exact .inl (by simp [pivotOf]; norm_num)
  rw [covarianceFinal, tilted_start, jacobiPasses, jacobiLoop, jacobiStart]
  dsimp only
  rw [hsettled, if_neg Bool.false_ne_true, ← jacobiStart, tilted_step, jacobiLoop]
  dsimp only
  rw [hsettled', if_pos rfl]

theorem tilted_weighted {a : ℝ} (ha : a * a = 1 / 2) (epsilon : ℝ) :
    Matrix.of ![![a, a, 0], ![-a, a, 0], ![0, 0, 1]] *
        Matrix.diagonal (Function.update 1 0 epsilon) *
        (Matrix.of ![![a, a, 0], ![-a, a, 0], ![0, 0, 1]])ᵀ =
      !![(1 + epsilon) / 2, (1 - epsilon) / 2, 0;
        (1 - epsilon) / 2, (1 + epsilon) / 2, 0; 0, 0, 1] := by
  ext r c
  fin_cases r <;> fin_cases c <;>
    simp [Matrix.mul_apply, Fin.sum_univ_three, Matrix.vecMul_diagonal] <;>
    first
    | linear_combination (1 + epsilon) * ha
    | linear_combination (1 - epsilon) * ha

open Polynomial in
/-- One rotation, whose least entry is on the axis across the square. -/
theorem covariance_similarity_tilted :
    ∃ result, covarianceThread signedMagnitude tilted (1 / 1000) [5, 0, 3, 1, 2, 4] = some result ∧
      unflattened result = !![1001 / 2000, 999 / 2000, 0; 999 / 2000, 1001 / 2000, 0; 0, 0, 1] ∧
      (unflattened result).charpoly = (X - C (1 / 1000)) * (X - C 1) ^ 2 ∧
      covarianceThread signedMagnitude tilted (1 / 1000) [0, 1, 2, 3, 4, 5] = some result := by
  obtain ⟨-, -, -, -, hwrites, hregularized, hperm⟩ := covariance_similarity signedMagnitude
    signedMagnitude_copies tilted (1 / 1000) [5, 0, 3, 1, 2, 4]
  have horder : axisOrder (![![4, 0, 0], ![0, 16, 0], ![0, 0, 200]] : Mat3 ℝ) = [0, 1, 2] := by
    rw [axisOrder_eq]
    simp
    norm_num
  rw [tilted_final, horder] at hwrites
  obtain ⟨result, hresult⟩ := hwrites.mpr (by norm_num)
  obtain ⟨hweighted, -, heigenvalues⟩ := hregularized result hresult
  rw [tilted_final, horder] at hweighted
  refine ⟨result, hresult, ?_, heigenvalues, (hperm _ (by decide)).trans hresult⟩
  have hhalf : 1 / √2 * (1 / √2) = (1 / 2 : ℝ) := by
    rw [div_mul_div_comm, one_mul, Real.mul_self_sqrt zero_le_two]
  rw [hweighted]
  refine (tilted_weighted hhalf (1 / 1000)).trans ?_
  norm_num

end Tilted

end PointcloudAd.Cuda
