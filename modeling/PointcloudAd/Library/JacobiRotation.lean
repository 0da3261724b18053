import Mathlib.Analysis.Real.Sqrt
import Mathlib.LinearAlgebra.Matrix.Charpoly.Basic
import Mathlib.LinearAlgebra.Matrix.NonsingularInverse
import Mathlib.Tactic.LinearCombination

/-!
# Plane rotations of symmetric matrices

A rotation in the plane of two coordinates turns a symmetric matrix into a similar one. At the angle
that Jacobi's method chooses the entry of the plane vanishes, and the sum of the squares outside the
diagonal decreases by twice the square of that entry.
-/

namespace PointcloudAd.Library

open Matrix

variable {m n : Type} [Fintype n] [DecidableEq n] {p q : n} {c s t : ℝ}

/-- A vector turned in the plane of two coordinates. -/
def turn (p q : n) (c s : ℝ) (v : n → ℝ) : n → ℝ := fun j =>
  if j = p then c * v p - s * v q else if j = q then s * v p + c * v q else v j

/-- The rotation whose product from the right turns every row. -/
def planeRotation (p q : n) (c s : ℝ) : Matrix n n ℝ := fun i j =>
  if j = p then if i = p then c else if i = q then -s else 0
  else if j = q then if i = p then s else if i = q then c else 0
  else if i = j then 1 else 0

omit [Fintype n] in
theorem turn_left (v : n → ℝ) : turn p q c s v p = c * v p - s * v q := if_pos rfl

omit [Fintype n] in
theorem turn_right (hpq : p ≠ q) (v : n → ℝ) : turn p q c s v q = s * v p + c * v q :=
  (if_neg hpq.symm).trans (if_pos rfl)

omit [Fintype n] in
theorem turn_other {j : n} (hp : j ≠ p) (hq : j ≠ q) (v : n → ℝ) : turn p q c s v j = v j :=
  (if_neg hp).trans (if_neg hq)

theorem mul_planeRotation (hpq : p ≠ q) (M : Matrix m n ℝ) (i : m) :
    (M * planeRotation p q c s) i = turn p q c s (M i) := by
  funext j
  rw [Matrix.mul_apply]
  by_cases hjp : j = p
  · rw [hjp, turn_left, Finset.sum_eq_add p q hpq (fun k _ hk => ?_) (by simp) (by simp)]
    · simp only [planeRotation, if_true, hpq.symm, if_false]
      ring
    · simp only [planeRotation, if_true, hk.1, hk.2, if_false, mul_zero]
  by_cases hjq : j = q
  · rw [hjq, turn_right hpq, Finset.sum_eq_add p q hpq (fun k _ hk => ?_) (by simp) (by simp)]
    · simp only [planeRotation, if_true, hpq.symm, if_false]
      ring
    · simp only [planeRotation, if_true, hpq.symm, hk.1, hk.2, if_false, mul_zero]
  · rw [turn_other hjp hjq]
    simp only [planeRotation, hjp, hjq, if_false, mul_ite, mul_one, mul_zero, Finset.sum_ite_eq',
      Finset.mem_univ, if_true]

theorem transpose_planeRotation_mul (hpq : p ≠ q) (M : Matrix n m ℝ) (i : n) (j : m) :
    ((planeRotation p q c s)ᵀ * M) i j = turn p q c s (fun k => M k j) i := by
  have htransposed : ((planeRotation p q c s)ᵀ * M) i j = (Mᵀ * planeRotation p q c s) j i := by
    rw [← Matrix.transpose_apply (Mᵀ * planeRotation p q c s), Matrix.transpose_mul,
      Matrix.transpose_transpose]
  rw [htransposed, mul_planeRotation hpq]
  rfl

theorem sum_turn_sq (hpq : p ≠ q) (h : c ^ 2 + s ^ 2 = 1) (v : n → ℝ) :
    ∑ j, turn p q c s v j ^ 2 = ∑ j, v j ^ 2 := by
  rw [← sub_eq_zero, ← Finset.sum_sub_distrib,
    Finset.sum_eq_add p q hpq (fun k _ hk => ?_) (by simp) (by simp)]
  · rw [turn_left, turn_right hpq]
    linear_combination (v p ^ 2 + v q ^ 2) * h
  · rw [turn_other hk.1 hk.2, sub_self]

omit [Fintype n] in
theorem turn_turn (hpq : p ≠ q) (h : c ^ 2 + s ^ 2 = 1) (v : n → ℝ) :
    turn p q c (-s) (turn p q c s v) = v := by
  funext j
  by_cases hjp : j = p
  · rw [hjp, turn_left, turn_left, turn_right hpq]
    linear_combination v p * h
  by_cases hjq : j = q
  · rw [hjq, turn_right hpq, turn_left, turn_right hpq]
    linear_combination v q * h
  · rw [turn_other hjp hjq, turn_other hjp hjq]

omit [Fintype n] in
theorem transpose_planeRotation (hpq : p ≠ q) :
    (planeRotation p q c s)ᵀ = planeRotation p q c (-s) := by
  ext i j
  by_cases hip : i = p <;> by_cases hiq : i = q <;> by_cases hjp : j = p <;>
    by_cases hjq : j = q <;>
    simp_all [planeRotation, eq_comm]

theorem planeRotation_orthogonal (hpq : p ≠ q) (h : c ^ 2 + s ^ 2 = 1) :
    planeRotation p q c s * (planeRotation p q c s)ᵀ = 1 := by
  have hrow : planeRotation p q c s = fun i => turn p q c s ((1 : Matrix n n ℝ) i) := by
    funext i
    rw [← mul_planeRotation hpq, Matrix.one_mul]
  funext i
  rw [transpose_planeRotation hpq, mul_planeRotation hpq, hrow, turn_turn hpq h]

/-- A symmetric matrix, and the orthogonal basis in which another matrix is that matrix. -/
structure SimilarIn (A M V : Matrix n n ℝ) : Prop where
  symmetric : Mᵀ = M
  orthogonal : V * Vᵀ = 1
  similar : A = V * M * Vᵀ

/-- A rotation of the matrix and of the basis keeps the matrix that they stand for. -/
theorem SimilarIn.rotate {A M V : Matrix n n ℝ} (h : SimilarIn A M V) (hpq : p ≠ q)
    (hunit : c ^ 2 + s ^ 2 = 1) :
    SimilarIn A ((planeRotation p q c s)ᵀ * M * planeRotation p q c s)
      (V * planeRotation p q c s) := by
  set R := planeRotation p q c s with hR
  have hturn : R * Rᵀ = 1 := planeRotation_orthogonal hpq hunit
  constructor
  · rw [Matrix.transpose_mul, Matrix.transpose_mul, Matrix.transpose_transpose, h.symmetric,
      Matrix.mul_assoc]
  · calc V * R * (V * R)ᵀ = V * (R * Rᵀ) * Vᵀ := by
          rw [Matrix.transpose_mul]
          simp only [Matrix.mul_assoc]
      _ = 1 := by rw [hturn, Matrix.mul_one, h.orthogonal]
  · calc A = V * (1 * M * 1) * Vᵀ := by rw [Matrix.one_mul, Matrix.mul_one, ← h.similar]
      _ = V * (R * Rᵀ * M * (R * Rᵀ)) * Vᵀ := by rw [hturn]
      _ = V * R * (Rᵀ * M * R) * (V * R)ᵀ := by
          rw [Matrix.transpose_mul]
          simp only [Matrix.mul_assoc]

/-- The cosine, the sine and the tangent of an angle at which the entry of a plane vanishes. -/
structure JacobiAngle {n : Type} (M : Matrix n n ℝ) (p q : n) (c s t : ℝ) : Prop where
  unit : c ^ 2 + s ^ 2 = 1
  sine : s = t * c
  root : M p q * t ^ 2 + (M q q - M p p) * t = M p q

omit [Fintype n] [DecidableEq n] in
/-- The angle from the cotangent of its double, of either sign where that is zero. -/
theorem jacobiAngle_of_cotangent {M : Matrix n n ℝ} {tau sign : ℝ} (hpivot : M p q ≠ 0)
    (htau : tau = (M q q - M p p) / (2 * M p q)) (hsign : sign ^ 2 = 1)
    (habs : sign * tau = |tau|) (ht : t = sign / (|tau| + √(1 + tau * tau)))
    (hc : c = 1 / √(1 + t * t)) : JacobiAngle M p q c (t * c) t := by
  have hpositive : ∀ x : ℝ, 0 < 1 + x * x :=
    fun x => add_pos_of_pos_of_nonneg one_pos (mul_self_nonneg x)
  have hc2 : c ^ 2 * (1 + t * t) = 1 := by
    rw [hc, div_pow, one_pow, Real.sq_sqrt (hpositive t).le, one_div_mul_cancel (hpositive t).ne']
  have hroot : t ^ 2 + 2 * tau * t = 1 := by
    have hsqrt : √(1 + tau * tau) ^ 2 = 1 + tau * tau := Real.sq_sqrt (hpositive tau).le
    have hu : 0 < |tau| + √(1 + tau * tau) :=
      add_pos_of_nonneg_of_pos (abs_nonneg tau) (Real.sqrt_pos.mpr (hpositive tau))
    set u := |tau| + √(1 + tau * tau) with hudef
    have hu2 : u ^ 2 = 1 + 2 * |tau| * u := by
      rw [hudef]
      linear_combination hsqrt - abs_mul_abs_self tau
    have htu : t * u = sign := by rw [ht, div_mul_cancel₀ _ hu.ne']
    have hscaled : (t ^ 2 + 2 * tau * t) * u ^ 2 = 1 * u ^ 2 := by
      linear_combination (t * u + sign + 2 * tau * u) * htu + hsign + 2 * u * habs - hu2
    exact mul_right_cancel₀ (pow_ne_zero 2 hu.ne') hscaled
  refine ⟨by linear_combination hc2, rfl, ?_⟩
  have hdouble : 2 * M p q * tau = M q q - M p p := by
    rw [htau]
    field_simp
  linear_combination M p q * hroot - t * hdouble

section Rotated

variable {M : Matrix n n ℝ}

theorem rotated_apply (hpq : p ≠ q) (M : Matrix n n ℝ) (i j : n) :
    ((planeRotation p q c s)ᵀ * M * planeRotation p q c s) i j =
      turn p q c s (fun l => turn p q c s (fun k => M k l) i) j := by
  rw [mul_planeRotation hpq]
  congr 1
  funext l
  exact transpose_planeRotation_mul hpq M i l

theorem JacobiAngle.diagonal_left (h : JacobiAngle M p q c s t) (hpq : p ≠ q) (hsymm : Mᵀ = M) :
    ((planeRotation p q c s)ᵀ * M * planeRotation p q c s) p p = M p p - t * M p q := by
  have hqp : M q p = M p q := congrFun (congrFun hsymm p) q
  have hunit := h.unit
  have hroot := h.root
  rw [h.sine] at hunit ⊢
  rw [rotated_apply hpq, turn_left, turn_left, turn_left, hqp]
  linear_combination c ^ 2 * t * hroot + (M p p - t * M p q) * hunit

theorem JacobiAngle.diagonal_right (h : JacobiAngle M p q c s t) (hpq : p ≠ q) (hsymm : Mᵀ = M) :
    ((planeRotation p q c s)ᵀ * M * planeRotation p q c s) q q = M q q + t * M p q := by
  have hqp : M q p = M p q := congrFun (congrFun hsymm p) q
  have hunit := h.unit
  have hroot := h.root
  rw [h.sine] at hunit ⊢
  rw [rotated_apply hpq, turn_right hpq, turn_right hpq, turn_right hpq, hqp]
  linear_combination (-(c ^ 2 * t)) * hroot + (M q q + t * M p q) * hunit

theorem JacobiAngle.pivot (h : JacobiAngle M p q c s t) (hpq : p ≠ q) (hsymm : Mᵀ = M) :
    ((planeRotation p q c s)ᵀ * M * planeRotation p q c s) p q = 0 := by
  have hqp : M q p = M p q := congrFun (congrFun hsymm p) q
  have hroot := h.root
  rw [h.sine, rotated_apply hpq, turn_right hpq, turn_left, turn_left, hqp]
  linear_combination (-(c ^ 2)) * hroot

theorem rotated_left (hpq : p ≠ q) (M : Matrix n n ℝ) {r : n} (hp : r ≠ p) (hq : r ≠ q) :
    ((planeRotation p q c s)ᵀ * M * planeRotation p q c s) r p = c * M r p - s * M r q := by
  rw [rotated_apply hpq, turn_left, turn_other hp hq, turn_other hp hq]

theorem rotated_right (hpq : p ≠ q) (M : Matrix n n ℝ) {r : n} (hp : r ≠ p) (hq : r ≠ q) :
    ((planeRotation p q c s)ᵀ * M * planeRotation p q c s) r q = s * M r p + c * M r q := by
  rw [rotated_apply hpq, turn_right hpq, turn_other hp hq, turn_other hp hq]

theorem rotated_other (hpq : p ≠ q) (M : Matrix n n ℝ) {r l : n} (hrp : r ≠ p) (hrq : r ≠ q)
    (hlp : l ≠ p) (hlq : l ≠ q) :
    ((planeRotation p q c s)ᵀ * M * planeRotation p q c s) r l = M r l := by
  rw [rotated_apply hpq, turn_other hlp hlq, turn_other hrp hrq]

/-- The sum of the squares outside the diagonal. -/
def offSquares (M : Matrix n n ℝ) : ℝ := ∑ i, ∑ j, if i = j then 0 else M i j ^ 2

theorem offSquares_eq (M : Matrix n n ℝ) :
    offSquares M = ∑ i, ∑ j, M i j ^ 2 - ∑ i, M i i ^ 2 := by
  rw [offSquares, ← Finset.sum_sub_distrib]
  refine Finset.sum_congr rfl fun i _ => ?_
  have hsplit : ∀ j, (if i = j then 0 else M i j ^ 2) =
      M i j ^ 2 - if i = j then M i j ^ 2 else 0 := by
    intro j
    split <;> simp
  simp only [hsplit, Finset.sum_sub_distrib, Finset.sum_ite_eq, Finset.mem_univ, if_true]

theorem sum_rotated_sq (hpq : p ≠ q) (h : c ^ 2 + s ^ 2 = 1) (M : Matrix n n ℝ) :
    ∑ i, ∑ j, ((planeRotation p q c s)ᵀ * M * planeRotation p q c s) i j ^ 2 =
      ∑ i, ∑ j, M i j ^ 2 := by
  simp only [rotated_apply hpq]
  simp only [sum_turn_sq hpq h]
  rw [Finset.sum_comm]
  simp only [sum_turn_sq hpq h]
  exact Finset.sum_comm

theorem JacobiAngle.offSquares (h : JacobiAngle M p q c s t) (hpq : p ≠ q) (hsymm : Mᵀ = M) :
    offSquares ((planeRotation p q c s)ᵀ * M * planeRotation p q c s) =
      Library.offSquares M - 2 * M p q ^ 2 := by
  set N := (planeRotation p q c s)ᵀ * M * planeRotation p q c s with hN
  have hdiagonal : ∑ i, N i i ^ 2 - ∑ i, M i i ^ 2 = 2 * M p q ^ 2 := by
    rw [← Finset.sum_sub_distrib, Finset.sum_eq_add p q hpq (fun k _ hk => ?_) (by simp) (by simp)]
    · rw [hN, h.diagonal_left hpq hsymm, h.diagonal_right hpq hsymm]
      linear_combination 2 * M p q * h.root
    · rw [hN, rotated_other hpq M hk.1 hk.2 hk.1 hk.2, sub_self]
  rw [offSquares_eq, offSquares_eq, hN, sum_rotated_sq hpq h.unit, ← hN]
  linear_combination -hdiagonal

end Rotated

variable {V : Matrix n n ℝ}

theorem weighted_axis (hV : V * Vᵀ = 1) (axis : n) (weight : ℝ) :
    V * Matrix.diagonal (Function.update 1 axis weight) * Vᵀ =
      Matrix.of fun i j => (if i = j then 1 else 0) + (weight - 1) * V i axis * V j axis := by
  ext i j
  have hunit : ∑ k, V i k * V j k = if i = j then 1 else 0 := by
    rw [← Matrix.one_apply, ← hV, Matrix.mul_apply]
    rfl
  have hterm : ∀ k, V i k * Function.update (1 : n → ℝ) axis weight k * V j k =
      V i k * V j k + if axis = k then (weight - 1) * V i k * V j k else 0 := by
    intro k
    rcases eq_or_ne k axis with rfl | hk
    · rw [Function.update_self, if_pos rfl]
      ring
    · rw [Function.update_of_ne hk, if_neg hk.symm, Pi.one_apply]
      ring
  rw [Matrix.mul_apply, Matrix.of_apply]
  simp only [Matrix.mul_diagonal, Matrix.transpose_apply, hterm, Finset.sum_add_distrib, hunit,
    Finset.sum_ite_eq, Finset.mem_univ, if_true]

theorem weighted_symmetric (d : n → ℝ) :
    (V * Matrix.diagonal d * Vᵀ)ᵀ = V * Matrix.diagonal d * Vᵀ := by
  rw [Matrix.transpose_mul, Matrix.transpose_mul, Matrix.transpose_transpose,
    Matrix.diagonal_transpose, Matrix.mul_assoc]

open Polynomial in
theorem weighted_charpoly (hV : V * Vᵀ = 1) (d : n → ℝ) :
    (V * Matrix.diagonal d * Vᵀ).charpoly = ∏ i, (X - C (d i)) := by
  rw [Matrix.mul_assoc, Matrix.charpoly_mul_comm, Matrix.mul_assoc, mul_eq_one_comm.mp hV,
    Matrix.mul_one, Matrix.charpoly_diagonal]

open Polynomial in
theorem weighted_axis_charpoly (hV : V * Vᵀ = 1) (axis : n) (weight : ℝ) :
    (V * Matrix.diagonal (Function.update 1 axis weight) * Vᵀ).charpoly =
      (X - C weight) * (X - C 1) ^ (Fintype.card n - 1) := by
  have hothers : ∏ i ∈ Finset.univ.erase axis, (X - C (Function.update (1 : n → ℝ) axis weight i)) =
      ∏ _i ∈ Finset.univ.erase axis, (X - C 1) := by
    refine Finset.prod_congr rfl fun i hi => ?_
    rw [Function.update_of_ne (Finset.ne_of_mem_erase hi), Pi.one_apply]
  rw [weighted_charpoly hV, ← Finset.mul_prod_erase _ _ (Finset.mem_univ axis),
    Function.update_self, hothers, Finset.prod_const, Finset.card_erase_of_mem (Finset.mem_univ _),
    Finset.card_univ]

end PointcloudAd.Library
