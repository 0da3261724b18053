import Mathlib.Algebra.Order.Chebyshev
import Mathlib.Data.Matrix.Mul

/-!
# Matrices that are nearly isometries

A matrix whose columns are orthonormal up to a tolerance, entry by entry, keeps products up to the
tolerance, the dimension and the lengths of the factors.
-/

namespace PointcloudAd.Library

open Matrix

variable {K κ ι : Type} [Field K] [LinearOrder K] [IsStrictOrderedRing K] [Fintype κ] [Fintype ι]
  [DecidableEq ι]

/-- The products of the columns, against those of an orthonormal system. -/
def NearOrthonormal (A : Matrix κ ι K) (tolerance : K) : Prop :=
  ∀ i j, |(Aᵀ * A - 1 : Matrix ι ι K) i j| ≤ tolerance

omit [LinearOrder K] [IsStrictOrderedRing K] in
theorem dotProduct_mulVec_sub (A : Matrix κ ι K) (u v : ι → K) :
    A *ᵥ u ⬝ᵥ A *ᵥ v - u ⬝ᵥ v = u ⬝ᵥ (Aᵀ * A - 1) *ᵥ v := by
  rw [sub_mulVec, one_mulVec, dotProduct_sub, ← mulVec_mulVec, dotProduct_mulVec u,
    vecMul_transpose]

omit [DecidableEq ι] in
theorem abs_dotProduct_mulVec_le {E : Matrix ι ι K} {tolerance : K}
    (h : ∀ i j, |E i j| ≤ tolerance) (u v : ι → K) :
    |u ⬝ᵥ E *ᵥ v| ≤ tolerance * ((∑ i, |u i|) * ∑ j, |v j|) := by
  have hrow : ∀ i, |(E *ᵥ v) i| ≤ tolerance * ∑ j, |v j| := by
    intro i
    calc |(E *ᵥ v) i| ≤ ∑ j, |E i j * v j| := Finset.abs_sum_le_sum_abs _ _
      _ ≤ ∑ j, tolerance * |v j| := by
        apply Finset.sum_le_sum
        intro j _
        rw [abs_mul]
        exact mul_le_mul_of_nonneg_right (h i j) (abs_nonneg _)
      _ = tolerance * ∑ j, |v j| := (Finset.mul_sum ..).symm
  calc |u ⬝ᵥ E *ᵥ v| ≤ ∑ i, |u i * (E *ᵥ v) i| := Finset.abs_sum_le_sum_abs _ _
    _ ≤ ∑ i, |u i| * (tolerance * ∑ j, |v j|) := by
      apply Finset.sum_le_sum
      intro i _
      rw [abs_mul]
      exact mul_le_mul_of_nonneg_left (hrow i) (abs_nonneg _)
    _ = tolerance * ((∑ i, |u i|) * ∑ j, |v j|) := by
      rw [← Finset.sum_mul]
      ring

omit [DecidableEq ι] in
theorem sq_sum_abs_le (u : ι → K) : (∑ i, |u i|) ^ 2 ≤ Fintype.card ι * (u ⬝ᵥ u) := by
  have hsum : ∑ i, |u i| ^ 2 = u ⬝ᵥ u := by
    apply Finset.sum_congr rfl
    intro i _
    rw [sq_abs, sq]
  rw [← hsum]
  exact sq_sum_le_card_mul_sum_sq

omit [DecidableEq ι] in
theorem sum_abs_mul_sum_abs_le {u v : ι → K} {a b : K} (ha : 0 ≤ a) (hb : 0 ≤ b)
    (hu : a ^ 2 = u ⬝ᵥ u) (hv : b ^ 2 = v ⬝ᵥ v) :
    (∑ i, |u i|) * ∑ j, |v j| ≤ Fintype.card ι * a * b := by
  have hu' := sq_sum_abs_le u
  have hv' := sq_sum_abs_le v
  rw [← hu] at hu'
  rw [← hv] at hv'
  apply le_of_abs_le
  apply abs_le_of_sq_le_sq
  · calc ((∑ i, |u i|) * ∑ j, |v j|) ^ 2 = (∑ i, |u i|) ^ 2 * (∑ j, |v j|) ^ 2 := mul_pow ..
      _ ≤ (Fintype.card ι * a ^ 2) * (Fintype.card ι * b ^ 2) :=
        mul_le_mul hu' hv' (sq_nonneg _) (by positivity)
      _ = (Fintype.card ι * a * b) ^ 2 := by ring
  · positivity

namespace NearOrthonormal

variable {A : Matrix κ ι K} {tolerance : K}

theorem abs_dotProduct_sub_le (h : NearOrthonormal A tolerance) (htolerance : 0 ≤ tolerance)
    {u v : ι → K} {a b : K} (ha : 0 ≤ a) (hb : 0 ≤ b) (hu : a ^ 2 = u ⬝ᵥ u) (hv : b ^ 2 = v ⬝ᵥ v) :
    |A *ᵥ u ⬝ᵥ A *ᵥ v - u ⬝ᵥ v| ≤ Fintype.card ι * tolerance * a * b := by
  rw [dotProduct_mulVec_sub]
  calc |u ⬝ᵥ (Aᵀ * A - 1) *ᵥ v| ≤ tolerance * ((∑ i, |u i|) * ∑ j, |v j|) :=
        abs_dotProduct_mulVec_le h u v
    _ ≤ tolerance * (Fintype.card ι * a * b) :=
      mul_le_mul_of_nonneg_left (sum_abs_mul_sum_abs_le ha hb hu hv) htolerance
    _ = Fintype.card ι * tolerance * a * b := by ring

theorem abs_normSq_sub_le (h : NearOrthonormal A tolerance) (htolerance : 0 ≤ tolerance)
    (u : ι → K) :
    |A *ᵥ u ⬝ᵥ A *ᵥ u - u ⬝ᵥ u| ≤ Fintype.card ι * tolerance * (u ⬝ᵥ u) := by
  rw [dotProduct_mulVec_sub]
  calc |u ⬝ᵥ (Aᵀ * A - 1) *ᵥ u| ≤ tolerance * ((∑ i, |u i|) * ∑ j, |u j|) :=
        abs_dotProduct_mulVec_le h u u
    _ ≤ tolerance * (Fintype.card ι * (u ⬝ᵥ u)) := by
      rw [← sq]
      exact mul_le_mul_of_nonneg_left (sq_sum_abs_le u) htolerance
    _ = Fintype.card ι * tolerance * (u ⬝ᵥ u) := by ring

omit [LinearOrder K] [IsStrictOrderedRing K] in
theorem dotProduct_eq {A : Matrix κ ι K} (h : Aᵀ * A = 1) (u v : ι → K) :
    A *ᵥ u ⬝ᵥ A *ᵥ v = u ⬝ᵥ v := by
  rw [← sub_eq_zero, dotProduct_mulVec_sub, h, sub_self, zero_mulVec, dotProduct_zero]

end NearOrthonormal
end PointcloudAd.Library
