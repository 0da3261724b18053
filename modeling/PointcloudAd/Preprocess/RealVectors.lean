import PointcloudAd.Library.RealArithmetic
import PointcloudAd.Preprocess.Vectors

/-!
# Vectors without rounding

Over the real numbers, a vector that is not zero has a unit vector of length one, and the product of
two vectors is bounded by their lengths.
-/

namespace PointcloudAd

open Library

theorem dotFloat_real (left right : Vec3 ℝ) :
    (dotFloat left right : ℝ) = left.x * right.x + left.y * right.y + left.z * right.z := rfl

theorem vectorLength_real (value : Vec3 ℝ) :
    (vectorLength value : ℝ) = Real.sqrt (dotFloat value value) := rfl

theorem dotFloat_self_pos {value : Vec3 ℝ} (h : value ≠ default) :
    0 < (dotFloat value value : ℝ) := by
  rw [dotFloat_real]
  by_contra hle
  apply h
  have hxx := mul_self_nonneg value.x
  have hyy := mul_self_nonneg value.y
  have hzz := mul_self_nonneg value.z
  have hx : value.x = 0 := mul_self_eq_zero.mp (by linarith)
  have hy : value.y = 0 := mul_self_eq_zero.mp (by linarith)
  have hz : value.z = 0 := mul_self_eq_zero.mp (by linarith)
  cases value
  subst hx hy hz
  rfl

theorem dotFloat_default_left (value : Vec3 ℝ) : (dotFloat default value : ℝ) = 0 := by
  change (0 : ℝ) * value.x + 0 * value.y + 0 * value.z = 0
  ring

theorem vectorLength_pos_iff {value : Vec3 ℝ} : 0 < (vectorLength value : ℝ) ↔ value ≠ default := by
  rw [vectorLength_real, Real.sqrt_pos]
  constructor
  · rintro hpos rfl
    rw [dotFloat_default_left] at hpos
    exact lt_irrefl 0 hpos
  · exact dotFloat_self_pos

theorem unitVector_default : unitVector ℝ (default : Vec3 ℝ) = default := by
  unfold unitVector
  dsimp only
  rw [if_pos]
  left
  rw [vectorLength_pos_iff, not_not]

theorem unitVector_of_ne {value : Vec3 ℝ} (h : value ≠ default) :
    unitVector ℝ value = ⟨value.x / vectorLength value, value.y / vectorLength value,
      value.z / vectorLength value⟩ := by
  unfold unitVector
  dsimp only
  rw [if_neg]
  · rfl
  · rw [not_or, not_not, not_not]
    exact ⟨vectorLength_pos_iff.mpr h, rfl⟩

theorem dotFloat_unitVector_self {value : Vec3 ℝ} (h : value ≠ default) :
    (dotFloat (unitVector ℝ value) (unitVector ℝ value) : ℝ) = 1 := by
  have hpos : 0 < (vectorLength value : ℝ) := vectorLength_pos_iff.mpr h
  have hsquare : (vectorLength value : ℝ) * vectorLength value = dotFloat value value :=
    Real.mul_self_sqrt (dotFloat_self_pos h).le
  rw [unitVector_of_ne h, dotFloat_real]
  rw [dotFloat_real] at hsquare
  field_simp
  linarith

theorem unitVector_ne_default_iff {value : Vec3 ℝ} :
    unitVector ℝ value ≠ default ↔ value ≠ default := by
  constructor
  · rintro h rfl
    exact h unitVector_default
  · intro h hunit
    have hone := dotFloat_unitVector_self h
    rw [hunit, dotFloat_default_left] at hone
    exact zero_ne_one hone

theorem unitVector_of_unit {value : Vec3 ℝ} (h : (dotFloat value value : ℝ) = 1) :
    unitVector ℝ value = value := by
  have hne : value ≠ default := by
    rintro rfl
    rw [dotFloat_default_left] at h
    exact zero_ne_one h
  rw [unitVector_of_ne hne, vectorLength_real, h, Real.sqrt_one, div_one, div_one, div_one]

theorem dotFloat_negate_self (value : Vec3 ℝ) :
    (dotFloat value.negate value.negate : ℝ) = dotFloat value value := by
  change -value.x * -value.x + -value.y * -value.y + -value.z * -value.z = _
  rw [dotFloat_real]
  ring

theorem vectorLength_nonneg (value : Vec3 ℝ) : 0 ≤ (vectorLength value : ℝ) := Real.sqrt_nonneg _

theorem dotFloat_self_nonneg (value : Vec3 ℝ) : 0 ≤ (dotFloat value value : ℝ) := by
  rw [dotFloat_real]
  nlinarith [mul_self_nonneg value.x, mul_self_nonneg value.y, mul_self_nonneg value.z]

theorem dotFloat_mul_self_le (left right : Vec3 ℝ) :
    (dotFloat left right : ℝ) * dotFloat left right ≤
      dotFloat left left * dotFloat right right := by
  simp only [dotFloat_real]
  nlinarith [mul_self_nonneg (left.x * right.y - left.y * right.x),
    mul_self_nonneg (left.y * right.z - left.z * right.y),
    mul_self_nonneg (left.z * right.x - left.x * right.z)]

theorem abs_dotFloat_le (left right : Vec3 ℝ) :
    |(dotFloat left right : ℝ)| ≤ vectorLength left * vectorLength right := by
  rw [vectorLength_real, vectorLength_real, ← Real.sqrt_mul (dotFloat_self_nonneg left)]
  apply Real.abs_le_sqrt
  rw [sq]
  exact dotFloat_mul_self_le left right

end PointcloudAd
