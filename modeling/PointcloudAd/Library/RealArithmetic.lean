import Mathlib.Analysis.SpecialFunctions.Trigonometric.Inverse
import Mathlib.Analysis.SpecialFunctions.Complex.Arg
import PointcloudAd.Library.Floating

/-!
# Arithmetic of the real numbers

The operations of a floating-point type on the real numbers, where nothing is rounded, all values
are finite, and what they compute are the functions of analysis.
-/

namespace PointcloudAd.Library

noncomputable instance realArith : FloatArith ℝ where
  decidableLT := inferInstance
  decidableLE := inferInstance
  equal a b := decide (a = b)
  abs a := |a|
  sqrt := Real.sqrt
  isFinite _ := true
  infinity := 0
  maximum := 0
  lit q := q

noncomputable instance realFloats : Floats ℝ ℝ where
  widen a := a
  narrow a := a
  cos := Real.cos
  sin := Real.sin
  acos := Real.arccos
  atan2 y x := Complex.arg ⟨x, y⟩
  ceil a := ⌈a⌉₊

/-- The functions of analysis, for exact numbers over the real ones. -/
noncomputable instance realFunctions : FieldFunctions ℝ where
  sqrt := Real.sqrt
  cos := Real.cos
  sin := Real.sin
  acos := Real.arccos
  atan2 y x := Complex.arg ⟨x, y⟩
  ceil a := ⌈a⌉₊

section Real

variable (a b : ℝ)

@[simp] theorem real_abs : FloatArith.abs a = |a| := rfl

@[simp] theorem real_sqrt : FloatArith.sqrt a = Real.sqrt a := rfl

@[simp] theorem real_isFinite : isFinite a = true := rfl

@[simp] theorem real_lit (q : ℚ) : (lit q : ℝ) = q := rfl

@[simp] theorem real_widen : (widen a : ℝ) = a := rfl

end Real

instance realOrdered : OrderedFloat ℝ where
  le_left _ := le_rfl
  le_right _ := le_rfl
  le_total {a b} _ _ := le_total a b
  le_trans hab hbc := hab.trans hbc
  lt_iff := lt_iff_le_not_ge
  abs_nonneg {a} _ := abs_nonneg a

instance realMirrored : MirroredSums ℝ ℝ where
  widen_neg _ := rfl
  neg_mul a b := neg_mul a b
  sum_neg {a b c} h := by
    have hsum : a + b + c < 0 := h
    change 0 < -a + -b + -c
    linarith

end PointcloudAd.Library
