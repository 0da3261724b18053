import PointcloudAd.Library.ExactAlgebra

/-!
# Values of opposite sign

Arithmetic that rounds to nearest computes the negated result of negated values, but for a sum that
cancels, whose zero is positive either way. Two values are opposite when one negates the other or
both are zeros. What is computed of opposite values is opposite or the same, up to the sign of a
zero, and a sum that starts at zero forgets that sign too.
-/

namespace PointcloudAd.Library

section

variable {α : Type} [FloatArith α]

/-- A zero of either sign. -/
def IsZero (a : α) : Prop := a ≤ 0 ∧ 0 ≤ a

/-- Two values of which one negates the other, or two zeros. -/
def Opposite (a b : α) : Prop := b = -a ∨ IsZero a ∧ IsZero b

/-- Two values that differ in the sign of a zero at most. -/
def SameValue (a b : α) : Prop := a = b ∨ IsZero a ∧ IsZero b

/-- A value that a zero of either sign leaves as it is: any but the negative zero. -/
def Steady (a : α) : Prop := a + 0 = a

end

/-- Signs in the arithmetic of a binary floating-point type that rounds to nearest, where one value
stands for all that are not numbers. -/
class OppositeArithmetic (α : Type) [FloatArith α] : Prop extends OrderedFloat α where
  zero_le_zero : (0 : α) ≤ 0
  neg_zero {a : α} : IsZero a → IsZero (-a)
  neg_lt_zero {a : α} : 0 < a → -a < 0
  zero_lt_neg {a : α} : a < 0 → 0 < -a
  mul_comm (a b : α) : a * b = b * a
  opposite_add {a a' b b' : α} : Opposite a a' → Opposite b b' → Opposite (a + b) (a' + b')
  opposite_sub {a a' b b' : α} : Opposite a a' → Opposite b b' → Opposite (a - b) (a' - b')
  opposite_mul (c : α) {a a' : α} : Opposite a a' → Opposite (c * a) (c * a')
  opposite_div {a a' : α} (c : α) : Opposite a a' → Opposite (a / c) (a' / c)
  mul_opposite {a a' b b' : α} : Opposite a a' → Opposite b b' → SameValue (a * b) (a' * b')
  square_opposite {a a' : α} : Opposite a a' → a * a = a' * a'
  abs_opposite {a a' : α} : Opposite a a' → abs a = abs a'
  isFinite_opposite {a a' : α} : Opposite a a' → isFinite a = isFinite a'
  same_add {a a' b b' : α} : SameValue a a' → SameValue b b' → SameValue (a + b) (a' + b')
  same_div {a a' : α} (c : α) : SameValue a a' → SameValue (a / c) (a' / c)
  zero_steady : Steady (0 : α)
  add_steady {c : α} (a : α) : Steady c → Steady (c + a)
  steady_add {c a a' : α} : Steady c → SameValue a a' → c + a = c + a'

/-- Conversions that round to nearest. -/
class OppositeConversions (F D : Type) [FloatArith F] [FloatArith D] [Floats F D] : Prop where
  widen_opposite {a a' : F} : Opposite a a' → Opposite (widen a : D) (widen a')
  narrow_opposite {a a' : D} : Opposite a a' → Opposite (narrow a : F) (narrow a')

section

variable {α : Type} [FloatArith α] [OppositeArithmetic α] {a a' b c : α}

open OppositeArithmetic

theorem isZero_zero : IsZero (0 : α) := ⟨zero_le_zero, zero_le_zero⟩

theorem opposite_zero : Opposite (0 : α) 0 := .inr ⟨isZero_zero, isZero_zero⟩

theorem Opposite.neg (h : Opposite a a') : Opposite (-a) (-a') := by
  rcases h with rfl | ⟨hz, hz'⟩
  · exact .inl rfl
  · exact .inr ⟨neg_zero hz, neg_zero hz'⟩

theorem Opposite.mul_right (h : Opposite a a') (c : α) : Opposite (a * c) (a' * c) := by
  rw [mul_comm a c, mul_comm a' c]
  exact opposite_mul c h

theorem Opposite.same_neg (h : Opposite a a') : SameValue a' (-a) := by
  rcases h with rfl | ⟨hz, hz'⟩
  · exact .inl rfl
  · exact .inr ⟨hz', neg_zero hz⟩

omit [OppositeArithmetic α] in
theorem SameValue.refl (a : α) : SameValue a a := .inl rfl

theorem SameValue.le_iff (h : SameValue a a') : c ≤ a ↔ c ≤ a' := by
  rcases h with rfl | ⟨hz, hz'⟩
  · rfl
  · exact ⟨fun h => OrderedFloat.le_trans h (OrderedFloat.le_trans hz.1 hz'.2),
      fun h => OrderedFloat.le_trans h (OrderedFloat.le_trans hz'.1 hz.2)⟩

theorem SameValue.ge_iff (h : SameValue a a') : a ≤ c ↔ a' ≤ c := by
  rcases h with rfl | ⟨hz, hz'⟩
  · rfl
  · exact ⟨fun h => OrderedFloat.le_trans (OrderedFloat.le_trans hz'.1 hz.2) h,
      fun h => OrderedFloat.le_trans (OrderedFloat.le_trans hz.1 hz'.2) h⟩

theorem SameValue.lt_iff (h : SameValue a a') : c < a ↔ c < a' := by
  rw [OrderedFloat.lt_iff, OrderedFloat.lt_iff, h.le_iff, h.ge_iff]

theorem SameValue.gt_iff (h : SameValue a a') : a < c ↔ a' < c := by
  rw [OrderedFloat.lt_iff, OrderedFloat.lt_iff, h.le_iff, h.ge_iff]

theorem SameValue.clamp (h : SameValue a a') (lo hi : α) :
    SameValue (stdClamp a lo hi) (stdClamp a' lo hi) := by
  unfold stdClamp
  simp only [h.gt_iff, h.lt_iff]
  split_ifs
  · exact .refl lo
  · exact .refl hi
  · exact h

theorem Opposite.not_lt (h : Opposite a a') (hc : 0 < c) (ha : c < a) : ¬ c < a' := by
  have hpos : 0 < a := le_lt_trans (OrderedFloat.lt_iff.mp hc).1 ha
  rcases h with rfl | ⟨hz, -⟩
  · intro hlt
    have hneg : -a < -a := lt_le_trans (neg_lt_zero hpos)
      (OrderedFloat.le_trans (OrderedFloat.lt_iff.mp hc).1 (OrderedFloat.lt_iff.mp hlt).1)
    exact (OrderedFloat.lt_iff.mp hneg).2 (OrderedFloat.lt_iff.mp hneg).1
  · exact absurd hz.1 (OrderedFloat.lt_iff.mp hpos).2

/-- Of two opposite values at most one is below a negative bound. -/
theorem Opposite.not_gt (h : Opposite a a') (hc : c < 0) (ha : a < c) : ¬ a' < c := by
  have hneg : a < 0 := lt_le_trans ha (OrderedFloat.lt_iff.mp hc).1
  rcases h with rfl | ⟨hz, -⟩
  · intro hlt
    have hpos : -a < -a := lt_le_trans hlt
      (OrderedFloat.le_trans (OrderedFloat.lt_iff.mp hc).1
        (OrderedFloat.lt_iff.mp (zero_lt_neg hneg)).1)
    exact (OrderedFloat.lt_iff.mp hpos).2 (OrderedFloat.lt_iff.mp hpos).1
  · exact absurd hz.2 (OrderedFloat.lt_iff.mp hneg).2

end

namespace Exact

variable {K : Type} [LinearOrder K] [Field K] [IsStrictOrderedRing K] [FieldFunctions K]
  {a b : Exact K}

omit [IsStrictOrderedRing K] in
theorem isZero_iff : IsZero a ↔ a = 0 := by
  unfold IsZero
  rw [zero_eq_fin]
  cases a with
  | fin v => simp [le_antisymm_iff]
  | inf s => cases s <;> simp [le_def, Exact.le]
  | nan => simp [le_def, Exact.le]

omit [IsStrictOrderedRing K] in
theorem neg_zero_exact : -(0 : Exact K) = 0 := by
  rw [zero_eq_fin, neg_fin, neg_zero]

omit [IsStrictOrderedRing K] in
theorem opposite_iff : Opposite a b ↔ b = -a := by
  unfold Opposite
  rw [isZero_iff, isZero_iff]
  constructor
  · rintro (rfl | ⟨rfl, rfl⟩)
    · rfl
    · exact neg_zero_exact.symm
  · exact Or.inl

omit [IsStrictOrderedRing K] in
theorem sameValue_iff : SameValue a b ↔ a = b := by
  unfold SameValue
  rw [isZero_iff, isZero_iff]
  constructor
  · rintro (rfl | ⟨rfl, rfl⟩) <;> rfl
  · exact Or.inl

omit [IsStrictOrderedRing K] in
theorem neg_neg_exact (a : Exact K) : -(-a) = a := by
  cases a with
  | fin v => rw [neg_fin, neg_fin, neg_neg]
  | inf s => cases s <;> rfl
  | nan => rfl

theorem mul_neg_exact (a b : Exact K) : a * -b = -(a * b) := by
  rw [mul_comm' a (-b), neg_mul_exact, mul_comm']

theorem neg_div_exact (a b : Exact K) : -a / b = -(a / b) := by
  change Exact.div (Exact.neg a) b = Exact.neg (Exact.div a b)
  cases a with
  | fin v =>
    cases b with
    | fin w =>
      rcases lt_trichotomy v 0 with hv | rfl | hv
      · by_cases hw : w = 0 <;> simp [Exact.div, Exact.neg, hw, hv.ne, hv, hv.not_gt, neg_div]
      · by_cases hw : w = 0 <;> simp [Exact.div, Exact.neg, hw]
      · by_cases hw : w = 0 <;> simp [Exact.div, Exact.neg, hw, hv.ne', hv, hv.not_gt, neg_div]
    | inf t => simp [Exact.div, Exact.neg]
    | nan => rfl
  | inf s =>
    cases b with
    | fin w => simp [Exact.div, Exact.neg]
    | inf t => rfl
    | nan => rfl
  | nan => cases b <;> rfl

instance : OppositeArithmetic (Exact K) where
  zero_le_zero := fin_le_fin.mpr le_rfl
  neg_zero h := by
    rw [isZero_iff] at h ⊢
    rw [h, neg_zero_exact]
  neg_lt_zero {a} h := by
    rcases zero_lt_iff.mp h with ⟨v, rfl, hv⟩ | rfl
    · exact fin_lt_fin.mpr (neg_neg_of_pos hv)
    · exact lt_zero_iff.mpr (.inr rfl)
  zero_lt_neg h := zero_lt_neg h
  mul_comm := mul_comm'
  opposite_add h h' := by
    rw [opposite_iff] at h h' ⊢
    rw [h, h', neg_add_neg]
  opposite_sub {a _ b _} h h' := by
    rw [opposite_iff] at h h' ⊢
    rw [h, h']
    change -a + -(-b) = -(a + -b)
    rw [neg_add_neg]
  opposite_mul c _ _ h := by
    rw [opposite_iff] at h ⊢
    rw [h, mul_neg_exact]
  opposite_div c h := by
    rw [opposite_iff] at h ⊢
    rw [h, neg_div_exact]
  mul_opposite h h' := by
    rw [opposite_iff] at h h'
    rw [sameValue_iff, h, h', neg_mul_exact, mul_neg_exact, neg_neg_exact]
  square_opposite h := by
    rw [opposite_iff] at h
    rw [h, neg_mul_exact, mul_neg_exact, neg_neg_exact]
  abs_opposite {a _} h := by
    rw [opposite_iff] at h
    subst h
    cases a with
    | fin v => rw [neg_fin, abs_fin, abs_fin, abs_neg]
    | inf s => rfl
    | nan => rfl
  isFinite_opposite {a _} h := by
    rw [opposite_iff] at h
    subst h
    cases a <;> rfl
  same_add h h' := by
    rw [sameValue_iff] at h h' ⊢
    rw [h, h']
  same_div c h := by
    rw [sameValue_iff] at h ⊢
    rw [h]
  zero_steady := add_zero (0 : Exact K)
  add_steady {c} a _ := add_zero (c + a)
  steady_add _ h := by
    rw [sameValue_iff.mp h]

instance : OppositeConversions (Exact K) (Exact K) where
  widen_opposite h := h
  narrow_opposite h := h

end Exact

end PointcloudAd.Library
