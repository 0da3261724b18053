import Mathlib.Algebra.BigOperators.Group.Finset.Basic
import Mathlib.LinearAlgebra.Matrix.Adjugate
import Mathlib.LinearAlgebra.Matrix.NonsingularInverse
import Mathlib.Order.WithBot
import PointcloudAd.Library.Floating

/-!
# Algebra of exact numbers

Sums of exact numbers do not depend on their order, infinities included. Finite values keep the
operations of the field, and a finite matrix of three rows has the inverse that its cofactors give.
-/

namespace PointcloudAd.Library.Exact

variable {K : Type} [LinearOrder K] [Field K] [FieldFunctions K]

omit [LinearOrder K] [FieldFunctions K] in
theorem add_comm' (a b : Exact K) : Exact.add a b = Exact.add b a := by
  cases a with
  | fin a => cases b <;> simp [Exact.add, add_comm]
  | inf s =>
    cases b with
    | inf t =>
      by_cases h : s = t
      · simp [Exact.add, h]
      · simp [Exact.add, h, Ne.symm h]
    | fin b => rfl
    | nan => rfl
  | nan => cases b <;> rfl

omit [LinearOrder K] [FieldFunctions K] in
theorem add_assoc' (a b c : Exact K) :
    Exact.add (Exact.add a b) c = Exact.add a (Exact.add b c) := by
  cases a <;> cases b <;> cases c <;> simp only [Exact.add, add_assoc]
  -- Infinities of one sign add up, those of two signs to no number, however they are grouped.
  case inf.inf.inf s t u => cases s <;> cases t <;> cases u <;> rfl
  all_goals split_ifs <;> rfl

instance : AddCommMonoid (Exact K) where
  add_assoc := add_assoc'
  zero_add a := by
    change Exact.add (fin 0) a = a
    cases a <;> simp [Exact.add]
  add_zero a := by
    change Exact.add a (fin 0) = a
    cases a <;> simp [Exact.add]
  add_comm := add_comm'
  nsmul := nsmulRec

theorem mul_comm' (a b : Exact K) : a * b = b * a := by
  change Exact.mul a b = Exact.mul b a
  cases a <;> cases b <;> simp [Exact.mul, mul_comm, Bool.xor_comm]

theorem isFinite_iff {a : Exact K} : FloatArith.isFinite a = true ↔ ∃ v, a = fin v := by
  cases a with
  | fin v => exact ⟨fun _ => ⟨v, rfl⟩, fun _ => rfl⟩
  | inf s => exact ⟨fun h => absurd h Bool.false_ne_true, by rintro ⟨v, ⟨⟩⟩⟩
  | nan => exact ⟨fun h => absurd h Bool.false_ne_true, by rintro ⟨v, ⟨⟩⟩⟩

theorem isFinite_add {a b : Exact K} (ha : FloatArith.isFinite a = true)
    (hb : FloatArith.isFinite b = true) : FloatArith.isFinite (a + b) = true := by
  obtain ⟨v, rfl⟩ := isFinite_iff.mp ha
  obtain ⟨w, rfl⟩ := isFinite_iff.mp hb
  rfl

theorem isFinite_mul {a b : Exact K} (ha : FloatArith.isFinite a = true)
    (hb : FloatArith.isFinite b = true) : FloatArith.isFinite (a * b) = true := by
  obtain ⟨v, rfl⟩ := isFinite_iff.mp ha
  obtain ⟨w, rfl⟩ := isFinite_iff.mp hb
  rfl

def ofTop : WithTop K → Exact K
  | none => inf false
  | some v => fin v

def toTop : Exact K → WithTop K
  | fin v => some v
  | _ => ⊤

theorem ofTop_toTop {a : Exact K} (h : FloatArith.isFinite a = true) : ofTop (toTop a) = a := by
  obtain ⟨v, rfl⟩ := isFinite_iff.mp h
  rfl

omit [LinearOrder K] [Field K] [FieldFunctions K] in
@[simp] theorem ofTop_top : (ofTop ⊤ : Exact K) = inf false := rfl

omit [LinearOrder K] [Field K] [FieldFunctions K] in
@[simp] theorem ofTop_coe (v : K) : ofTop (v : WithTop K) = fin v := rfl

omit [Field K] [FieldFunctions K] in
@[simp] theorem ofTop_le_ofTop {a b : WithTop K} : ofTop a ≤ ofTop b ↔ a ≤ b := by
  induction a with
  | top => induction b <;> simp [le_def, Exact.le]
  | coe v => induction b <;> simp [le_def, Exact.le]

omit [Field K] [FieldFunctions K] in
@[simp] theorem ofTop_lt_ofTop {a b : WithTop K} : ofTop a < ofTop b ↔ a < b := by
  have h : ofTop a < ofTop b ↔ ofTop a ≤ ofTop b ∧ ¬ ofTop b ≤ ofTop a := by
    simp [lt_def, le_def, Exact.lt]
  rw [h, ofTop_le_ofTop, ofTop_le_ofTop, lt_iff_le_not_ge]

@[simp] theorem equal_ofTop {a b : WithTop K} : equal (ofTop a) (ofTop b) = true ↔ a = b := by
  have h : equal (ofTop a) (ofTop b) = true ↔ ofTop a ≤ ofTop b ∧ ofTop b ≤ ofTop a :=
    Bool.and_eq_true_iff
  rw [h, ofTop_le_ofTop, ofTop_le_ofTop, le_antisymm_iff]

omit [LinearOrder K] [Field K] [FieldFunctions K] in
theorem ofTop_inj {a b : WithTop K} : ofTop a = ofTop b ↔ a = b := by
  induction a with
  | top => induction b <;> simp
  | coe v => induction b <;> simp

theorem mul_self_eq_ofTop {r : Exact K} (h : 0 ≤ r) : ∃ bound, r * r = ofTop bound := by
  cases r with
  | fin v => exact ⟨(v * v : K), rfl⟩
  | inf s => exact ⟨⊤, by cases s <;> rfl⟩
  | nan => cases h

end PointcloudAd.Library.Exact
