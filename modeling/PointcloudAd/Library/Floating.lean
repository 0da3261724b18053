import Mathlib.Algebra.Order.Field.Rat
import Mathlib.Data.Rat.Sqrt
import Mathlib.Data.Rat.Floor
import Mathlib.Tactic.Common

/-!
# Floating-point operations

Programs are written over an arbitrary type with the operations of a binary floating-point type:
nothing about rounding is built in. Comparisons are false on a value that is not a number, so
`¬ a ≤ b` and `b < a` differ. `Exact K` completes a field with two infinities and one value that
is not a number, and computes without rounding.
-/

namespace PointcloudAd.Library

/-- The operations of a floating-point type. `equal` is its equality test, not Lean's. -/
class FloatArith (α : Type) extends Zero α, One α, Neg α, Add α, Sub α, Mul α, Div α, LT α, LE α
    where
  decidableLT : DecidableLT α
  decidableLE : DecidableLE α
  equal : α → α → Bool
  abs : α → α
  sqrt : α → α
  isFinite : α → Bool
  infinity : α
  maximum : α
  /-- The nearest value: decimal literals and conversions from integers. -/
  lit : ℚ → α

attribute [instance, reducible] FloatArith.decidableLT FloatArith.decidableLE

/-- The conversions between two floating-point types, and the functions of the wide one. -/
class Floats (F D : Type) [FloatArith F] [FloatArith D] where
  widen : F → D
  narrow : D → F
  cos : D → D
  sin : D → D
  acos : D → D
  atan2 : D → D → D
  /-- The least natural number that is not below the value, zero for one that has none. -/
  ceil : D → ℕ

export FloatArith (equal abs sqrt isFinite infinity maximum lit)
export Floats (widen narrow)

section Standard

variable {α : Type} [FloatArith α]

/-- The first argument on ties and on values that are not numbers, as in the standard library. -/
def stdMax (a b : α) : α := if a < b then b else a

/-- The first argument on ties and on values that are not numbers, as in the standard library. -/
def stdMin (a b : α) : α := if b < a then b else a

def stdClamp (v lo hi : α) : α := if v < lo then lo else if hi < v then hi else v

theorem stdMax_choice (a b : α) : stdMax a b = a ∨ stdMax a b = b := by
  unfold stdMax
  split_ifs
  · exact .inr rfl
  · exact .inl rfl

theorem stdMin_choice (a b : α) : stdMin a b = a ∨ stdMin a b = b := by
  unfold stdMin
  split_ifs
  · exact .inr rfl
  · exact .inl rfl

end Standard

/-- Comparisons are a linear order on the values that are numbers, which are those below
themselves. -/
class OrderedFloat (α : Type) [FloatArith α] : Prop where
  le_left {a b : α} : a ≤ b → a ≤ a
  le_right {a b : α} : a ≤ b → b ≤ b
  le_total {a b : α} : a ≤ a → b ≤ b → a ≤ b ∨ b ≤ a
  le_trans {a b c : α} : a ≤ b → b ≤ c → a ≤ c
  lt_iff {a b : α} : a < b ↔ a ≤ b ∧ ¬ b ≤ a
  abs_nonneg {a : α} : a ≤ a → 0 ≤ abs a

/-- Finite values are numbers, and the equality test is that of the order. -/
class FiniteNumbers (α : Type) [FloatArith α] : Prop where
  number {a : α} : isFinite a = true → a ≤ a
  equal_iff {a b : α} : equal a b = true ↔ a ≤ b ∧ b ≤ a

/-- Differences of finite values, taken in the wide type, are monotone. -/
class MonotoneDifferences (F D : Type) [FloatArith F] [FloatArith D] [Floats F D] : Prop where
  sub_le_sub {a a' b b' : F} : isFinite a = true → isFinite a' = true → isFinite b = true →
    isFinite b' = true → a ≤ a' → b' ≤ b → (widen a - widen b : D) ≤ widen a' - widen b'

/-- Rounded squares of differences keep the order of nested intervals, and rounded sums that of what
is not negative. -/
class RoundedDistances (F D : Type) [FloatArith F] [FloatArith D] [Floats F D] : Prop where
  zero_finite : isFinite (0 : F) = true
  zero_square : (0 : D) ≤ 0 * 0
  square_nonneg {a b : F} : isFinite a = true → isFinite b = true →
    (0 : D) ≤ (widen a - widen b) * (widen a - widen b)
  zero_le_square {a b : F} : isFinite a = true → isFinite b = true →
    (0 : D) * 0 ≤ (widen a - widen b) * (widen a - widen b)
  nested_left {a b c : F} : isFinite a = true → isFinite b = true → isFinite c = true → a ≤ b →
    b ≤ c → (widen b - widen a) * (widen b - widen a) ≤
      ((widen a - widen c) * (widen a - widen c) : D)
  nested_right {a b c : F} : isFinite a = true → isFinite b = true → isFinite c = true → a ≤ b →
    b ≤ c → (widen c - widen b) * (widen c - widen b) ≤
      ((widen c - widen a) * (widen c - widen a) : D)
  add_nonneg {a b : D} : 0 ≤ a → 0 ≤ b → 0 ≤ a + b
  add_le_add {a b c d : D} : 0 ≤ a → 0 ≤ b → a ≤ c → b ≤ d → a + b ≤ c + d

/-- Literals keep their order, and are finite and positive well inside the range of the type. -/
class LawfulLiterals (α : Type) [FloatArith α] : Prop where
  lit_le {p q : ℚ} : p ≤ q → (lit p : α) ≤ lit q
  lit_pos {q : ℚ} : 1 / 2 ^ 100 ≤ q → (0 : α) < lit q
  lit_one : (lit 1 : α) = 1
  lit_finite {q : ℚ} : |q| ≤ 2 ^ 100 → isFinite (lit q : α) = true

/-- Sums have the sign of what they are taken of, and absolute values grow away from zero. -/
class SignedFloat (α : Type) [FloatArith α] : Prop extends OrderedFloat α where
  add_pos {a b : α} : 0 ≤ a → 0 < b → 0 < a + b
  add_neg {a b : α} : a ≤ 0 → b < 0 → a + b < 0
  zero_le_zero : (0 : α) ≤ 0
  le_abs {a : α} : a ≤ a → a ≤ abs a
  abs_anti {a b : α} : a ≤ b → b ≤ 0 → abs b ≤ abs a

/-- The quotient of a number by a count has its sign: it does not underflow to zero. -/
def QuotientSigned {α : Type} [FloatArith α] (a : α) (n : ℕ) : Prop :=
  (0 < a → 0 < a / lit n) ∧ (a < 0 → a / lit n < 0)

/-- Zeros of two floating-point types, as far as a length of zero is concerned. -/
class LawfulZero (F D : Type) [FloatArith F] [FloatArith D] [Floats F D] : Prop where
  widen_zero : (widen (0 : F) : D) = 0
  mul_zero_zero : (0 : D) * 0 = 0
  add_zero_zero : (0 : D) + 0 = 0
  sqrt_zero : sqrt (0 : D) = 0
  not_lt_zero : ¬ (0 : D) < 0

/-- A difference and its mirror image have one square: rounding does not see signs. -/
class MirroredDifferences (F D : Type) [FloatArith F] [FloatArith D] [Floats F D] : Prop where
  mirror (a b : F) : (widen (a - b) * widen (a - b) : D) = widen (b - a) * widen (b - a)

/-- Negation goes through conversions and products, and turns a sum of three around zero. -/
class MirroredSums (F D : Type) [FloatArith F] [FloatArith D] [Floats F D] : Prop where
  widen_neg (a : F) : (widen (-a) : D) = -widen a
  neg_mul (a b : D) : -a * b = -(a * b)
  sum_neg {a b c : D} : a + b + c < 0 → 0 < -a + -b + -c

section Ordered

variable {α : Type} [FloatArith α] [OrderedFloat α] {a b c : α}

open OrderedFloat

theorem not_lt_of_number (ha : a ≤ a) (hb : b ≤ b) : ¬ a < b ↔ b ≤ a := by
  rw [lt_iff]
  constructor
  · intro h
    by_contra hn
    exact h ⟨(le_total ha hb).resolve_right hn, hn⟩
  · rintro h ⟨-, hn⟩
    exact hn h

theorem le_lt_trans (hab : a ≤ b) (hbc : b < c) : a < c := by
  obtain ⟨hle, hn⟩ := lt_iff.mp hbc
  exact lt_iff.mpr ⟨le_trans hab hle, fun h => hn (le_trans h hab)⟩

theorem lt_le_trans (hab : a < b) (hbc : b ≤ c) : a < c := by
  obtain ⟨hle, hn⟩ := lt_iff.mp hab
  exact lt_iff.mpr ⟨le_trans hle hbc, fun h => hn (le_trans hbc h)⟩

theorem number_lt_of_not_le (ha : a ≤ a) (hb : b ≤ b) (h : ¬ b ≤ a) : a < b :=
  lt_iff.mpr ⟨(le_total ha hb).resolve_right h, h⟩

theorem le_stdMax_iff (ha : a ≤ a) (hb : b ≤ b) : c ≤ stdMax a b ↔ c ≤ a ∨ c ≤ b := by
  unfold stdMax
  split_ifs with h
  · constructor
    · exact Or.inr
    · rintro (h' | h')
      · exact le_trans h' (lt_iff.mp h).1
      · exact h'
  · rw [not_lt_of_number ha hb] at h
    constructor
    · exact Or.inl
    · rintro (h' | h')
      · exact h'
      · exact le_trans h' h

omit [OrderedFloat α] in
theorem stdMax_number (ha : a ≤ a) (hb : b ≤ b) : stdMax a b ≤ stdMax a b := by
  unfold stdMax
  split_ifs <;> assumption

theorem stdMin_le_left (ha : a ≤ a) : stdMin a b ≤ a := by
  unfold stdMin
  split_ifs with h
  · exact (lt_iff.mp h).1
  · exact ha

theorem stdMin_le_right (ha : a ≤ a) (hb : b ≤ b) : stdMin a b ≤ b := by
  unfold stdMin
  split_ifs with h
  · exact hb
  · exact (not_lt_of_number hb ha).mp h

theorem stdMax_le_iff (ha : a ≤ a) (hb : b ≤ b) : stdMax a b ≤ c ↔ a ≤ c ∧ b ≤ c := by
  unfold stdMax
  split_ifs with h
  · exact ⟨fun hc => ⟨le_trans (lt_iff.mp h).1 hc, hc⟩, And.right⟩
  · rw [not_lt_of_number ha hb] at h
    exact ⟨fun hc => ⟨hc, le_trans h hc⟩, And.left⟩

theorem le_stdMin_iff (ha : a ≤ a) (hb : b ≤ b) : c ≤ stdMin a b ↔ c ≤ a ∧ c ≤ b := by
  unfold stdMin
  split_ifs with h
  · exact ⟨fun hc => ⟨le_trans hc (lt_iff.mp h).1, hc⟩, And.right⟩
  · rw [not_lt_of_number hb ha] at h
    exact ⟨fun hc => ⟨hc, le_trans hc h⟩, And.left⟩

theorem abs_number (ha : a ≤ a) : FloatArith.abs a ≤ FloatArith.abs a := le_right (abs_nonneg ha)

/-- Indices with numbers are ordered by these, and by index where they are equal. -/
theorem indexed_total [FiniteNumbers α] {value : ℤ → α} (hnumber : ∀ c, value c ≤ value c) :
    IsStrictTotalOrder ℤ fun a b =>
      value a < value b ∨ (equal (value a) (value b) = true ∧ a < b) := by
  simp only [FiniteNumbers.equal_iff, lt_iff]
  refine { trichotomous := ?_, irrefl := ?_, trans := ?_ }
  · intro a b hab hba
    rw [not_or] at hab hba
    rcases le_total (hnumber a) (hnumber b) with h | h
    · have h' : value b ≤ value a := not_not.mp fun hn => hab.1 ⟨h, hn⟩
      have hle : ¬ a < b := fun hlt => hab.2 ⟨⟨h, h'⟩, hlt⟩
      have hge : ¬ b < a := fun hlt => hba.2 ⟨⟨h', h⟩, hlt⟩
      omega
    · have h' : value a ≤ value b := not_not.mp fun hn => hba.1 ⟨h, hn⟩
      have hle : ¬ a < b := fun hlt => hab.2 ⟨⟨h', h⟩, hlt⟩
      have hge : ¬ b < a := fun hlt => hba.2 ⟨⟨h, h'⟩, hlt⟩
      omega
  · rintro a (⟨h, hn⟩ | ⟨-, h⟩)
    · exact hn h
    · exact lt_irrefl a h
  · rintro a b c (⟨hab, hba⟩ | ⟨⟨hab, hba⟩, hlt⟩) (⟨hbc, hcb⟩ | ⟨⟨hbc, hcb⟩, hlt'⟩)
    · exact .inl ⟨le_trans hab hbc, fun h => hba (le_trans hbc h)⟩
    · exact .inl ⟨le_trans hab hbc, fun h => hba (le_trans hbc h)⟩
    · exact .inl ⟨le_trans hab hbc, fun h => hcb (le_trans h hab)⟩
    · exact .inr ⟨⟨le_trans hab hbc, le_trans hcb hba⟩, hlt.trans hlt'⟩

theorem le_foldl_stdMax_iff {ι : Type} (f : ι → α) :
    ∀ (l : List ι) (m : α), m ≤ m → (∀ i ∈ l, f i ≤ f i) →
      (c ≤ l.foldl (fun m i => stdMax m (f i)) m ↔ c ≤ m ∨ ∃ i ∈ l, c ≤ f i)
  | [], m, _, _ => by simp
  | i :: l, m, hm, hl => by
    have hi : f i ≤ f i := hl i (by simp)
    rw [List.foldl_cons, le_foldl_stdMax_iff f l _ (stdMax_number hm hi)
      fun j hj => hl j (by simp [hj]), le_stdMax_iff hm hi]
    simp [or_assoc]

end Ordered

/-- The functions of a field that a numeric program may call. -/
class FieldFunctions (K : Type) where
  sqrt : K → K
  cos : K → K
  sin : K → K
  acos : K → K
  atan2 : K → K → K
  ceil : K → ℕ

/-- A number of the field, an infinity with its sign, or no number. -/
inductive Exact (K : Type) where
  | fin (v : K)
  | inf (negative : Bool)
  | nan
  deriving DecidableEq, Repr

namespace Exact

variable {K : Type} [LinearOrder K] [Field K] [FieldFunctions K]

protected def neg : Exact K → Exact K
  | fin a => fin (-a)
  | inf s => inf !s
  | nan => nan

protected def add : Exact K → Exact K → Exact K
  | fin a, fin b => fin (a + b)
  | inf s, inf t => if s = t then inf s else nan
  | inf s, fin _ | fin _, inf s => inf s
  | nan, _ | _, nan => nan

protected def mul : Exact K → Exact K → Exact K
  | fin a, fin b => fin (a * b)
  | inf s, inf t => inf (s != t)
  | inf s, fin a | fin a, inf s => if a = 0 then nan else inf (s != decide (a < 0))
  | nan, _ | _, nan => nan

protected def div : Exact K → Exact K → Exact K
  | fin a, fin b => if b = 0 then if a = 0 then nan else inf (decide (a < 0)) else fin (a / b)
  | fin _, inf _ => fin 0
  | inf s, fin b => inf (s != decide (b < 0))
  | inf _, inf _ => nan
  | nan, _ | _, nan => nan

protected def le : Exact K → Exact K → Bool
  | fin a, fin b => decide (a ≤ b)
  | inf s, inf t => s || !t
  | inf s, fin _ => s
  | fin _, inf t => !t
  | nan, _ | _, nan => false

protected def lt (a b : Exact K) : Bool := a.le b && !b.le a

protected def abs : Exact K → Exact K
  | fin a => fin (max a (-a))
  | inf _ => inf false
  | nan => nan

protected def sqrt : Exact K → Exact K
  | fin a => if a < 0 then nan else fin (FieldFunctions.sqrt a)
  | inf false => inf false
  | inf true => nan
  | nan => nan

protected def isFinite : Exact K → Bool
  | fin _ => true
  | _ => false

instance : LE (Exact K) := ⟨fun a b => a.le b = true⟩
instance : LT (Exact K) := ⟨fun a b => a.lt b = true⟩
instance : DecidableLE (Exact K) := fun a b => inferInstanceAs (Decidable (a.le b = true))
instance : DecidableLT (Exact K) := fun a b => inferInstanceAs (Decidable (a.lt b = true))

/-- The greatest finite value of a 32-bit binary floating-point type. -/
def floatMaximum : ℚ := (2 ^ 24 - 1) * 2 ^ 104

instance : FloatArith (Exact K) where
  zero := fin 0
  one := fin 1
  neg := Exact.neg
  add := Exact.add
  sub a b := a.add b.neg
  mul := Exact.mul
  div := Exact.div
  decidableLT := inferInstance
  decidableLE := inferInstance
  equal a b := a.le b && b.le a
  abs := Exact.abs
  sqrt := Exact.sqrt
  isFinite := Exact.isFinite
  infinity := inf false
  maximum := fin (floatMaximum.num / floatMaximum.den)
  lit q := fin (q.num / q.den)

/-- A function of the field, on numbers only. -/
def lift (f : K → K) : Exact K → Exact K
  | fin a => fin (f a)
  | _ => nan

instance : Floats (Exact K) (Exact K) where
  widen a := a
  narrow a := a
  cos := lift FieldFunctions.cos
  sin := lift FieldFunctions.sin
  acos := lift FieldFunctions.acos
  atan2
    | fin a, fin b => fin (FieldFunctions.atan2 a b)
    | _, _ => nan
  ceil
    | fin a => FieldFunctions.ceil a
    | _ => 0

section Order

omit [Field K] [FieldFunctions K]

theorem le_def {a b : Exact K} : a ≤ b ↔ a.le b = true := Iff.rfl

theorem lt_def {a b : Exact K} : a < b ↔ a.lt b = true := Iff.rfl

@[simp] theorem fin_le_fin {a b : K} : (fin a : Exact K) ≤ fin b ↔ a ≤ b := by
  simp [le_def, Exact.le]

@[simp] theorem fin_lt_fin {a b : K} : (fin a : Exact K) < fin b ↔ a < b := by
  simp only [lt_def, Exact.lt, Exact.le, Bool.and_eq_true, Bool.not_eq_true', decide_eq_true_eq,
    decide_eq_false_iff_not, not_le, and_iff_right_iff_imp]
  exact le_of_lt

end Order

@[simp] theorem fin_add_fin (a b : K) : (fin a : Exact K) + fin b = fin (a + b) := rfl

@[simp] theorem fin_mul_fin (a b : K) : (fin a : Exact K) * fin b = fin (a * b) := rfl

@[simp] theorem neg_fin (a : K) : -(fin a : Exact K) = fin (-a) := rfl

@[simp] theorem fin_sub_fin (a b : K) : (fin a : Exact K) - fin b = fin (a - b) := by
  change fin (a + -b) = fin (a - b)
  rw [sub_eq_add_neg]

theorem zero_eq_fin : (0 : Exact K) = fin 0 := rfl

theorem one_eq_fin : (1 : Exact K) = fin 1 := rfl

instance [IsStrictOrderedRing K] : OrderedFloat (Exact K) where
  le_left {a b} h := by cases a <;> cases b <;> simp_all [le_def, Exact.le]
  le_right {a b} h := by cases a <;> cases b <;> simp_all [le_def, Exact.le]
  le_total {a b} ha hb := by
    cases a <;> cases b <;> simp_all [le_def, Exact.le, le_total]
    rename_i s t
    cases s <;> cases t <;> simp
  le_trans {a b c} hab hbc := by
    cases a <;> cases b <;> cases c <;> simp_all [le_def, Exact.le]
    · exact hab.trans hbc
    · rename_i s t u
      cases s <;> cases t <;> simp_all
  lt_iff {a b} := by simp [le_def, lt_def, Exact.lt]
  abs_nonneg {a} h := by
    cases a with
    | fin a => exact fin_le_fin.mpr (by rw [← abs_eq_max_neg]; exact abs_nonneg a)
    | inf s => rfl
    | nan => cases h

instance : FiniteNumbers (Exact K) where
  number {a} h := by
    cases a with
    | fin v => exact decide_eq_true le_rfl
    | inf s => cases h
    | nan => cases h
  equal_iff := Bool.and_eq_true_iff

theorem lit_eq_fin (q : ℚ) : (lit q : Exact K) = fin ((q.num : K) / (q.den : K)) := rfl

theorem lit_eq_cast (q : ℚ) : (lit q : Exact K) = fin (q : K) := by
  rw [lit_eq_fin, Rat.cast_def]

theorem lit_natCast (n : ℕ) : (lit (n : ℚ) : Exact K) = fin (n : K) := by
  rw [lit_eq_cast, Rat.cast_natCast]

theorem fin_div_fin {a b : K} (hb : b ≠ 0) : (fin a : Exact K) / fin b = fin (a / b) :=
  if_neg hb

theorem abs_fin (a : K) : FloatArith.abs (fin a : Exact K) = fin |a| := by
  rw [abs_eq_max_neg]
  rfl

section Laws

variable [IsStrictOrderedRing K]

instance : LawfulLiterals (Exact K) where
  lit_le {p q} h := by
    rw [lit_eq_cast, lit_eq_cast, fin_le_fin]
    exact_mod_cast h
  lit_pos {q} h := by
    rw [lit_eq_cast, zero_eq_fin, fin_lt_fin]
    have hpos : (0 : ℚ) < q := lt_of_lt_of_le (by positivity) h
    exact_mod_cast hpos
  lit_one := by
    rw [lit_eq_cast, one_eq_fin, Rat.cast_one]
  lit_finite _ := rfl

omit [IsStrictOrderedRing K] in
theorem zero_lt_iff {a : Exact K} : 0 < a ↔ (∃ v, a = fin v ∧ 0 < v) ∨ a = inf false := by
  rw [zero_eq_fin]
  cases a with
  | fin v => simp
  | inf s => cases s <;> simp [lt_def, Exact.lt, Exact.le]
  | nan => simp [lt_def, Exact.lt, Exact.le]

omit [IsStrictOrderedRing K] in
theorem lt_zero_iff {a : Exact K} : a < 0 ↔ (∃ v, a = fin v ∧ v < 0) ∨ a = inf true := by
  rw [zero_eq_fin]
  cases a with
  | fin v => simp
  | inf s => cases s <;> simp [lt_def, Exact.lt, Exact.le]
  | nan => simp [lt_def, Exact.lt, Exact.le]

omit [IsStrictOrderedRing K] in
theorem zero_le_iff {a : Exact K} : 0 ≤ a ↔ (∃ v, a = fin v ∧ 0 ≤ v) ∨ a = inf false := by
  rw [zero_eq_fin]
  cases a with
  | fin v => simp
  | inf s => cases s <;> simp [le_def, Exact.le]
  | nan => simp [le_def, Exact.le]

omit [IsStrictOrderedRing K] in
theorem le_zero_iff {a : Exact K} : a ≤ 0 ↔ (∃ v, a = fin v ∧ v ≤ 0) ∨ a = inf true := by
  rw [zero_eq_fin]
  cases a with
  | fin v => simp
  | inf s => cases s <;> simp [le_def, Exact.le]
  | nan => simp [le_def, Exact.le]

instance : MonotoneDifferences (Exact K) (Exact K) where
  sub_le_sub {a a' b b'} ha ha' hb hb' h h' := by
    cases a <;> cases a' <;> cases b <;> cases b' <;> try contradiction
    rw [fin_le_fin] at h h'
    change fin _ - fin _ ≤ fin _ - fin _
    rw [fin_sub_fin, fin_sub_fin, fin_le_fin]
    exact sub_le_sub h h'

instance : RoundedDistances (Exact K) (Exact K) where
  zero_finite := rfl
  zero_square := by
    rw [zero_eq_fin, fin_mul_fin, mul_zero, fin_le_fin]
  square_nonneg {a b} ha hb := by
    cases a <;> cases b <;> try contradiction
    change (0 : Exact K) ≤ (fin _ - fin _) * (fin _ - fin _)
    rw [fin_sub_fin, fin_mul_fin, zero_eq_fin, fin_le_fin]
    exact mul_self_nonneg _
  zero_le_square {a b} ha hb := by
    cases a <;> cases b <;> try contradiction
    change (0 : Exact K) * 0 ≤ (fin _ - fin _) * (fin _ - fin _)
    rw [fin_sub_fin, fin_mul_fin, zero_eq_fin, fin_mul_fin, mul_zero, fin_le_fin]
    exact mul_self_nonneg _
  nested_left {a b c} ha hb hc hab hbc := by
    cases a <;> cases b <;> cases c <;> try contradiction
    rename_i a b c
    rw [fin_le_fin] at hab hbc
    change (fin b - fin a) * (fin b - fin a) ≤ (fin a - fin c) * (fin a - fin c)
    rw [fin_sub_fin, fin_sub_fin, fin_mul_fin, fin_mul_fin, fin_le_fin, ← neg_sub c a, neg_mul_neg]
    exact mul_self_le_mul_self (sub_nonneg.mpr hab) (sub_le_sub_right hbc a)
  nested_right {a b c} ha hb hc hab hbc := by
    cases a <;> cases b <;> cases c <;> try contradiction
    rename_i a b c
    rw [fin_le_fin] at hab hbc
    change (fin c - fin b) * (fin c - fin b) ≤ (fin c - fin a) * (fin c - fin a)
    rw [fin_sub_fin, fin_sub_fin, fin_mul_fin, fin_mul_fin, fin_le_fin]
    exact mul_self_le_mul_self (sub_nonneg.mpr hbc) (sub_le_sub_left hab c)
  add_nonneg {a b} ha hb := by
    rcases zero_le_iff.mp ha with ⟨v, rfl, hv⟩ | rfl <;>
      rcases zero_le_iff.mp hb with ⟨w, rfl, hw⟩ | rfl
    · exact fin_le_fin.mpr (by positivity)
    · rfl
    · rfl
    · rfl
  add_le_add {a b c d} ha hb hac hbd := by
    rcases zero_le_iff.mp (OrderedFloat.le_trans ha hac) with ⟨v, rfl, hv⟩ | rfl <;>
      rcases zero_le_iff.mp (OrderedFloat.le_trans hb hbd) with ⟨w, rfl, hw⟩ | rfl <;>
      rcases zero_le_iff.mp ha with ⟨x, rfl, hx⟩ | rfl <;>
      rcases zero_le_iff.mp hb with ⟨y, rfl, hy⟩ | rfl <;>
      first
        | exact fin_le_fin.mpr (add_le_add (fin_le_fin.mp hac) (fin_le_fin.mp hbd))
        | rfl
        | cases hac
        | cases hbd

instance mirroredExact : MirroredDifferences (Exact K) (Exact K) where
  mirror a b := by
    change (a - b) * (a - b) = (b - a) * (b - a)
    cases a with
    | fin a =>
      cases b with
      | fin b =>
        rw [fin_sub_fin, fin_sub_fin, fin_mul_fin, fin_mul_fin, ← neg_sub b a, neg_mul_neg]
      | inf t => cases t <;> rfl
      | nan => rfl
    | inf s =>
      cases b with
      | fin b => cases s <;> rfl
      | inf t => cases s <;> cases t <;> rfl
      | nan => rfl
    | nan => cases b <;> rfl

omit [IsStrictOrderedRing K] in
theorem neg_add_neg (a b : Exact K) : -a + -b = -(a + b) := by
  change Exact.add (Exact.neg a) (Exact.neg b) = Exact.neg (Exact.add a b)
  cases a with
  | fin v =>
    cases b with
    | fin w => simp [Exact.add, Exact.neg, add_comm]
    | inf t => rfl
    | nan => rfl
  | inf s =>
    cases b with
    | fin w => rfl
    | inf t => cases s <;> cases t <;> rfl
    | nan => rfl
  | nan => cases b <;> rfl

theorem zero_lt_neg {a : Exact K} (h : a < 0) : 0 < -a := by
  rcases lt_zero_iff.mp h with ⟨v, rfl, hv⟩ | rfl
  · exact fin_lt_fin.mpr (neg_pos.mpr hv)
  · exact zero_lt_iff.mpr (.inr rfl)

theorem neg_mul_exact (a b : Exact K) : -a * b = -(a * b) := by
  change Exact.mul (Exact.neg a) b = Exact.neg (Exact.mul a b)
  cases a with
  | fin v =>
    cases b with
    | fin w => simp [Exact.mul, Exact.neg]
    | inf t =>
      rcases lt_trichotomy v 0 with hv | rfl | hv
      · simp [Exact.mul, Exact.neg, hv.ne, hv, hv.not_gt]
      · simp [Exact.mul, Exact.neg]
      · simp [Exact.mul, Exact.neg, hv.ne', hv, hv.not_gt]
    | nan => rfl
  | inf s =>
    cases b with
    | fin w =>
      by_cases hw : w = 0
      · simp [Exact.mul, Exact.neg, hw]
      · simp [Exact.mul, Exact.neg, hw]
    | inf t => simp [Exact.mul, Exact.neg]
    | nan => rfl
  | nan => cases b <;> rfl

instance mirroredSumsExact : MirroredSums (Exact K) (Exact K) where
  widen_neg _ := rfl
  neg_mul := neg_mul_exact
  sum_neg {a b c} h := by
    rw [neg_add_neg, neg_add_neg]
    exact zero_lt_neg h

instance : SignedFloat (Exact K) where
  add_pos {a b} ha hb := by
    rcases zero_le_iff.mp ha with ⟨v, rfl, hv⟩ | rfl
    · rcases zero_lt_iff.mp hb with ⟨w, rfl, hw⟩ | rfl
      · exact fin_lt_fin.mpr (add_pos_of_nonneg_of_pos hv hw)
      · exact zero_lt_iff.mpr (.inr rfl)
    · rcases zero_lt_iff.mp hb with ⟨w, rfl, hw⟩ | rfl
      · exact zero_lt_iff.mpr (.inr rfl)
      · exact zero_lt_iff.mpr (.inr rfl)
  add_neg {a b} ha hb := by
    rcases le_zero_iff.mp ha with ⟨v, rfl, hv⟩ | rfl
    · rcases lt_zero_iff.mp hb with ⟨w, rfl, hw⟩ | rfl
      · exact fin_lt_fin.mpr (add_neg_of_nonpos_of_neg hv hw)
      · exact lt_zero_iff.mpr (.inr rfl)
    · rcases lt_zero_iff.mp hb with ⟨w, rfl, hw⟩ | rfl
      · exact lt_zero_iff.mpr (.inr rfl)
      · exact lt_zero_iff.mpr (.inr rfl)
  zero_le_zero := fin_le_fin.mpr le_rfl
  le_abs {a} h := by
    cases a with
    | fin v =>
      rw [abs_fin, fin_le_fin]
      exact le_abs_self v
    | inf s => cases s <;> rfl
    | nan => cases h
  abs_anti {a b} hab hb := by
    rcases le_zero_iff.mp hb with ⟨w, rfl, hw⟩ | rfl
    · cases a with
      | fin v =>
        rw [abs_fin, abs_fin, fin_le_fin]
        exact abs_le_abs_of_nonpos hw (fin_le_fin.mp hab)
      | inf s => rfl
      | nan => cases hab
    · cases a with
      | fin v => cases hab
      | inf s => rfl
      | nan => cases hab

/-- Exact quotients by a count do not underflow. -/
theorem quotientSigned_exact {a : Exact K} {n : ℕ} (hn : 0 < n) : QuotientSigned a n := by
  have hn : (0 : K) < n := Nat.cast_pos.mpr hn
  unfold QuotientSigned
  rw [lit_natCast]
  constructor
  · intro ha
    rcases zero_lt_iff.mp ha with ⟨v, rfl, hv⟩ | rfl
    · rw [fin_div_fin hn.ne', zero_eq_fin, fin_lt_fin]
      exact div_pos hv hn
    · refine zero_lt_iff.mpr (.inr ?_)
      change inf (false != decide ((n : K) < 0)) = inf false
      rw [decide_eq_false hn.le.not_gt]
      rfl
  · intro ha
    rcases lt_zero_iff.mp ha with ⟨v, rfl, hv⟩ | rfl
    · rw [fin_div_fin hn.ne', zero_eq_fin, fin_lt_fin]
      exact div_neg_of_neg_of_pos hv hn
    · refine lt_zero_iff.mpr (.inr ?_)
      change inf (true != decide ((n : K) < 0)) = inf true
      rw [decide_eq_false hn.le.not_gt]
      rfl

end Laws

end Exact

/-- Square roots of a field that are right at zero. -/
class LawfulFunctions (K : Type) [Zero K] [FieldFunctions K] : Prop where
  sqrt_zero : FieldFunctions.sqrt (0 : K) = 0

instance {K : Type} [LinearOrder K] [Field K] [FieldFunctions K] [LawfulFunctions K] :
    LawfulZero (Exact K) (Exact K) where
  widen_zero := rfl
  mul_zero_zero := congrArg Exact.fin (mul_zero 0)
  add_zero_zero := congrArg Exact.fin (add_zero 0)
  sqrt_zero := by
    change Exact.sqrt (.fin 0) = Exact.fin (0 : K)
    rw [Exact.sqrt, if_neg (lt_irrefl 0), LawfulFunctions.sqrt_zero]
  not_lt_zero := by
    change ¬ Exact.fin (0 : K) < Exact.fin 0
    simp

/-- Rational arithmetic. Square roots are exact on squares, the angle functions at zero; `atan2` is
a pseudo-angle, which grows with the angle. -/
instance : FieldFunctions ℚ where
  sqrt := Rat.sqrt
  cos a := if a = 0 then 1 else 1 - a * a / 2
  sin a := a
  acos a := if a = 1 then 0 else 1 - a
  atan2 y x := if 0 < x then if 0 ≤ y then y / (x + y) else -(-y / (x - y))
    else if 0 < y then 1 + -x / (y - x) else if y < 0 then -(1 + -x / (-x - y)) else if x < 0
    then 2 else 0
  ceil a := ⌈a⌉.toNat

instance : LawfulFunctions ℚ := ⟨by decide +kernel⟩

end PointcloudAd.Library
