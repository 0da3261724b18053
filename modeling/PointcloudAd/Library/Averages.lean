import Mathlib.Algebra.Order.Floor.Ring
import PointcloudAd.Library.RealArithmetic

/-!
# Floors and means

The greatest integral value below a floating-point value, and what rounding leaves of means and of
vectors that are divided by their length. Without rounding, the mean of values of one half-open cell
lies in this cell.
-/

namespace PointcloudAd.Library

/-- Rounding down to an integral value, and the integer of an integral value. -/
class FloorFunctions (D : Type) where
  floor : D → D
  toInt : D → ℤ

/-- Means of finite values are finite, as they are while rounding does not push a mean past the
greatest value, and so are vectors that are divided by their length. -/
class FiniteMeans (F D : Type) [FloatArith F] [FloatArith D] [Floats F D] : Prop where
  zero_finite : isFinite (0 : F) = true
  mean_finite {values : List F} : values ≠ [] → (∀ v ∈ values, isFinite v = true) →
    isFinite (narrow (values.foldl (fun sum v => sum + widen v) (0 : D) / lit values.length) : F) =
      true
  unit_finite {x y z a : D} : 0 < sqrt (x * x + y * y + z * z) →
    isFinite (sqrt (x * x + y * y + z * z)) = true → a = x ∨ a = y ∨ a = z →
    isFinite (narrow (a / sqrt (x * x + y * y + z * z)) : F) = true

namespace Exact

variable {K : Type} [LinearOrder K] [Field K] [FieldFunctions K]

instance floorExact [FloorRing K] [IsStrictOrderedRing K] : FloorFunctions (Exact K) where
  floor
    | fin a => fin ⌊a⌋
    | inf s => inf s
    | nan => nan
  toInt
    | fin a => ⌊a⌋
    | inf _ | nan => 0

theorem foldl_fin {values : List (Exact K)} (h : ∀ v ∈ values, isFinite v = true) (start : K) :
    ∃ sum : K, values.foldl (fun sum v => sum + widen v) (fin start) = fin sum := by
  induction values generalizing start with
  | nil => exact ⟨start, rfl⟩
  | cons v values ih =>
    cases v with
    | fin a => exact ih (fun w hw => h w (by simp [hw])) (start + a)
    | inf s => cases h (inf s) (by simp)
    | nan => cases h nan (by simp)

theorem add_finite {a b : Exact K} (h : isFinite (a + b) = true) :
    isFinite a = true ∧ isFinite b = true := by
  cases a with
  | fin v =>
    cases b with
    | fin w => exact ⟨rfl, rfl⟩
    | inf t => cases h
    | nan => cases h
  | inf s =>
    cases b with
    | fin w => cases h
    | inf t =>
      change isFinite (if s = t then inf s else nan : Exact K) = true at h
      split_ifs at h <;> cases h
    | nan => cases h
  | nan => cases b <;> cases h

theorem square_finite {a : Exact K} (h : isFinite (a * a) = true) : isFinite a = true := by
  cases a with
  | fin v => rfl
  | inf s => cases h
  | nan => cases h

theorem sqrt_finite {a : Exact K} (h : isFinite (sqrt a) = true) : isFinite a = true := by
  cases a with
  | fin v => rfl
  | inf s => cases s <;> cases h
  | nan => cases h

theorem div_finite {a b : Exact K} (ha : isFinite a = true) (hb : isFinite b = true)
    (hpos : 0 < b) :
    isFinite (a / b) = true := by
  cases a with
  | fin v =>
    cases b with
    | fin w =>
      rw [zero_eq_fin, fin_lt_fin] at hpos
      rw [fin_div_fin hpos.ne']
      rfl
    | inf t => rfl
    | nan => cases hb
  | inf s => cases ha
  | nan => cases ha

instance finiteMeansExact [IsStrictOrderedRing K] : FiniteMeans (Exact K) (Exact K) where
  zero_finite := rfl
  mean_finite {values} hne h := by
    obtain ⟨sum, hsum⟩ := foldl_fin h 0
    have hcount : 0 < values.length := List.length_pos_iff.mpr hne
    rw [zero_eq_fin, hsum, lit_natCast]
    apply div_finite rfl rfl
    rw [zero_eq_fin, fin_lt_fin]
    exact Nat.cast_pos.mpr hcount
  unit_finite {x y z a} hpos hlength ha := by
    obtain ⟨hxy, hz⟩ := add_finite (sqrt_finite hlength)
    obtain ⟨hx, hy⟩ := add_finite hxy
    apply div_finite _ hlength hpos
    rcases ha with rfl | rfl | rfl
    · exact square_finite hx
    · exact square_finite hy
    · exact square_finite hz

end Exact

noncomputable instance floorReal : FloorFunctions ℝ where
  floor a := (⌊a⌋ : ℝ)
  toInt a := ⌊a⌋

instance finiteMeansReal : FiniteMeans ℝ ℝ where
  zero_finite := rfl
  mean_finite _ _ := rfl
  unit_finite _ _ _ := rfl

section Mean

variable {values : List ℝ} {size : ℝ} {k : ℤ}

theorem foldl_real (values : List ℝ) (start : ℝ) :
    values.foldl (fun sum v => sum + widen v) start = start + values.sum := by
  induction values generalizing start with
  | nil => simp
  | cons v values ih =>
    rw [List.foldl_cons, ih, List.sum_cons, real_widen, add_assoc]

theorem floor_div_eq_iff (hsize : 0 < size) {v : ℝ} :
    ⌊v / size⌋ = k ↔ k * size ≤ v ∧ v < (k + 1) * size := by
  rw [Int.floor_eq_iff, le_div_iff₀ hsize, div_lt_iff₀ hsize]

theorem sum_mem_cell (hcell : ∀ v ∈ values, k * size ≤ v ∧ v < (k + 1) * size) :
    values.length * (k * size) ≤ values.sum ∧
      (values ≠ [] → values.sum < values.length * ((k + 1) * size)) := by
  induction values with
  | nil => simp
  | cons v values ih =>
    obtain ⟨hlow, hhigh⟩ := hcell v (by simp)
    obtain ⟨ihlow, ihhigh⟩ := ih fun w hw => hcell w (by simp [hw])
    rw [List.sum_cons, List.length_cons, Nat.cast_succ, add_one_mul (values.length : ℝ),
      add_one_mul (values.length : ℝ)]
    refine ⟨by linarith, fun _ => ?_⟩
    rcases eq_or_ne values [] with rfl | hne
    · simpa using hhigh
    · linarith [ihhigh hne]

theorem floor_mean_div (hsize : 0 < size) (hne : values ≠ [])
    (hcell : ∀ v ∈ values, ⌊v / size⌋ = k) :
    ⌊values.sum / values.length / size⌋ = k := by
  have hcount : 0 < (values.length : ℝ) := Nat.cast_pos.mpr (List.length_pos_iff.mpr hne)
  obtain ⟨hlow, hhigh⟩ := sum_mem_cell fun v hv => (floor_div_eq_iff hsize).mp (hcell v hv)
  rw [floor_div_eq_iff hsize, le_div_iff₀ hcount, div_lt_iff₀ hcount, mul_comm (k * size),
    mul_comm ((k + 1) * size)]
  exact ⟨hlow, hhigh hne⟩

end Mean

end PointcloudAd.Library
