import Mathlib.Algebra.Order.BigOperators.Group.List
import Mathlib.Algebra.Order.Field.Basic
import Mathlib.Algebra.Order.Floor.Semiring
import Mathlib.Data.List.Sort
import Mathlib.Tactic.FieldSimp
import Mathlib.Tactic.Linarith
import Mathlib.Tactic.Ring

/-!
# Means and ranks

The mean of a list and its mean square, the bounds of a mean, and the value at a rank of a sorted
list: how many values are not greater, and how many are smaller.
-/

namespace PointcloudAd.Library

section Ranks

variable {α : Type} [LinearOrder α]

theorem lt_countP_le_getElem {l : List α} (h : l.Pairwise (· ≤ ·)) :
    ∀ k (hk : k < l.length), k < l.countP fun a => a ≤ l[k] := by
  induction l with
  | nil =>
    intro k hk
    simp at hk
  | cons a l ih =>
    obtain ⟨hhead, htail⟩ := List.pairwise_cons.mp h
    intro k hk
    cases k with
    | zero => simp
    | succ k =>
      have hk' : k < l.length := by simpa using hk
      have hle : a ≤ l[k] := hhead _ (List.getElem_mem hk')
      have hcount := ih htail k hk'
      simp only [List.getElem_cons_succ, List.countP_cons, hle, decide_true, if_true]
      omega

/-- From its rank on, no value is smaller. -/
theorem countP_lt_getElem_le {l : List α} (h : l.Pairwise (· ≤ ·)) :
    ∀ k (hk : k < l.length), (l.countP fun a => a < l[k]) ≤ k := by
  induction l with
  | nil =>
    intro k hk
    simp at hk
  | cons a l ih =>
    obtain ⟨hhead, htail⟩ := List.pairwise_cons.mp h
    intro k hk
    cases k with
    | zero =>
      rw [Nat.le_zero, List.countP_eq_zero]
      intro b hb
      rcases List.mem_cons.mp hb with rfl | hb
      · simp
      · simpa using hhead b hb
    | succ k =>
      have hk' : k < l.length := by simpa using hk
      have hcount := ih htail k hk'
      simp only [List.getElem_cons_succ, List.countP_cons]
      split_ifs <;> omega

end Ranks

section Means

variable {K : Type} [Field K] [LinearOrder K] [IsStrictOrderedRing K]

theorem le_sum {l : List K} {low : K} (h : ∀ x ∈ l, low ≤ x) : l.length * low ≤ l.sum := by
  induction l with
  | nil => simp
  | cons x l ih =>
    have hx : low ≤ x := h x (by simp)
    have hl := ih fun y hy => h y (by simp [hy])
    rw [List.length_cons, List.sum_cons, Nat.cast_succ]
    linarith

theorem sum_le {l : List K} {high : K} (h : ∀ x ∈ l, x ≤ high) : l.sum ≤ l.length * high := by
  induction l with
  | nil => simp
  | cons x l ih =>
    have hx : x ≤ high := h x (by simp)
    have hl := ih fun y hy => h y (by simp [hy])
    rw [List.length_cons, List.sum_cons, Nat.cast_succ]
    linarith

omit [LinearOrder K] [IsStrictOrderedRing K] in
theorem sum_squared_distances (l : List K) (m : K) :
    (l.map fun x => (x - m) * (x - m)).sum =
      (l.map fun x => x * x).sum - 2 * m * l.sum + l.length * (m * m) := by
  induction l with
  | nil => simp
  | cons x l ih =>
    simp only [List.map_cons, List.sum_cons, List.length_cons, Nat.cast_succ, ih]
    ring

theorem mean_mul_self_le {l : List K} (hne : l ≠ []) :
    l.sum / l.length * (l.sum / l.length) ≤ (l.map fun x => x * x).sum / l.length := by
  have hpos : (0 : K) < l.length := Nat.cast_pos.mpr (List.length_pos_iff.mpr hne)
  have hvariance : 0 ≤ (l.map fun x => (x - l.sum / l.length) * (x - l.sum / l.length)).sum := by
    apply List.sum_nonneg
    intro y hy
    obtain ⟨x, -, rfl⟩ := List.mem_map.mp hy
    exact mul_self_nonneg _
  rw [sum_squared_distances] at hvariance
  rw [le_div_iff₀ hpos]
  field_simp at hvariance ⊢
  linarith

theorem mean_squares_le {l : List K} (hne : l ≠ []) {bound : K} (h : ∀ x ∈ l, |x| ≤ bound) :
    (l.map fun x => x * x).sum / l.length ≤ bound * bound := by
  have hpos : (0 : K) < l.length := Nat.cast_pos.mpr (List.length_pos_iff.mpr hne)
  have hsquares : ∀ y ∈ l.map fun x => x * x, y ≤ bound * bound := by
    intro y hy
    obtain ⟨x, hx, rfl⟩ := List.mem_map.mp hy
    rw [← abs_mul_abs_self x]
    exact mul_self_le_mul_self (abs_nonneg x) (h x hx)
  have hsum := sum_le hsquares
  rw [List.length_map] at hsum
  rw [div_le_iff₀ hpos, mul_comm (bound * bound)]
  exact hsum

theorem mean_bounds {l : List K} (hne : l ≠ []) {low high : K} (h : ∀ x ∈ l, low ≤ x ∧ x ≤ high) :
    low ≤ l.sum / l.length ∧ l.sum / l.length ≤ high := by
  have hpos : (0 : K) < l.length := Nat.cast_pos.mpr (List.length_pos_iff.mpr hne)
  have hlow := le_sum fun x hx => (h x hx).1
  have hhigh := sum_le fun x hx => (h x hx).2
  constructor
  · rw [le_div_iff₀ hpos, mul_comm]
    exact hlow
  · rw [div_le_iff₀ hpos, mul_comm]
    exact hhigh

end Means

/-- A fold that selects one of two values reaches one that is related to all of them. -/
theorem foldl_select {α : Type} {r : α → α → Prop} (hrefl : ∀ a, r a a)
    (htrans : ∀ {a b c}, r a b → r b c → r a c) {op : α → α → α}
    (hselect : ∀ a b, op a b = a ∨ op a b = b) (hop : ∀ a b, r (op a b) a ∧ r (op a b) b)
    (l : List α) (a : α) :
    l.foldl op a ∈ a :: l ∧ ∀ b ∈ a :: l, r (l.foldl op a) b := by
  induction l generalizing a with
  | nil => simpa using hrefl a
  | cons x l ih =>
    obtain ⟨hmem, hall⟩ := ih (op a x)
    rw [List.foldl_cons]
    have hleft : r (l.foldl op (op a x)) a := htrans (hall _ (by simp)) (hop a x).1
    have hright : r (l.foldl op (op a x)) x := htrans (hall _ (by simp)) (hop a x).2
    constructor
    · rcases List.mem_cons.mp hmem with hstart | htail
      · rw [hstart]
        rcases hselect a x with he | he <;> simp [he]
      · simp [htail]
    · intro b hb
      rcases List.mem_cons.mp hb with rfl | hb
      · exact hleft
      · rcases List.mem_cons.mp hb with rfl | hb
        · exact hright
        · exact hall b (by simp [hb])

end PointcloudAd.Library
