import Mathlib.Algebra.BigOperators.Group.Finset.Basic
import Mathlib.Algebra.BigOperators.Pi
import Mathlib.Tactic.Common

/-!
# Sums by halving, and by blocks

A block of lanes adds its values in a tree: every lane below the stride adds the value a stride
above it, and the stride is halved. Blocks of lanes cover a range of points. In a commutative monoid
each is the sum of its values in any order.
-/

namespace PointcloudAd.Library

variable {M : Type}

section Halving

variable [Add M]

/-- One step: the lanes below the stride add the value a stride above them. -/
def addUpper (stride : ℕ) (values : ℕ → M) : ℕ → M := fun lane =>
  if lane < stride then values lane + values (lane + stride) else values lane

def treeReduce (stride : ℕ) (values : ℕ → M) : ℕ → M :=
  if stride = 0 then values else treeReduce (stride / 2) (addUpper stride values)

theorem treeReduce_related {N : Type} [Add N] {R : M → N → Prop}
    (hadd : ∀ {a b : M} {c d : N}, R a c → R b d → R (a + b) (c + d)) (stride : ℕ)
    {values : ℕ → M} {values' : ℕ → N} (h : ∀ lane, R (values lane) (values' lane)) (lane : ℕ) :
    R (treeReduce stride values lane) (treeReduce stride values' lane) := by
  induction stride using Nat.strong_induction_on generalizing values values' with
  | _ stride ih =>
    unfold treeReduce
    by_cases hstride : stride = 0
    · rw [if_pos hstride, if_pos hstride]
      exact h lane
    · rw [if_neg hstride, if_neg hstride]
      refine ih _ (by omega) fun upper => ?_
      unfold addUpper
      split_ifs
      · exact hadd (h _) (h _)
      · exact h upper

end Halving

variable [AddCommMonoid M]

open Finset

theorem treeReduce_pow (k : ℕ) (values : ℕ → M) :
    treeReduce (2 ^ k) values 0 = ∑ lane ∈ range (2 ^ (k + 1)), values lane := by
  induction k generalizing values with
  | zero =>
    have hone : treeReduce 1 values = addUpper 1 values := by
      rw [treeReduce, if_neg one_ne_zero, treeReduce, if_pos rfl]
    simp [hone, addUpper, sum_range_succ]
  | succ k ih =>
    have hstride : 2 ^ (k + 1) / 2 = 2 ^ k := by
      rw [pow_succ, Nat.mul_div_cancel _ (by omega)]
    have hlanes : ∀ lane ∈ range (2 ^ (k + 1)), addUpper (2 ^ (k + 1)) values lane =
        values lane + values (2 ^ (k + 1) + lane) := by
      intro lane hlane
      rw [addUpper, if_pos (mem_range.mp hlane), Nat.add_comm lane]
    rw [treeReduce, if_neg (Nat.two_pow_pos _).ne', hstride, ih, sum_congr rfl hlanes,
      sum_add_distrib,
      pow_succ 2 (k + 1), Nat.mul_two, sum_range_add]

theorem sum_blocks (width : ℕ) (values : ℕ → M) (blocks : ℕ) :
    ∑ block ∈ range blocks, ∑ lane ∈ range width, values (block * width + lane) =
      ∑ i ∈ range (blocks * width), values i := by
  induction blocks with
  | zero => simp
  | succ blocks ih => rw [sum_range_succ, ih, Nat.succ_mul, sum_range_add]

theorem sum_range_of_zero {values : ℕ → M} {count bound : ℕ} (hle : count ≤ bound)
    (hzero : ∀ i, count ≤ i → values i = 0) :
    ∑ i ∈ range bound, values i = ∑ i ∈ range count, values i := by
  obtain ⟨rest, rfl⟩ := Nat.exists_eq_add_of_le hle
  rw [sum_range_add, sum_eq_zero fun i _ => hzero (count + i) (Nat.le_add_right ..), add_zero]

theorem sum_treeReduce (k : ℕ) {values : ℕ → M} {count blocks : ℕ}
    (hcover : count ≤ blocks * 2 ^ (k + 1)) (hzero : ∀ i, count ≤ i → values i = 0) :
    ((List.range blocks).map fun block =>
        treeReduce (2 ^ k) (fun lane => values (block * 2 ^ (k + 1) + lane)) 0).sum =
      ∑ i ∈ range count, values i := by
  rw [← sum_range_of_zero hcover hzero, ← sum_blocks]
  exact congrArg List.sum (List.map_congr_left fun block _ => treeReduce_pow k _)

theorem sum_fibers (values : ℕ → M) (block : ℕ → ℕ) {points blocks : ℕ}
    (hblock : ∀ i < points, block i < blocks) :
    ∑ b ∈ range blocks, ∑ i ∈ range points with block i = b, values i =
      ∑ i ∈ range points, values i :=
  sum_fiberwise_of_maps_to (fun i hi => mem_range.mpr (hblock i (mem_range.mp hi))) values

theorem foldl_measure {σ ι : Type} (measure : σ → M) {step : σ → ι → σ} {values : ι → M} :
    ∀ {l : List ι} (_ : ∀ s, ∀ i ∈ l, measure (step s i) = measure s + values i) (s : σ),
      measure (l.foldl step s) = measure s + (l.map values).sum
  | [], _, s => by simp
  | i :: l, h, s => by
    rw [List.foldl_cons, foldl_measure measure fun s j hj => h s j (by simp [hj]), h s i (by simp)]
    simp [add_assoc]

theorem foldl_entries {ι : Type} (packets : List (ι → M)) :
    (fun entry => packets.foldl (fun sum packet => sum + packet entry) 0) = packets.sum := by
  funext entry
  calc
    packets.foldl (fun sum packet => sum + packet entry) 0 =
        0 + (packets.map fun packet => packet entry).sum :=
      foldl_measure (fun s => s) (fun _ _ _ => rfl) 0
    _ = packets.sum entry := by rw [zero_add, Pi.list_sum_apply]

theorem sum_map_range (values : ℕ → M) (n : ℕ) :
    ((List.range n).map values).sum = ∑ i ∈ range n, values i := rfl

theorem sum_map_filter_range (values : ℕ → M) (p : ℕ → Prop) [DecidablePred p] (n : ℕ) :
    (((List.range n).filter p).map values).sum = ∑ i ∈ range n with p i, values i := by
  have hlist : (∑ i ∈ range n with p i, values i) =
      (Multiset.map values (Multiset.filter p (List.range n))).sum := rfl
  rw [hlist, Multiset.filter_coe, Multiset.map_coe, Multiset.sum_coe]

/-- What the points of every block add to the measure of its state is what all points add. -/
theorem sum_measured_blocks {σ : Type} (measure : σ → M) {step : σ → ℕ → σ}
    {values : ℕ → M} {start : σ}
    (hstart : measure start = 0) {block : ℕ → ℕ} {points blocks : ℕ}
    (hblock : ∀ i < points, block i < blocks)
    (hstep : ∀ s, ∀ i < points, measure (step s i) = measure s + values i) :
    (((List.range blocks).map fun b =>
        ((List.range points).filter fun i => block i = b).foldl step start).map measure).sum =
      ∑ i ∈ range points, values i := by
  have hvalue : ∀ b, measure (((List.range points).filter fun i => block i = b).foldl step start) =
      ∑ i ∈ range points with block i = b, values i := by
    intro b
    rw [foldl_measure measure fun s i hi => hstep s i (List.mem_range.mp (List.mem_filter.mp hi).1),
      hstart, zero_add, sum_map_filter_range]
  rw [List.map_map, Function.comp_def]
  simp only [hvalue]
  rw [sum_map_range]
  exact sum_fibers values block hblock

end PointcloudAd.Library
