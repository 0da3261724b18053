import Mathlib.Data.Int.Basic
import Mathlib.Data.List.Basic
import Mathlib.Order.Basic
import Mathlib.Tactic.Common

/-!
# Classes numbered by their first member

A labelling that gives a new class the next number is determined by its classes.
-/

namespace PointcloudAd.Library

/-- The labels of every prefix are the numbers below some count, so a new label is the next one. -/
def NumberedByFirst (labels : List ℤ) : Prop :=
  ∀ i ≤ labels.length, ∃ count : ℕ, ∀ label, label ∈ labels.take i ↔ 0 ≤ label ∧ label < count

variable {labels labels' : List ℤ}

/-- A label that no earlier position has is the number of the labels so far. -/
theorem NumberedByFirst.next (h : NumberedByFirst labels) {i : ℕ} (hi : i < labels.length)
    {count : ℕ} (hcount : ∀ label, label ∈ labels.take i ↔ 0 ≤ label ∧ label < count)
    (hnew : labels[i] ∉ labels.take i) : labels[i] = count := by
  obtain ⟨count', hcount'⟩ := h (i + 1) hi
  have hnext : ∀ label : ℤ, 0 ≤ label ∧ label < count' ↔
      (0 ≤ label ∧ label < count) ∨ label = labels[i] := by
    intro label
    rw [← hcount', ← hcount, List.take_succ_eq_append_getElem hi, List.mem_append,
      List.mem_singleton]
  rw [hcount] at hnew
  have hself := (hnext labels[i]).mpr (.inr rfl)
  -- The counts differ by one, and the label is the number they differ by.
  rcases (hnext count).mp (by omega) with hlt | heq
  · omega
  · exact heq.symm

theorem getElem_mem_take_iff {i : ℕ} (hi : i < labels.length) :
    labels[i] ∈ labels.take i ↔ ∃ j < i, labels[j]? = labels[i]? := by
  rw [List.mem_take_iff_getElem, List.getElem?_eq_getElem hi]
  constructor
  · rintro ⟨j, hj, he⟩
    have hlt : j < labels.length := by omega
    exact ⟨j, by omega, by rw [List.getElem?_eq_getElem hlt, he]⟩
  · rintro ⟨j, hj, he⟩
    rw [List.getElem?_eq_getElem (hj.trans hi)] at he
    exact ⟨j, by omega, Option.some.inj he⟩

theorem NumberedByFirst.eq (h : NumberedByFirst labels) (h' : NumberedByFirst labels')
    (hlength : labels.length = labels'.length)
    (hsame : ∀ i j, i < labels.length → j < labels.length →
      (labels[i]? = labels[j]? ↔ labels'[i]? = labels'[j]?)) : labels = labels' := by
  have hprefix : ∀ i ≤ labels.length, labels.take i = labels'.take i := by
    intro i
    induction i with
    | zero => simp
    | succ i ih =>
      intro hi
      have hi' : i < labels'.length := hlength ▸ hi
      have htake := ih (Nat.le_of_succ_le hi)
      have hlabel : labels[i] = labels'[i] := by
        have hnew : labels'[i] ∈ labels'.take i ↔ labels[i] ∈ labels.take i := by
          rw [getElem_mem_take_iff hi, getElem_mem_take_iff hi']
          exact exists_congr fun j => and_congr_right fun hj => (hsame j i (hj.trans hi) hi).symm
        by_cases hold : labels[i] ∈ labels.take i
        · obtain ⟨j, hj, he⟩ := (getElem_mem_take_iff hi).mp hold
          have he' := (hsame j i (hj.trans hi) hi).mp he
          have hearlier : labels[j]? = labels'[j]? := by
            have := congrArg (·[j]?) htake
            simpa only [List.getElem?_take, hj, if_true] using this
          rw [hearlier, he', List.getElem?_eq_getElem hi, List.getElem?_eq_getElem hi'] at he
          exact (Option.some.inj he).symm
        · obtain ⟨count, hcount⟩ := h i (Nat.le_of_succ_le hi)
          rw [h.next hi hcount hold, h'.next hi' (htake ▸ hcount) (hnew.not.mpr hold)]
      rw [List.take_succ_eq_append_getElem hi, List.take_succ_eq_append_getElem hi', htake, hlabel]
  have := hprefix labels.length le_rfl
  rwa [List.take_length, hlength, List.take_length] at this

end PointcloudAd.Library
