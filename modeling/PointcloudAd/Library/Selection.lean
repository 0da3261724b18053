import Mathlib.Data.List.Perm.Basic
import Mathlib.Data.List.Nodup
import Mathlib.Order.Defs.Unbundled

/-!
# Selections

A selection rearranges a list about the element that a full sort would place at a position: what
precedes the element is not greater, what follows it is not smaller. In a total order the element
and the members of the two parts do not depend on how the parts are arranged.
-/

namespace PointcloudAd.Library

variable {α : Type} {less : α → α → Bool}

/-- The parts of a list before and after an element at its place in the order. -/
structure Selected (less : α → α → Bool) (before : List α) (nth : α) (after : List α) : Prop where
  before : ∀ a ∈ before, less nth a = false
  after : ∀ b ∈ after, less b nth = false

namespace Selected

variable [IsStrictTotalOrder α fun a b => less a b = true] {before after before' after' : List α}
  {nth nth' : α}

theorem filter_less (h : Selected less before nth after)
    (hnodup : (before ++ nth :: after).Nodup) :
    (before ++ nth :: after).filter (fun a => less a nth) = before := by
  have hbefore : ∀ a ∈ before, less a nth = true := by
    intro a ha
    have hne : a ≠ nth := (List.nodup_append.mp hnodup).2.2 a ha nth (by simp)
    rcases trichotomous_of (fun a b => less a b = true) a nth with hless | heq | hless
    · exact hless
    · exact absurd heq hne
    · simp [h.before a ha] at hless
  have hnth : less nth nth = false := by simpa using irrefl_of (fun a b => less a b = true) nth
  have hafter : (nth :: after).filter (fun a => less a nth) = [] := by
    simpa [List.filter_cons, hnth] using h.after
  rw [List.filter_append, hafter, List.append_nil, List.filter_eq_self.mpr hbefore]

theorem less_eq_false (h : Selected less before nth after) (h' : Selected less before' nth' after')
    (hnodup : (before ++ nth :: after).Nodup)
    (hperm : (before ++ nth :: after).Perm (before' ++ nth' :: after'))
    (hlength : before.length = before'.length) : less nth nth' = false := by
  by_contra hless
  rw [Bool.not_eq_false] at hless
  -- What precedes the smaller element and that element itself are all less than the other.
  have hall : ∀ a ∈ before ++ [nth], less a nth' = true := by
    intro a ha
    rcases List.mem_append.mp ha with ha | ha
    · rw [← h.filter_less hnodup] at ha
      exact trans_of (fun a b => less a b = true) (List.mem_filter.mp ha).2 hless
    · rwa [List.mem_singleton.mp ha]
  have hsublist : (before ++ [nth]).Sublist (before ++ nth :: after) :=
    (List.Sublist.refl before).append (by simp)
  have hle := (hsublist.filter fun a => less a nth').length_le
  rw [List.filter_eq_self.mpr hall, (hperm.filter _).length_eq,
    h'.filter_less (hperm.nodup_iff.mp hnodup), List.length_append, ← hlength] at hle
  exact Nat.not_succ_le_self _ hle

/-- Two selections at one position place one element, and have the same members before it and
after it. -/
theorem unique (h : Selected less before nth after) (h' : Selected less before' nth' after')
    (hnodup : (before ++ nth :: after).Nodup)
    (hperm : (before ++ nth :: after).Perm (before' ++ nth' :: after'))
    (hlength : before.length = before'.length) :
    nth = nth' ∧ before.Perm before' ∧ (nth :: after).Perm (nth' :: after') := by
  have hnodup' := hperm.nodup_iff.mp hnodup
  obtain rfl : nth = nth' := by
    rcases trichotomous_of (fun a b => less a b = true) nth nth' with hless | heq | hless
    · simp [h.less_eq_false h' hnodup hperm hlength] at hless
    · exact heq
    · simp [h'.less_eq_false h hnodup' hperm.symm hlength.symm] at hless
  have hbefore : before.Perm before' := by
    rw [← h.filter_less hnodup, ← h'.filter_less hnodup']
    exact hperm.filter _
  refine ⟨rfl, hbefore, ?_⟩
  exact (List.perm_append_left_iff before').mp ((hbefore.symm.append_right _).trans hperm)

end Selected
end PointcloudAd.Library
