import Mathlib.Data.List.Nodup
import Mathlib.Data.List.Perm.Subperm
import Mathlib.Data.List.Sort
import Mathlib.Order.Defs.Unbundled

/-!
# The least members of what was seen

A search that keeps the `k` least of what it has seen puts each candidate at its place among them
and drops the last when there are too many. Candidates after all that are kept can be passed over
once there are `k` of these.
-/

namespace PointcloudAd.Library

variable {α : Type} {lt : α → α → Prop} {k : ℕ} {seen best : List α}

/-- The `k` least members of a list in order, or all of them when there are fewer. -/
structure LeastMembers (lt : α → α → Prop) (k : ℕ) (seen best : List α) : Prop where
  sorted : best.Pairwise lt
  subset : ∀ b ∈ best, b ∈ seen
  length_le : best.length ≤ k
  least : ∀ c ∈ seen, c ∉ best → best.length = k ∧ ∀ b ∈ best, lt b c

namespace LeastMembers

theorem nil : LeastMembers lt k [] [] :=
  ⟨.nil, fun _ hb => hb, Nat.zero_le k, fun _ hc => absurd hc List.not_mem_nil⟩

theorem congr {seen' : List α} (h : LeastMembers lt k seen best)
    (hmem : ∀ c, c ∈ seen ↔ c ∈ seen') : LeastMembers lt k seen' best where
  sorted := h.sorted
  subset b hb := (hmem b).mp (h.subset b hb)
  length_le := h.length_le
  least c hc := h.least c ((hmem c).mpr hc)

/-- Candidates after all of `k` members need not be looked at. -/
theorem skip {part : List α} (h : LeastMembers lt k seen best) (hfull : best.length = k)
    (hpart : ∀ c ∈ part, ∀ b ∈ best, lt b c) : LeastMembers lt k (part ++ seen) best where
  sorted := h.sorted
  subset b hb := List.mem_append_right part (h.subset b hb)
  length_le := h.length_le
  least c hc hnot := by
    rcases List.mem_append.mp hc with hc | hc
    · exact ⟨hfull, hpart c hc⟩
    · exact h.least c hc hnot

/-- A candidate goes between the members before it and those after it, and may replace the last. -/
theorem insert [IsTrans α lt] {front back dropped : List α} {c : α}
    (h : LeastMembers lt k seen best) (hbest : best = front ++ (back ++ dropped))
    (hfront : ∀ a ∈ front, lt a c) (hback : ∀ b ∈ back ++ dropped, lt c b)
    (hlength : (front ++ c :: back).length ≤ k)
    (hfull : dropped ≠ [] → (front ++ c :: back).length = k) :
    LeastMembers lt k (c :: seen) (front ++ c :: back) := by
  subst hbest
  have hkept : ∀ b ∈ front ++ back, b ∈ front ++ (back ++ dropped) := by
    intro b hb
    rw [← List.append_assoc]
    exact List.mem_append_left dropped hb
  have hsorted := h.sorted
  rw [← List.append_assoc, List.pairwise_append, List.pairwise_append] at hsorted
  obtain ⟨⟨hsortedFront, hsortedBack, hbetween⟩, -, hlast⟩ := hsorted
  refine ⟨?_, ?_, hlength, ?_⟩
  · rw [List.pairwise_append, List.pairwise_cons]
    refine ⟨hsortedFront, ⟨fun b hb => hback b (List.mem_append_left _ hb), hsortedBack⟩, ?_⟩
    intro a ha b hb
    rcases List.mem_cons.mp hb with rfl | hb
    · exact hfront a ha
    · exact hbetween a ha b hb
  · intro b hb
    simp only [List.mem_append, List.mem_cons] at hb ⊢
    rcases hb with hb | rfl | hb
    · exact .inr (h.subset b (hkept b (List.mem_append_left _ hb)))
    · exact .inl rfl
    · exact .inr (h.subset b (hkept b (List.mem_append_right _ hb)))
  · intro x hx hnot
    simp only [List.mem_append, List.mem_cons, not_or] at hnot
    obtain ⟨hnotFront, hne, hnotBack⟩ := hnot
    have hseen : x ∈ seen := (List.mem_cons.mp hx).resolve_left hne
    -- What is left out now was dropped now, or was left out before.
    obtain ⟨hdropped, hall⟩ : dropped ≠ [] ∧ ∀ b ∈ c :: (front ++ back), lt b x := by
      by_cases hold : x ∈ dropped
      · refine ⟨List.ne_nil_of_mem hold, fun b hb => ?_⟩
        rcases List.mem_cons.mp hb with rfl | hb
        · exact hback x (List.mem_append_right back hold)
        · exact hlast b hb x hold
      · obtain ⟨hk, hbefore⟩ := h.least x hseen (by simp [hnotFront, hnotBack, hold])
        have hsome : dropped ≠ [] := by
          rintro rfl
          simp only [List.length_append, List.length_cons, List.length_nil] at hk hlength
          omega
        refine ⟨hsome, fun b hb => ?_⟩
        rcases List.mem_cons.mp hb with rfl | hb
        · obtain ⟨d, hd⟩ := List.exists_mem_of_ne_nil dropped hsome
          exact trans_of lt (hback d (List.mem_append_right back hd)) (hbefore d (by simp [hd]))
        · exact hbefore b (hkept b hb)
    refine ⟨hfull hdropped, fun b hb => hall b ?_⟩
    simpa [or_left_comm] using hb

/-- All of `k` are found among that many. -/
theorem length_eq (h : LeastMembers lt k seen best) (hnodup : seen.Nodup)
    (hk : k ≤ seen.length) : best.length = k := by
  by_contra hne
  have hall : seen ⊆ best := by
    intro c hc
    by_contra hnot
    exact hne (h.least c hc hnot).1
  have hle := (hnodup.subperm hall).length_le
  have := h.length_le
  omega

end LeastMembers

theorem exists_head_insertionSort {r : α → α → Prop} [DecidableRel r]
    (htrans : ∀ a b c, r a b → r b c → r a c) : ∀ {l : List α}, l ≠ [] →
      (∀ a ∈ l, ∀ b ∈ l, r a b ∨ r b a) →
      ∃ head rest, l.insertionSort r = head :: rest ∧ head ∈ l ∧ ∀ a ∈ l, r head a
  | [], hne, _ => absurd rfl hne
  | [a], _, htotal => ⟨a, [], rfl, by simp, by simpa using htotal a⟩
  | a :: b :: l, _, htotal => by
    obtain ⟨head, rest, hsorted, hmem, hleast⟩ := exists_head_insertionSort htrans
      (List.cons_ne_nil b l) fun c hc d hd => htotal c (by simp [hc]) d (by simp [hd])
    have hself : r a a := (htotal a (by simp) a (by simp)).elim id id
    rw [List.insertionSort_cons, hsorted, List.orderedInsert_cons]
    split_ifs with hle
    · refine ⟨a, head :: rest, rfl, by simp, fun c hc => ?_⟩
      rcases List.mem_cons.mp hc with rfl | hc
      · exact hself
      · exact htrans _ _ _ hle (hleast c hc)
    · refine ⟨head, _, rfl, List.mem_cons_of_mem a hmem, fun c hc => ?_⟩
      rcases List.mem_cons.mp hc with rfl | hc
      · exact (htotal c (by simp) head (List.mem_cons_of_mem c hmem)).resolve_left hle
      · exact hleast c hc

end PointcloudAd.Library
