import Mathlib.Data.Prod.Lex
import Mathlib.Order.MinMax
import Mathlib.Order.WithBot
import Mathlib.Tactic.Common

/-!
# Lexicographic minima

A search that keeps the nearest of what it has seen, and the least index on ties, keeps the minimum
of a linear order: pairs of a distance and an index, compared lexicographically. The bound of the
search is the pair of that distance and no index, which lies above all pairs at the bound.
-/

namespace PointcloudAd.Library

section Minima

variable {ρ γ : Type} [LinearOrder ρ] (rank : γ → ρ)

def leastRank (start : ρ) (candidates : List γ) : ρ :=
  candidates.foldl (fun best c => min best (rank c)) start

variable {rank} {start b : ρ} {cs ds : List γ}

theorem le_leastRank_iff :
    ∀ {cs : List γ} {start : ρ}, b ≤ leastRank rank start cs ↔ b ≤ start ∧ ∀ c ∈ cs, b ≤ rank c
  | [], start => by simp [leastRank]
  | c :: cs, start => by
    have ih : b ≤ leastRank rank (min start (rank c)) cs ↔
        b ≤ min start (rank c) ∧ ∀ c ∈ cs, b ≤ rank c := le_leastRank_iff
    rw [show leastRank rank start (c :: cs) = leastRank rank (min start (rank c)) cs from rfl, ih,
      le_min_iff]
    simp [and_assoc]

theorem leastRank_le_start : leastRank rank start cs ≤ start := (le_leastRank_iff.mp le_rfl).1

theorem leastRank_le {c : γ} (h : c ∈ cs) : leastRank rank start cs ≤ rank c :=
  (le_leastRank_iff.mp le_rfl).2 c h

theorem leastRank_append :
    leastRank rank start (cs ++ ds) = leastRank rank (leastRank rank start cs) ds :=
  List.foldl_append

theorem leastRank_eq_start (h : ∀ c ∈ cs, start ≤ rank c) : leastRank rank start cs = start :=
  le_antisymm leastRank_le_start (le_leastRank_iff.mpr ⟨le_rfl, h⟩)

theorem leastRank_congr (h : ∀ c, c ∈ cs ↔ c ∈ ds) :
    leastRank rank start cs = leastRank rank start ds := by
  apply le_antisymm
  · exact le_leastRank_iff.mpr ⟨leastRank_le_start, fun c hc => leastRank_le ((h c).mpr hc)⟩
  · exact le_leastRank_iff.mpr ⟨leastRank_le_start, fun c hc => leastRank_le ((h c).mp hc)⟩

variable (rank) in
theorem leastRank_attained (start : ρ) (cs : List γ) :
    leastRank rank start cs = start ∨ ∃ c ∈ cs, leastRank rank start cs = rank c := by
  induction cs generalizing start with
  | nil => exact .inl rfl
  | cons c cs ih =>
    rw [show leastRank rank start (c :: cs) = leastRank rank (min start (rank c)) cs from rfl]
    rcases ih (min start (rank c)) with h | ⟨d, hd, h⟩
    · rcases min_choice start (rank c) with hm | hm
      · exact .inl (h.trans hm)
      · exact .inr ⟨c, by simp, h.trans hm⟩
    · exact .inr ⟨d, by simp [hd], h⟩

theorem leastRank_eq_of_subset (hsub : ∀ c ∈ cs, c ∈ ds)
    (hleast : ∀ c ∈ ds, (∀ d ∈ ds, rank c ≤ rank d) → c ∈ cs) :
    leastRank rank start cs = leastRank rank start ds := by
  apply le_antisymm
  · rcases leastRank_attained rank start ds with h | ⟨c, hc, h⟩
    · rw [h]
      exact leastRank_le_start
    · have hmem : c ∈ cs := hleast c hc fun d hd => h ▸ leastRank_le hd
      rw [h]
      exact leastRank_le hmem
  · exact le_leastRank_iff.mpr ⟨leastRank_le_start, fun c hc => leastRank_le (hsub c hc)⟩

end Minima

section Ranks

variable {α : Type} [LinearOrder α]

/-- A distance with the index it was found at, or with none. -/
abbrev DistanceRank (α : Type) : Type := α ×ₗ WithTop ℕ

def bounded (bound : α) : DistanceRank α := toLex (bound, ⊤)

def ranked (distance : ℕ → α) (index : ℕ) : DistanceRank α :=
  toLex (distance index, WithTop.some index)

variable {distance : ℕ → α} {bound : α} {best : DistanceRank α} {i j : ℕ}

theorem ranked_lt_iff : ranked distance i < best ↔
    distance i < (ofLex best).1 ∨
      distance i = (ofLex best).1 ∧ WithTop.some i < (ofLex best).2 :=
  Prod.Lex.lt_iff

theorem bounded_le_ranked_iff : bounded bound ≤ ranked distance i ↔ bound < distance i := by
  rw [bounded, ranked, Prod.Lex.toLex_le_toLex]
  simp

theorem ranked_le_bounded_iff : ranked distance i ≤ bounded bound ↔ distance i ≤ bound := by
  rw [bounded, ranked, Prod.Lex.toLex_le_toLex]
  simp [le_iff_lt_or_eq]

theorem ranked_le_ranked_iff : ranked distance i ≤ ranked distance j ↔
    distance i < distance j ∨ distance i = distance j ∧ i ≤ j := by
  rw [ranked, ranked, Prod.Lex.toLex_le_toLex]
  simp

theorem distance_le_of_ranked_le (h : ranked distance i ≤ ranked distance j) :
    distance i ≤ distance j :=
  (ranked_le_ranked_iff.mp h).elim le_of_lt fun h => h.1.le

end Ranks
end PointcloudAd.Library
