import Mathlib.Data.Finset.Card
import Mathlib.Data.Nat.Log
import Mathlib.Algebra.Order.Ring.Nat
import PointcloudAd.Library.UnionFind

/-!
# Union by rank

The trees of disjoint sets are at least as large as two to the power of their rank, so no path is
longer than a logarithm, and the recursion of `find`, which follows a path, is no deeper. What
compression leaves of a rank only bounds the height of a tree; both operations keep this bound.
-/

namespace PointcloudAd.Library

/-- The recursion of `find` on an element: its root, the parents it leaves, and the calls that are
active at once. -/
inductive FindCall (parent : List ℕ) : ℕ → ℕ → List ℕ → ℕ → Prop
  | root {v : ℕ} : up parent v = v → FindCall parent v v parent 1
  | step {v r : ℕ} {parent' : List ℕ} {depth : ℕ} : up parent v ≠ v →
      FindCall parent (up parent v) r parent' depth →
        FindCall parent v r (parent'.set v r) (depth + 1)

namespace FindCall

variable {parent parent' : List ℕ} {v r depth : ℕ}

theorem toRoot (h : FindCall parent v r parent' depth) : Root parent v r := by
  induction h with
  | root hv => exact .self hv
  | step hv _ ih => exact .step hv ih

theorem length_eq (h : FindCall parent v r parent' depth) : parent'.length = parent.length := by
  induction h with
  | root _ => rfl
  | step _ _ ih => rw [List.length_set, ih]

theorem findFrom_eq (h : FindCall parent v r parent' depth) {fuel : ℕ} (hfuel : depth ≤ fuel) :
    UnionFind.findFrom fuel parent v = (r, parent') := by
  induction h generalizing fuel with
  | root hv =>
    obtain ⟨fuel, rfl⟩ := Nat.exists_eq_succ_of_ne_zero (by omega : fuel ≠ 0)
    unfold UnionFind.findFrom
    rw [if_neg (not_not.mpr hv)]
  | step hv _ ih =>
    obtain ⟨fuel, rfl⟩ := Nat.exists_eq_succ_of_ne_zero (by omega : fuel ≠ 0)
    unfold UnionFind.findFrom
    rw [if_pos hv, ih (by omega)]

theorem up_eq (h : FindCall parent v r parent' depth) {w : ℕ} (hw : ¬ Root parent w r) :
    up parent' w = up parent w := by
  induction h with
  | root _ => rfl
  | @step v r parent' depth hv hcall ih =>
    have hlength := hcall.length_eq
    have hne : w ≠ v := by
      rintro rfl
      exact hw (.step hv hcall.toRoot)
    rw [up_set _ _ _ _ (hlength ▸ lt_length_of_up_ne hv), if_neg hne]
    exact ih hw

end FindCall

section Ranks

variable {parent : List ℕ} {rank : ℕ → ℕ} {bound v r : ℕ}

theorem Ranked.exists_findCall (hr : Ranked parent rank bound) (h : Root parent v r) :
    ∃ parent' depth, FindCall parent v r parent' depth ∧ depth + rank v ≤ rank r + 1 := by
  induction h with
  | self hv => exact ⟨parent, 1, .root hv, by omega⟩
  | @step v r hv _ ih =>
    obtain ⟨parent', depth, hcall, hdepth⟩ := ih
    have hlt := hr.lt v hv
    exact ⟨_, _, .step hv hcall, by omega⟩

theorem Ranked.le_iterate (hr : Ranked parent rank bound) (v k : ℕ) :
    rank v ≤ rank ((up parent)^[k] v) := by
  induction k generalizing v with
  | zero => exact le_rfl
  | succ k ih =>
    rw [Function.iterate_succ_apply]
    by_cases hv : up parent v = v
    · rw [hv]
      exact ih v
    · exact (hr.lt v hv).le.trans (ih _)

theorem Ranked.acyclic (hr : Ranked parent rank bound) {k : ℕ} (hk : 0 < k)
    (hcycle : (up parent)^[k] v = v) : up parent v = v := by
  by_contra hv
  obtain ⟨k, rfl⟩ := Nat.exists_eq_succ_of_ne_zero hk.ne'
  have hle := hr.le_iterate (up parent v) k
  rw [← Function.iterate_succ_apply, hcycle] at hle
  exact absurd (hr.lt v hv) hle.not_gt

end Ranks

namespace UnionFind

variable {sets sets' : UnionFind} {v w r s : ℕ}

/-- The elements with a root. -/
def tree (sets : UnionFind) (r : ℕ) : Finset ℕ :=
  (Finset.range sets.parent.length).filter fun v => (sets.find v).1 = r

theorem find_eq_iff (h : sets.Valid) : (sets.find v).1 = r ↔ Root sets.parent v r := by
  have hroot := (find_spec h v).1
  constructor
  · rintro rfl
    exact hroot
  · exact hroot.unique

theorem mem_tree (h : sets.Valid) :
    v ∈ sets.tree r ↔ v < sets.parent.length ∧ Root sets.parent v r := by
  unfold tree
  rw [Finset.mem_filter, Finset.mem_range, find_eq_iff h]

/-- The trees of roots are large for their ranks. -/
structure Balanced (sets : UnionFind) : Prop where
  valid : sets.Valid
  weight : ∀ r < sets.parent.length, up sets.parent r = r →
    2 ^ sets.rank.getD r 0 ≤ (sets.tree r).card

theorem Balanced.rank_le (h : sets.Balanced) (hr : r < sets.parent.length)
    (hroot : up sets.parent r = r) : sets.rank.getD r 0 ≤ Nat.log2 sets.parent.length := by
  have hcard : (sets.tree r).card ≤ sets.parent.length := by
    have hle := Finset.card_filter_le (Finset.range sets.parent.length)
      fun v => (sets.find v).1 = r
    rwa [Finset.card_range] at hle
  rw [Nat.le_log2 (by omega)]
  exact (h.weight r hr hroot).trans hcard

theorem Valid.findCall (h : sets.Valid) (v : ℕ) :
    ∃ depth ≤ sets.rank.getD (sets.find v).1 0 + 1,
      FindCall sets.parent v (sets.find v).1 (sets.find v).2.parent depth := by
  obtain ⟨parent', depth, hcall, hdepth⟩ := h.toRanked.exists_findCall (find_spec h v).1
  have hbound := le_maxRank sets.rank (sets.find v).1
  have hfound : findFrom (maxRank sets.rank + 1) sets.parent v = ((sets.find v).1, parent') :=
    hcall.findFrom_eq (by omega)
  have hparent : (sets.find v).2.parent = parent' := congrArg Prod.snd hfound
  exact ⟨depth, by omega, hparent ▸ hcall⟩

theorem Balanced.findCall (h : sets.Balanced) (hv : v < sets.parent.length) :
    ∃ depth ≤ Nat.log2 sets.parent.length + 1,
      FindCall sets.parent v (sets.find v).1 (sets.find v).2.parent depth := by
  have hroot := (find_spec h.valid v).1
  have hrank := h.rank_le (hroot.lt_length h.valid.toRanked hv) hroot.isRoot
  obtain ⟨depth, hdepth, hcall⟩ := h.valid.findCall v
  exact ⟨depth, by omega, hcall⟩

theorem create_balanced (size : ℕ) : (create size).Balanced := by
  refine ⟨create_valid size, fun r hr hroot => ?_⟩
  have hmem : r ∈ (create size).tree r := (mem_tree (create_valid size)).mpr ⟨hr, .self hroot⟩
  have hrank : (create size).rank.getD r 0 = 0 := by
    by_cases hlt : r < size <;> simp [create, hlt]
  rw [hrank, pow_zero]
  exact Finset.card_pos.mpr ⟨r, hmem⟩

theorem find_rank (sets : UnionFind) (v : ℕ) : (sets.find v).2.rank = sets.rank := rfl

theorem find_tree (h : sets.Valid) (v r : ℕ) : (sets.find v).2.tree r = sets.tree r := by
  obtain ⟨-, hvalid, hlength, hiff⟩ := find_spec h v
  ext w
  rw [mem_tree hvalid, mem_tree h, hlength, hiff]

theorem Balanced.find (h : sets.Balanced) (v : ℕ) : (sets.find v).2.Balanced := by
  obtain ⟨-, hvalid, hlength, hiff⟩ := find_spec h.valid v
  refine ⟨hvalid, fun r hr hroot => ?_⟩
  rw [find_tree h.valid, find_rank]
  rw [hlength] at hr
  exact h.weight r hr ((hiff r r).mp (.self hroot)).isRoot

/-- One of two roots is linked below the other, which had the greater rank or grows by one. -/
structure Linked (sets : UnionFind) (child top : ℕ) (sets' : UnionFind) : Prop where
  parent : sets'.parent = sets.parent.set child top
  rank : (sets.rank.getD child 0 < sets.rank.getD top 0 ∧ sets'.rank = sets.rank) ∨
    (sets.rank.getD child 0 = sets.rank.getD top 0 ∧
      sets'.rank = sets.rank.set top (sets.rank.getD top 0 + 1))

theorem link_linked (sets : UnionFind) (hne : v ≠ w) :
    ∃ child top, (child = v ∧ top = w ∨ child = w ∧ top = v) ∧
      Linked sets child top (sets.link v w) := by
  unfold link
  dsimp only
  rw [if_neg hne]
  split_ifs with hlt hgt
  · exact ⟨v, w, .inl ⟨rfl, rfl⟩, rfl, .inl ⟨hlt, rfl⟩⟩
  · exact ⟨w, v, .inr ⟨rfl, rfl⟩, rfl, .inl ⟨hgt, rfl⟩⟩
  · exact ⟨w, v, .inr ⟨rfl, rfl⟩, rfl, .inr ⟨by omega, rfl⟩⟩

namespace Linked

variable {child top : ℕ}

theorem up_eq (h : Linked sets child top sets') (hchild : child < sets.parent.length) (v : ℕ) :
    up sets'.parent v = if v = child then top else up sets.parent v := by
  rw [h.parent, up_set _ _ _ _ hchild]

theorem rank_eq (h : Linked sets child top sets') (hv : v ≠ top) :
    sets'.rank.getD v 0 = sets.rank.getD v 0 := by
  rcases h.rank with ⟨-, hrank⟩ | ⟨-, hrank⟩
  · rw [hrank]
  · rw [hrank, List.getD_eq_getElem?_getD, List.getElem?_set_ne hv.symm,
      ← List.getD_eq_getElem?_getD]

/-- The top of two trees has the elements of both. -/
theorem balanced (h : Linked sets child top sets') (hb : sets.Balanced) (hvalid : sets'.Valid)
    (hne : child ≠ top) (hchild : child < sets.parent.length) (htop : top < sets.parent.length)
    (hcroot : up sets.parent child = child) (htroot : up sets.parent top = top) :
    sets'.Balanced := by
  have hlength : sets'.parent.length = sets.parent.length := by
    rw [h.parent, List.length_set]
  have hmoved : ∀ {v s}, Root sets.parent v s →
      Root sets'.parent v (if s = child then top else s) := by
    intro v s hv
    rw [h.parent]
    exact root_link hcroot htroot hne hchild hv
  have hkept : ∀ {s}, s ≠ child → sets.tree s ⊆ sets'.tree s := by
    intro s hs v hv
    obtain ⟨hlt, hroot⟩ := (mem_tree hb.valid).mp hv
    have hroot' := hmoved hroot
    rw [if_neg hs] at hroot'
    exact (mem_tree hvalid).mpr ⟨hlength ▸ hlt, hroot'⟩
  have hjoined : sets.tree child ⊆ sets'.tree top := by
    intro v hv
    obtain ⟨hlt, hroot⟩ := (mem_tree hb.valid).mp hv
    have hroot' := hmoved hroot
    rw [if_pos rfl] at hroot'
    exact (mem_tree hvalid).mpr ⟨hlength ▸ hlt, hroot'⟩
  have hdisjoint : Disjoint (sets.tree child) (sets.tree top) := by
    apply Finset.disjoint_left.mpr
    intro v hv hv'
    exact hne (((mem_tree hb.valid).mp hv).2.unique ((mem_tree hb.valid).mp hv').2)
  refine ⟨hvalid, fun r hr hroot => ?_⟩
  rw [hlength] at hr
  rw [h.up_eq hchild] at hroot
  have hrc : r ≠ child := by
    rintro rfl
    rw [if_pos rfl] at hroot
    exact hne hroot.symm
  rw [if_neg hrc] at hroot
  have hweight := hb.weight r hr hroot
  by_cases hrt : r = top
  · subst hrt
    rcases h.rank with ⟨-, hrank⟩ | ⟨hequal, hrank⟩
    · rw [hrank]
      exact hweight.trans (Finset.card_le_card (hkept hrc))
    · have hgrown : sets'.rank.getD r 0 = sets.rank.getD r 0 + 1 := by
        rw [hrank, List.getD_eq_getElem?_getD,
          List.getElem?_set_self (by rw [hb.valid.length]; exact htop)]
        rfl
      have hchildWeight := hb.weight child hchild hcroot
      rw [hequal] at hchildWeight
      calc 2 ^ sets'.rank.getD r 0
          = 2 ^ sets.rank.getD r 0 + 2 ^ sets.rank.getD r 0 := by rw [hgrown, pow_succ, mul_two]
        _ ≤ (sets.tree child).card + (sets.tree r).card := Nat.add_le_add hchildWeight hweight
        _ = (sets.tree child ∪ sets.tree r).card := (Finset.card_union_of_disjoint hdisjoint).symm
        _ ≤ (sets'.tree r).card :=
          Finset.card_le_card (Finset.union_subset hjoined (hkept hrc))
  · rw [h.rank_eq hrt]
    exact hweight.trans (Finset.card_le_card (hkept hrc))

end Linked

theorem unite_linked (h : sets.Valid) (left right : ℕ) :
    sets.unite left right = ((sets.find left).2.find right).2 ∨
      ∃ child top, child ≠ top ∧
        (Root sets.parent left child ∧ Root sets.parent right top ∨
          Root sets.parent right child ∧ Root sets.parent left top) ∧
        Linked ((sets.find left).2.find right).2 child top (sets.unite left right) := by
  obtain ⟨-, -, -, hleft, hright⟩ := unite_finds h left right
  by_cases hne : (sets.find left).1 = ((sets.find left).2.find right).1
  · left
    exact if_pos hne
  · right
    obtain ⟨child, top, hroots, hlinked⟩ :=
      link_linked ((sets.find left).2.find right).2 hne
    refine ⟨child, top, ?_, ?_, hlinked⟩
    · rcases hroots with ⟨rfl, rfl⟩ | ⟨rfl, rfl⟩
      · exact hne
      · exact Ne.symm hne
    · rcases hroots with ⟨rfl, rfl⟩ | ⟨rfl, rfl⟩
      · exact .inl ⟨hleft, hright⟩
      · exact .inr ⟨hright, hleft⟩

theorem Balanced.unite (h : sets.Balanced) {left right : ℕ} (hl : left < sets.parent.length)
    (hr : right < sets.parent.length) : (sets.unite left right).Balanced := by
  have hfound : ((sets.find left).2.find right).2.Balanced := (h.find left).find right
  obtain ⟨-, hlength, hiff, -, -⟩ := unite_finds h.valid left right
  rcases unite_linked h.valid left right with
    hsame | ⟨child, top, hne, hroots, hlinked⟩
  · rw [hsame]
    exact hfound
  · have hvalid := (unite_spec h.valid hl hr).1
    have hinRange : ∀ {v s}, v < sets.parent.length → Root sets.parent v s →
        s < ((sets.find left).2.find right).2.parent.length := fun hv hs =>
      hlength ▸ hs.lt_length h.valid.toRanked hv
    have hroot : ∀ {v s}, Root sets.parent v s →
        up ((sets.find left).2.find right).2.parent s = s := fun hs => ((hiff _ _).mpr hs).isRoot
    rcases hroots with ⟨hchild, htop⟩ | ⟨hchild, htop⟩
    · exact hlinked.balanced hfound hvalid hne (hinRange hl hchild) (hinRange hr htop)
        (hroot hchild) (hroot htop)
    · exact hlinked.balanced hfound hvalid hne (hinRange hr hchild) (hinRange hl htop)
        (hroot hchild) (hroot htop)

theorem up_find (h : sets.Valid) (hw : ¬ sets.Same w v) :
    up (sets.find v).2.parent w = up sets.parent w := by
  obtain ⟨depth, -, hcall⟩ := h.findCall v
  apply hcall.up_eq
  intro hroot
  exact hw ⟨_, hroot, hcall.toRoot⟩

/-- A union changes parents and ranks in the trees of its elements only. -/
theorem up_unite (h : sets.Valid) {left right : ℕ} (hl : left < sets.parent.length)
    (hr : right < sets.parent.length) (hleft : ¬ sets.Same w left) (hright : ¬ sets.Same w right) :
    up (sets.unite left right).parent w = up sets.parent w ∧
      (sets.unite left right).rank.getD w 0 = sets.rank.getD w 0 := by
  obtain ⟨-, hvalid, hlen, hiff⟩ := find_spec h left
  have hright' : ¬ (sets.find left).2.Same w right := by
    rintro ⟨s, hws, hrs⟩
    exact hright ⟨s, (hiff w s).mp hws, (hiff right s).mp hrs⟩
  have hfound : up ((sets.find left).2.find right).2.parent w = up sets.parent w :=
    (up_find hvalid hright').trans (up_find h hleft)
  rcases unite_linked h left right with
    hsame | ⟨child, top, hne, hroots, hlinked⟩
  · rw [hsame]
    exact ⟨hfound, rfl⟩
  · have hother : ∀ {v s}, ¬ sets.Same w v → Root sets.parent v s → w ≠ s := by
      rintro v s hv hs rfl
      exact hv ⟨w, .self hs.isRoot, hs⟩
    have hchild : child < ((sets.find left).2.find right).2.parent.length := by
      rw [(unite_finds h left right).2.1]
      rcases hroots with ⟨hroot, -⟩ | ⟨hroot, -⟩
      · exact hroot.lt_length h.toRanked hl
      · exact hroot.lt_length h.toRanked hr
    have hwc : w ≠ child := by
      rcases hroots with ⟨hroot, -⟩ | ⟨hroot, -⟩
      · exact hother hleft hroot
      · exact hother hright hroot
    have hwt : w ≠ top := by
      rcases hroots with ⟨-, hroot⟩ | ⟨-, hroot⟩
      · exact hother hright hroot
      · exact hother hleft hroot
    rw [hlinked.up_eq hchild, if_neg hwc, hlinked.rank_eq hwt]
    exact ⟨hfound, rfl⟩

end UnionFind
end PointcloudAd.Library
