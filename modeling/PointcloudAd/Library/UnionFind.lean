import Mathlib.Data.List.GetD
import Mathlib.Data.List.Induction
import Mathlib.Logic.Relation
import Mathlib.Order.MinMax
import Mathlib.Tactic.Common

/-!
# Union-find

Disjoint sets over `0 .. n - 1` with path compression and union by rank. Ranks grow strictly along
parent links, so every element has one root; compression keeps the roots, and a union joins two
classes. After any list of unions two elements are in one class exactly when the joined pairs
connect them.
-/

namespace PointcloudAd.Library

structure UnionFind where
  parent : List ℕ
  rank : List ℕ

/-- The parent of an element; one out of range is its own. -/
def up (parent : List ℕ) (v : ℕ) : ℕ := parent.getD v v

/-- Following parents from `v` ends at `r`. -/
inductive Root (parent : List ℕ) : ℕ → ℕ → Prop
  | self {v : ℕ} : up parent v = v → Root parent v v
  | step {v r : ℕ} : up parent v ≠ v → Root parent (up parent v) r → Root parent v r

/-- Links stay in range, and ranks grow strictly along them up to `bound`. -/
structure Ranked (parent : List ℕ) (rank : ℕ → ℕ) (bound : ℕ) : Prop where
  inRange : ∀ v < parent.length, up parent v < parent.length
  lt : ∀ v, up parent v ≠ v → rank v < rank (up parent v)
  le : ∀ v, rank v ≤ bound

section Roots

variable {parent : List ℕ} {rank : ℕ → ℕ} {bound v w r s : ℕ}

theorem Root.isRoot (h : Root parent v r) : up parent r = r := by
  induction h with
  | self h => exact h
  | step _ _ ih => exact ih

theorem Root.unique (h : Root parent v r) : ∀ {s}, Root parent v s → r = s := by
  induction h with
  | self hv =>
    rintro s (hs | ⟨hs, -⟩)
    · rfl
    · exact absurd hv hs
  | step hv _ ih =>
    rintro s (hs | ⟨-, hs⟩)
    · exact absurd hs hv
    · exact ih hs

theorem Root.rank_le (hr : Ranked parent rank bound) (h : Root parent v r) : rank v ≤ rank r := by
  induction h with
  | self _ => exact le_rfl
  | step hv _ ih => exact (hr.lt _ hv).le.trans ih

theorem Root.rank_lt (hr : Ranked parent rank bound) (h : Root parent v r) (hv : up parent v ≠ v) :
    rank v < rank r := by
  cases h with
  | self hs => exact absurd hs hv
  | step _ h => exact (hr.lt v hv).trans_le (h.rank_le hr)

theorem up_set (parent : List ℕ) (v r w : ℕ) (hv : v < parent.length) :
    up (parent.set v r) w = if w = v then r else up parent w := by
  unfold up
  by_cases hw : w = v
  · subst hw
    rw [if_pos rfl, List.getD_eq_getElem?_getD, List.getElem?_set_self hv]
    rfl
  · rw [if_neg hw, List.getD_eq_getElem?_getD, List.getElem?_set_ne (Ne.symm hw),
      ← List.getD_eq_getElem?_getD]

theorem lt_length_of_up_ne (hv : up parent v ≠ v) : v < parent.length := by
  by_contra h
  exact hv (by rw [up, List.getD_eq_getElem?_getD, List.getElem?_eq_none (by omega)]; rfl)

theorem Root.compress (h : Root parent v r) (hv : up parent v ≠ v) (hw : Root parent w s) :
    Root (parent.set v r) w s := by
  have hup := fun w => up_set parent v r w (lt_length_of_up_ne hv)
  have hne : r ≠ v := fun he => hv (he ▸ h.isRoot)
  have hroot : Root (parent.set v r) r r := .self (by rw [hup, if_neg hne, h.isRoot])
  induction hw with
  | @self w hw =>
    have hwv : w ≠ v := fun he => hv (he ▸ hw)
    exact .self (by rw [hup, if_neg hwv, hw])
  | @step w s hw hs ih =>
    by_cases hwv : w = v
    · subst hwv
      obtain rfl := h.unique (.step hw hs)
      exact .step (by rw [hup, if_pos rfl]; exact hne) (by rwa [hup, if_pos rfl])
    · exact .step (by rwa [hup, if_neg hwv]) (by rwa [hup, if_neg hwv])

theorem Root.lt_length (hr : Ranked parent rank bound) (h : Root parent v r)
    (hv : v < parent.length) : r < parent.length := by
  induction h with
  | self _ => exact hv
  | step _ _ ih => exact ih (hr.inRange _ hv)

theorem Ranked.compress (hr : Ranked parent rank bound) (h : Root parent v r)
    (hv : up parent v ≠ v) : Ranked (parent.set v r) rank bound := by
  have hlt := lt_length_of_up_ne hv
  refine ⟨fun w hw => ?_, fun w hw => ?_, hr.le⟩
  · rw [List.length_set] at hw ⊢
    rw [up_set parent v r w hlt]
    split_ifs
    · exact h.lt_length hr hlt
    · exact hr.inRange w hw
  · rw [up_set parent v r w hlt] at hw ⊢
    split_ifs at hw ⊢ with he
    · subst he
      exact h.rank_lt hr hv
    · exact hr.lt w hw

end Roots

namespace UnionFind

def create (size : ℕ) : UnionFind := ⟨List.range size, List.replicate size 0⟩

def maxRank (rank : List ℕ) : ℕ := rank.foldl max 0

/-- The recursion of `find`: the elements on the way are pointed at the root. -/
def findFrom : ℕ → List ℕ → ℕ → ℕ × List ℕ
  | 0, parent, v => (v, parent)
  | depth + 1, parent, v =>
    if up parent v ≠ v then
      let found := findFrom depth parent (up parent v)
      (found.1, found.2.set v found.1)
    else (v, parent)

/-- Ranks grow along the way, so the greatest rank bounds its length. -/
def find (sets : UnionFind) (v : ℕ) : ℕ × UnionFind :=
  let found := findFrom (maxRank sets.rank + 1) sets.parent v
  (found.1, { sets with parent := found.2 })

/-- The root of smaller rank is linked below the other; of equal ranks, the left one stays. -/
def link (sets : UnionFind) (leftRoot rightRoot : ℕ) : UnionFind :=
  if leftRoot = rightRoot then sets
  else
    let leftRank := sets.rank.getD leftRoot 0
    let rightRank := sets.rank.getD rightRoot 0
    if leftRank < rightRank then { sets with parent := sets.parent.set leftRoot rightRoot }
    else if rightRank < leftRank then { sets with parent := sets.parent.set rightRoot leftRoot }
    else ⟨sets.parent.set rightRoot leftRoot, sets.rank.set leftRoot (leftRank + 1)⟩

def unite (sets : UnionFind) (left right : ℕ) : UnionFind :=
  let found := sets.find left
  let found' := found.2.find right
  found'.2.link found.1 found'.1

/-- The invariant: two arrays of one length, ranked links that stay in range. -/
structure Valid (sets : UnionFind) : Prop where
  length : sets.rank.length = sets.parent.length
  inRange : ∀ v < sets.parent.length, up sets.parent v < sets.parent.length
  ranked : ∀ v, up sets.parent v ≠ v → sets.rank.getD v 0 < sets.rank.getD (up sets.parent v) 0

/-- Two elements have one root. -/
def Same (sets : UnionFind) (v w : ℕ) : Prop := ∃ r, Root sets.parent v r ∧ Root sets.parent w r

variable {sets : UnionFind} {v w r s : ℕ}

theorem le_maxRank (rank : List ℕ) (v : ℕ) : rank.getD v 0 ≤ maxRank rank := by
  have hfold : ∀ (l : List ℕ) (m : ℕ), m ≤ l.foldl max m ∧ ∀ a ∈ l, a ≤ l.foldl max m := by
    intro l
    induction l with
    | nil => simp
    | cons b l ih =>
      intro m
      obtain ⟨hm, hl⟩ := ih (max m b)
      refine ⟨(le_max_left m b).trans hm, ?_⟩
      rintro a (_ | ⟨_, ha⟩)
      · exact (le_max_right m b).trans hm
      · exact hl a ha
  rw [List.getD_eq_getElem?_getD]
  cases hv : rank[v]? with
  | none => exact Nat.zero_le _
  | some a => exact (hfold rank 0).2 a (List.mem_of_getElem? hv)

theorem Valid.toRanked (h : sets.Valid) :
    Ranked sets.parent (fun v => sets.rank.getD v 0) (maxRank sets.rank) :=
  ⟨h.inRange, h.ranked, le_maxRank sets.rank⟩

/-- The recursion finds the root and keeps every root and the ranks of the links. -/
theorem findFrom_spec {rank : ℕ → ℕ} {bound : ℕ} : ∀ {depth : ℕ} {parent : List ℕ} {v : ℕ},
    Ranked parent rank bound → bound < depth + rank v →
      Root parent v (findFrom depth parent v).1 ∧
        Ranked (findFrom depth parent v).2 rank bound ∧
        (findFrom depth parent v).2.length = parent.length ∧
        ∀ w s, Root parent w s → Root (findFrom depth parent v).2 w s
  | 0, parent, v, hr, hd => by
    have := hr.le v
    omega
  | depth + 1, parent, v, hr, hd => by
    unfold findFrom
    split_ifs with hv
    · have hlt := hr.lt v hv
      obtain ⟨hroot, hranked, hlen, hkeep⟩ :=
        findFrom_spec (v := up parent v) hr (show bound < depth + rank (up parent v) by omega)
      have hv' : Root (findFrom depth parent (up parent v)).2 v
          (findFrom depth parent (up parent v)).1 := hkeep v _ (.step hv hroot)
      have hne : up (findFrom depth parent (up parent v)).2 v ≠ v := by
        intro he
        have hself := hv'.unique (.self he)
        have := hroot.rank_le hr
        rw [hself] at this
        omega
      exact ⟨.step hv hroot, hranked.compress hv' hne, by rw [List.length_set, hlen],
        fun w s hw => hv'.compress hne (hkeep w s hw)⟩
    · rw [not_not] at hv
      exact ⟨.self hv, hr, rfl, fun _ _ h => h⟩

theorem Valid.exists_root (h : sets.Valid) (v : ℕ) : ∃ r, Root sets.parent v r :=
  ⟨_, (findFrom_spec h.toRanked (Nat.lt_add_right _ (Nat.lt_succ_self _))).1⟩

/-- `find` returns the root of an element and keeps the roots of all. -/
theorem find_spec (h : sets.Valid) (v : ℕ) :
    Root sets.parent v (sets.find v).1 ∧ (sets.find v).2.Valid ∧
      (sets.find v).2.parent.length = sets.parent.length ∧
      ∀ w s, Root (sets.find v).2.parent w s ↔ Root sets.parent w s := by
  obtain ⟨hroot, hranked, hlen, hkeep⟩ :=
    findFrom_spec (v := v) h.toRanked
      (show maxRank sets.rank < maxRank sets.rank + 1 + sets.rank.getD v 0 by omega)
  refine ⟨hroot, ⟨h.length.trans hlen.symm, hranked.inRange, hranked.lt⟩, hlen, fun w s => ?_⟩
  constructor
  · intro hw
    obtain ⟨s', hs'⟩ := h.exists_root w
    rwa [hw.unique (hkeep w s' hs')]
  · exact hkeep w s

theorem root_link {parent : List ℕ} {x y : ℕ} (hx : up parent x = x) (hy : up parent y = y)
    (hxy : x ≠ y) (hlt : x < parent.length) {w s : ℕ} (hw : Root parent w s) :
    Root (parent.set x y) w (if s = x then y else s) := by
  have hup := fun w => up_set parent x y w hlt
  induction hw with
  | @self w hw =>
    by_cases hwx : w = x
    · subst hwx
      rw [if_pos rfl]
      have hroot : up (parent.set w y) y = y := by rw [hup, if_neg (Ne.symm hxy), hy]
      exact .step (by rw [hup, if_pos rfl]; exact Ne.symm hxy)
        (by rw [hup, if_pos rfl]; exact .self hroot)
    · rw [if_neg hwx]
      exact .self (by rw [hup, if_neg hwx, hw])
  | @step w s hw hs ih =>
    have hwx : w ≠ x := fun he => hw (he ▸ hx)
    exact .step (by rwa [hup, if_neg hwx]) (by rwa [hup, if_neg hwx])

/-- A root may be linked below a root of greater rank, which may have grown. -/
theorem Valid.below (h : sets.Valid) {x y : ℕ} (hxy : x ≠ y) (hy : up sets.parent y = y)
    (hxlt : x < sets.parent.length) (hylt : y < sets.parent.length) {rank : List ℕ}
    (hlength : rank.length = sets.rank.length)
    (hother : ∀ v, v ≠ y → rank.getD v 0 = sets.rank.getD v 0)
    (hgrown : sets.rank.getD y 0 ≤ rank.getD y 0) (hrank : sets.rank.getD x 0 < rank.getD y 0) :
    Valid ⟨sets.parent.set x y, rank⟩ := by
  have hle : ∀ v, sets.rank.getD v 0 ≤ rank.getD v 0 := by
    intro v
    by_cases hv : v = y
    · subst hv
      exact hgrown
    · exact (hother v hv).ge
  refine ⟨by rw [List.length_set, hlength, h.length], fun v hv => ?_, fun v hv => ?_⟩
  · dsimp only at hv ⊢
    rw [List.length_set] at hv ⊢
    rw [up_set _ _ _ _ hxlt]
    split_ifs
    · exact hylt
    · exact h.inRange v hv
  · dsimp only at hv ⊢
    rw [up_set _ _ _ _ hxlt] at hv ⊢
    split_ifs at hv ⊢ with he
    · subst he
      rwa [hother v hxy]
    · have hvy : v ≠ y := fun he => hv (he ▸ hy)
      rw [hother v hvy]
      exact (h.ranked v hv).trans_le (hle _)

theorem link_spec (h : sets.Valid) {x y : ℕ} (hx : up sets.parent x = x)
    (hy : up sets.parent y = y) (hxlt : x < sets.parent.length) (hylt : y < sets.parent.length) :
    (sets.link x y).Valid ∧ (sets.link x y).parent.length = sets.parent.length ∧
      ∃ a b, (a = x ∧ b = y ∨ a = y ∧ b = x) ∧ ∀ w s, Root sets.parent w s →
        Root (sets.link x y).parent w (if s = a then b else s) := by
  unfold link
  dsimp only
  split_ifs with hxy hlt hlt'
  · subst hxy
    exact ⟨h, rfl, x, x, .inl ⟨rfl, rfl⟩, fun w s hw => by split_ifs with hs <;> simp_all⟩
  · exact ⟨h.below hxy hy hxlt hylt rfl (fun _ _ => rfl) le_rfl hlt, List.length_set .., x, y,
      .inl ⟨rfl, rfl⟩, fun w s hw => root_link hx hy hxy hxlt hw⟩
  · exact ⟨h.below (Ne.symm hxy) hx hylt hxlt rfl (fun _ _ => rfl) le_rfl hlt', List.length_set ..,
      y, x, .inr ⟨rfl, rfl⟩, fun w s hw => root_link hy hx (Ne.symm hxy) hylt hw⟩
  · have hself : (sets.rank.set x (sets.rank.getD x 0 + 1)).getD x 0 = sets.rank.getD x 0 + 1 := by
      rw [List.getD_eq_getElem?_getD, List.getElem?_set_self (by rw [h.length]; exact hxlt)]
      rfl
    refine ⟨h.below (Ne.symm hxy) hx hylt hxlt (List.length_set ..) (fun v hv => ?_) ?_ ?_,
      List.length_set .., y, x, .inr ⟨rfl, rfl⟩, fun w s hw =>
        root_link hy hx (Ne.symm hxy) hylt hw⟩
    · rw [List.getD_eq_getElem?_getD, List.getElem?_set_ne (Ne.symm hv),
        ← List.getD_eq_getElem?_getD]
    · omega
    · omega

theorem unite_finds (h : sets.Valid) (left right : ℕ) :
    ((sets.find left).2.find right).2.Valid ∧
      ((sets.find left).2.find right).2.parent.length = sets.parent.length ∧
      (∀ w s, Root ((sets.find left).2.find right).2.parent w s ↔ Root sets.parent w s) ∧
      Root sets.parent left (sets.find left).1 ∧
      Root sets.parent right ((sets.find left).2.find right).1 := by
  obtain ⟨hroot, hvalid, hlen, hiff⟩ := find_spec h left
  obtain ⟨hroot', hvalid', hlen', hiff'⟩ := find_spec hvalid right
  exact ⟨hvalid', hlen'.trans hlen, fun w s => (hiff' w s).trans (hiff w s), hroot,
    (hiff right _).mp hroot'⟩

theorem unite_merges (h : sets.Valid) {left right x y : ℕ} (hl : left < sets.parent.length)
    (hr : right < sets.parent.length) (hx : Root sets.parent left x)
    (hy : Root sets.parent right y) :
    (sets.unite left right).Valid ∧ (sets.unite left right).parent.length = sets.parent.length ∧
      ∃ a b, (a = x ∧ b = y ∨ a = y ∧ b = x) ∧ ∀ w s, Root sets.parent w s →
        Root (sets.unite left right).parent w (if s = a then b else s) := by
  obtain ⟨hvalid, hlen, hiff, hleft, hright⟩ := unite_finds h left right
  obtain rfl := hleft.unique hx
  obtain rfl := hright.unique hy
  obtain ⟨hv, hlength, a, b, hab, hmerged⟩ := link_spec hvalid ((hiff _ _).mpr hx).isRoot
    ((hiff _ _).mpr hy).isRoot (by rw [hlen]; exact hx.lt_length h.toRanked hl)
    (by rw [hlen]; exact hy.lt_length h.toRanked hr)
  exact ⟨hv, hlength.trans hlen, a, b, hab, fun w s hw => hmerged w s ((hiff w s).mpr hw)⟩

/-- A union keeps the invariant and joins the classes of its arguments. -/
theorem unite_spec (h : sets.Valid) {left right : ℕ} (hl : left < sets.parent.length)
    (hr : right < sets.parent.length) :
    (sets.unite left right).Valid ∧ (sets.unite left right).parent.length = sets.parent.length ∧
      ∀ v w, (sets.unite left right).Same v w ↔ sets.Same v w ∨
        sets.Same v left ∧ sets.Same w right ∨ sets.Same v right ∧ sets.Same w left := by
  obtain ⟨x, hroot⟩ := h.exists_root left
  obtain ⟨y, hright⟩ := h.exists_root right
  obtain ⟨hv, hlength, a, b, hab, hmerged⟩ := unite_merges h hl hr hroot hright
  refine ⟨hv, hlength, fun v w => ?_⟩
  obtain ⟨r, hvr⟩ := h.exists_root v
  obtain ⟨s, hws⟩ := h.exists_root w
  have hsame : ∀ {v w r s}, Root sets.parent v r → Root sets.parent w s →
      (sets.Same v w ↔ r = s) := fun hv hw =>
    ⟨fun ⟨t, hvt, hwt⟩ => (hv.unique hvt).trans (hw.unique hwt).symm, fun he => ⟨_, hv, he ▸ hw⟩⟩
  have hjoined : (sets.unite left right).Same v w ↔
      (if r = a then b else r) = if s = a then b else s := by
    have hvr' := hmerged v r hvr
    have hws' := hmerged w s hws
    exact ⟨fun ⟨t, hvt, hwt⟩ => (hvr'.unique hvt).trans (hws'.unique hwt).symm,
      fun he => ⟨_, hvr', he ▸ hws'⟩⟩
  rw [hjoined, hsame hvr hws, hsame hvr hroot, hsame hws hright, hsame hvr hright, hsame hws hroot]
  rcases hab with ⟨rfl, rfl⟩ | ⟨rfl, rfl⟩ <;> split_ifs <;> grind

/-- The unions of a list of pairs. -/
def uniteAll (sets : UnionFind) (pairs : List (ℕ × ℕ)) : UnionFind :=
  pairs.foldl (fun sets pair => sets.unite pair.1 pair.2) sets

theorem up_range (size v : ℕ) : up (List.range size) v = v := by
  unfold up
  by_cases hv : v < size <;> simp [hv]

theorem create_valid (size : ℕ) : (create size).Valid :=
  ⟨by simp [create], fun v hv => by rwa [create, up_range], fun v hv => absurd (up_range size v) hv⟩

theorem create_same (size v w : ℕ) : (create size).Same v w ↔ v = w := by
  have hroot : ∀ v, Root (create size).parent v v := fun v => .self (up_range size v)
  constructor
  · rintro ⟨r, hv, hw⟩
    exact ((hroot v).unique hv).trans ((hroot w).unique hw).symm
  · rintro rfl
    exact ⟨v, hroot v, hroot v⟩

/-- The pairs of a list connect two elements. -/
def Connected (pairs : List (ℕ × ℕ)) : ℕ → ℕ → Prop :=
  Relation.EqvGen fun a b => (a, b) ∈ pairs

theorem Connected.mono {pairs pairs' : List (ℕ × ℕ)} (h : ∀ p ∈ pairs, p ∈ pairs') {v w : ℕ}
    (hc : Connected pairs v w) : Connected pairs' v w :=
  Relation.EqvGen.mono (fun _ _ hab => h _ hab) v w hc

/-- One more pair joins the classes of its elements. -/
theorem connected_append (pairs : List (ℕ × ℕ)) (a b v w : ℕ) :
    Connected (pairs ++ [(a, b)]) v w ↔ Connected pairs v w ∨
      Connected pairs v a ∧ Connected pairs w b ∨ Connected pairs v b ∧ Connected pairs w a := by
  have hequiv : Equivalence (Connected pairs) := Relation.EqvGen.is_equivalence _
  constructor
  · intro h
    induction h with
    | rel c d hcd =>
      rcases List.mem_append.mp hcd with hcd | hcd
      · exact .inl (.rel _ _ hcd)
      · obtain ⟨rfl, rfl⟩ := Prod.mk.inj (List.mem_singleton.mp hcd)
        exact .inr (.inl ⟨hequiv.refl _, hequiv.refl _⟩)
    | refl c => exact .inl (hequiv.refl c)
    | symm c d _ ih =>
      rcases ih with ih | ⟨hc, hd⟩ | ⟨hc, hd⟩
      · exact .inl (hequiv.symm ih)
      · exact .inr (.inr ⟨hd, hc⟩)
      · exact .inr (.inl ⟨hd, hc⟩)
    | trans c d e _ _ ih ih' =>
      have hs := @hequiv.symm
      have ht := @hequiv.trans
      rcases ih with ih | ⟨hc, hd⟩ | ⟨hc, hd⟩ <;> rcases ih' with ih' | ⟨hd', he⟩ | ⟨hd', he⟩
      · exact .inl (ht ih ih')
      · exact .inr (.inl ⟨ht ih hd', he⟩)
      · exact .inr (.inr ⟨ht ih hd', he⟩)
      · exact .inr (.inl ⟨hc, ht (hs ih') hd⟩)
      · exact .inl (ht hc (ht (hs hd') (ht hd (hs he))))
      · exact .inl (ht hc (hs he))
      · exact .inr (.inr ⟨hc, ht (hs ih') hd⟩)
      · exact .inl (ht hc (hs he))
      · exact .inl (ht hc (ht (hs hd') (ht hd (hs he))))
  · have hmono : ∀ {v w}, Connected pairs v w → Connected (pairs ++ [(a, b)]) v w := fun h =>
      h.mono fun p hp => List.mem_append_left _ hp
    have hpair : Connected (pairs ++ [(a, b)]) a b := .rel _ _ (by simp)
    rintro (h | ⟨hv, hw⟩ | ⟨hv, hw⟩)
    · exact hmono h
    · exact (hmono hv).trans _ _ _ (hpair.trans _ _ _ ((hmono hw).symm _ _))
    · exact (hmono hv).trans _ _ _ ((hpair.symm _ _).trans _ _ _ ((hmono hw).symm _ _))

/-- After any unions, one class is what the united pairs connect. -/
theorem uniteAll_spec (size : ℕ) (pairs : List (ℕ × ℕ)) :
    (∀ p ∈ pairs, p.1 < size ∧ p.2 < size) →
      ((create size).uniteAll pairs).Valid ∧
      ((create size).uniteAll pairs).parent.length = size ∧
      ∀ v w, ((create size).uniteAll pairs).Same v w ↔ Connected pairs v w := by
  induction pairs using List.reverseRecOn with
  | nil =>
    intro _
    refine ⟨create_valid size, List.length_range, fun v w => (create_same size v w).trans ?_⟩
    constructor
    · rintro rfl
      exact .refl v
    · intro h
      induction h with
      | rel a b hab => simp at hab
      | refl a => rfl
      | symm a b _ ih => exact ih.symm
      | trans a b c _ _ ih ih' => exact ih.trans ih'
  | append_singleton pairs pair ih =>
    intro h
    obtain ⟨hv, hlen, hsame⟩ := ih fun p hp => h p (List.mem_append_left _ hp)
    obtain ⟨ha, hb⟩ := h pair (by simp)
    obtain ⟨hv', hlen', hsame'⟩ := unite_spec hv (hlen.symm ▸ ha) (hlen.symm ▸ hb)
    have hfold : (create size).uniteAll (pairs ++ [pair]) =
        ((create size).uniteAll pairs).unite pair.1 pair.2 := by
      simp [uniteAll]
    rw [hfold]
    refine ⟨hv', hlen'.trans hlen, fun v w => ?_⟩
    rw [hsame', connected_append]
    simp only [hsame]

end UnionFind
end PointcloudAd.Library
