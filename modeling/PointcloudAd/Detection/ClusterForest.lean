import PointcloudAd.Detection.Components
import PointcloudAd.Library.UnionByRank

/-!
# The forest of a clustering

Whatever is united and found, in any order, the disjoint sets of a clustering are a forest of low
trees: the recursion of every search ends, and is no deeper than a logarithm of their size.
-/

namespace PointcloudAd

open Library

/-- A call of the disjoint sets. -/
inductive ForestCall where
  | find (value : ℕ)
  | unite (left right : ℕ)
  deriving DecidableEq, Repr

namespace ForestCall

def InRange (size : ℕ) : ForestCall → Prop
  | find value => value < size
  | unite left right => left < size ∧ right < size

def apply (sets : UnionFind) : ForestCall → UnionFind
  | find value => (sets.find value).2
  | unite left right => sets.unite left right

/-- The searches of a call, each with the sets that it finds. A union searches twice, the second
time after the first one compressed its path. -/
def searches (sets : UnionFind) : ForestCall → List (UnionFind × ℕ)
  | find value => [(sets, value)]
  | unite left right => [(sets, left), ((sets.find left).2, right)]

end ForestCall

def runForest (size : ℕ) (calls : List ForestCall) : UnionFind :=
  calls.foldl ForestCall.apply (UnionFind.create size)

/-- Parents lead to roots, ranks grow along them, and trees are large for the ranks of their
roots. -/
structure ForestSound (size : ℕ) (sets : UnionFind) : Prop where
  parent_length : sets.parent.length = size
  rank_length : sets.rank.length = size
  rooted : ∀ v < size, ∃ r < size, Root sets.parent v r
  acyclic : ∀ v < size, ∀ k > 0, (up sets.parent)^[k] v = v → up sets.parent v = v
  ranked : ∀ v < size, up sets.parent v ≠ v →
    sets.rank.getD v 0 < sets.rank.getD (up sets.parent v) 0
  members : ∀ r v, v ∈ sets.tree r ↔ v < size ∧ Root sets.parent v r
  weight : ∀ r < size, up sets.parent r = r → 2 ^ sets.rank.getD r 0 ≤ (sets.tree r).card

/-- The recursion of every search of a call ends with what the search returns, and is no deeper than
a logarithm. -/
def SearchesBounded (size : ℕ) (sets : UnionFind) (call : ForestCall) : Prop :=
  ∀ search ∈ call.searches sets, ∃ depth ≤ Nat.log2 size + 1,
    FindCall search.1.parent search.2 (search.1.find search.2).1
      (search.1.find search.2).2.parent depth

/-- A search keeps every root and every rank. -/
def FindKeeps (sets : UnionFind) (value : ℕ) : Prop :=
  (sets.find value).2.rank = sets.rank ∧
    ∀ w r, Root (sets.find value).2.parent w r ↔ Root sets.parent w r

/-- A union keeps the parents, the ranks and the roots of all other trees, and leaves one of the two
roots to its own. -/
structure UniteConfined (sets : UnionFind) (left right : ℕ) : Prop where
  others : ∀ w, ¬ sets.Same w left → ¬ sets.Same w right →
    up (sets.unite left right).parent w = up sets.parent w ∧
      (sets.unite left right).rank.getD w 0 = sets.rank.getD w 0 ∧
      ∀ r, Root sets.parent w r → Root (sets.unite left right).parent w r
  merged : ∃ top, (Root sets.parent left top ∨ Root sets.parent right top) ∧
    ∀ w, sets.Same w left ∨ sets.Same w right → Root (sets.unite left right).parent w top

section Runs

variable {size : ℕ} {sets : UnionFind}

theorem ForestCall.apply_balanced (h : sets.Balanced) (hlength : sets.parent.length = size)
    {call : ForestCall} (hcall : call.InRange size) :
    (call.apply sets).Balanced ∧ (call.apply sets).parent.length = size := by
  cases call with
  | find value => exact ⟨h.find value, (UnionFind.find_spec h.valid value).2.2.1.trans hlength⟩
  | unite left right =>
    obtain ⟨hl, hr⟩ := hcall
    rw [← hlength] at hl hr
    exact ⟨h.unite hl hr, (UnionFind.unite_spec h.valid hl hr).2.1.trans hlength⟩

theorem runForest_balanced {calls : List ForestCall} (h : ∀ call ∈ calls, call.InRange size) :
    (runForest size calls).Balanced ∧ (runForest size calls).parent.length = size := by
  induction calls using List.reverseRecOn with
  | nil => exact ⟨UnionFind.create_balanced size, List.length_range⟩
  | append_singleton calls call ih =>
    obtain ⟨hbalanced, hlength⟩ := ih fun other hother => h other (by simp [hother])
    unfold runForest at hbalanced hlength ⊢
    rw [List.foldl_concat]
    exact ForestCall.apply_balanced hbalanced hlength (h call (by simp))

theorem forestSound_of_balanced (h : sets.Balanced) (hlength : sets.parent.length = size) :
    ForestSound size sets := by
  subst hlength
  have hranked := h.valid.toRanked
  constructor
  case parent_length => rfl
  case rank_length => exact h.valid.length
  case rooted =>
    intro v hv
    obtain ⟨r, hr⟩ := h.valid.exists_root v
    exact ⟨r, hr.lt_length hranked hv, hr⟩
  case acyclic =>
    intro v _ k hk hcycle
    exact hranked.acyclic hk hcycle
  case ranked => exact fun v _ => h.valid.ranked v
  case members => exact fun r v => UnionFind.mem_tree h.valid
  case weight => exact h.weight

theorem searchesBounded_of_balanced (h : sets.Balanced)
    (hlength : sets.parent.length = size) {call : ForestCall} (hcall : call.InRange size) :
    SearchesBounded size sets call := by
  subst hlength
  intro search hsearch
  cases call with
  | find value =>
    rw [ForestCall.searches, List.mem_singleton] at hsearch
    subst hsearch
    exact h.findCall hcall
  | unite left right =>
    rcases List.mem_pair.mp hsearch with rfl | rfl
    · exact h.findCall hcall.1
    · have hfound := (UnionFind.find_spec h.valid left).2.2.1
      rw [← hfound]
      exact (h.find left).findCall (hfound ▸ hcall.2)

theorem uniteConfined_of_valid (h : sets.Valid) {left right : ℕ}
    (hl : left < sets.parent.length) (hr : right < sets.parent.length) :
    UniteConfined sets left right := by
  obtain ⟨x, hx⟩ := h.exists_root left
  obtain ⟨y, hy⟩ := h.exists_root right
  obtain ⟨-, -, child, top, hroots, hmoved⟩ := UnionFind.unite_merges h hl hr hx hy
  constructor
  case others =>
    intro w hleft hright
    obtain ⟨hup, hrank⟩ := UnionFind.up_unite h hl hr hleft hright
    refine ⟨hup, hrank, fun r hw => ?_⟩
    have hne : r ≠ child := by
      rintro rfl
      rcases hroots with ⟨rfl, -⟩ | ⟨rfl, -⟩
      · exact hleft ⟨r, hw, hx⟩
      · exact hright ⟨r, hw, hy⟩
    have hw' := hmoved w r hw
    rwa [if_neg hne] at hw'
  case merged =>
    refine ⟨top, ?_, fun w hw => ?_⟩
    · rcases hroots with ⟨-, rfl⟩ | ⟨-, rfl⟩
      · exact .inr hy
      · exact .inl hx
    · have hroot : Root sets.parent w child ∨ Root sets.parent w top := by
        rcases hw with ⟨r, hw, hl⟩ | ⟨r, hw, hr⟩
        · obtain rfl := hl.unique hx
          rcases hroots with ⟨rfl, -⟩ | ⟨-, rfl⟩
          · exact .inl hw
          · exact .inr hw
        · obtain rfl := hr.unique hy
          rcases hroots with ⟨-, rfl⟩ | ⟨rfl, -⟩
          · exact .inr hw
          · exact .inl hw
      rcases hroot with hw | hw
      · have hw' := hmoved w child hw
        rwa [if_pos rfl] at hw'
      · have hw' := hmoved w top hw
        rwa [ite_self] at hw'

/-- For every number of elements and every sequence of calls on them, whose searches are those of
its prefixes: the sets are a sound forest, every further search is bounded, a search keeps roots and
ranks, and a union is confined to two trees. -/
theorem unionFind_bounded (size : ℕ) (calls : List ForestCall)
    (h : ∀ call ∈ calls, call.InRange size) :
    ForestSound size (runForest size calls) ∧
      (∀ call : ForestCall, call.InRange size →
        SearchesBounded size (runForest size calls) call) ∧
      (∀ value < size, FindKeeps (runForest size calls) value) ∧
      ∀ left < size, ∀ right < size, UniteConfined (runForest size calls) left right := by
  obtain ⟨hbalanced, hlength⟩ := runForest_balanced h
  refine ⟨forestSound_of_balanced hbalanced hlength, fun call hcall =>
    searchesBounded_of_balanced hbalanced hlength hcall, ?_, ?_⟩
  · intro value _
    exact ⟨UnionFind.find_rank _ value, (UnionFind.find_spec hbalanced.valid value).2.2.2⟩
  · intro left hl right hr
    rw [← hlength] at hl hr
    exact uniteConfined_of_valid hbalanced.valid hl hr

/-- Two unions of four elements, and a search between them. -/
theorem unionFind_bounded_four :
    ForestSound 4 (runForest 4 [.unite 0 1, .find 1, .unite 1 2]) ∧
      SearchesBounded 4 (runForest 4 [.unite 0 1, .find 1, .unite 1 2]) (.unite 2 3) ∧
      FindKeeps (runForest 4 [.unite 0 1, .find 1, .unite 1 2]) 2 ∧
      UniteConfined (runForest 4 [.unite 0 1, .find 1, .unite 1 2]) 2 3 := by
  obtain ⟨hforest, hsearches, hfind, hunite⟩ :=
    unionFind_bounded 4 [.unite 0 1, .find 1, .unite 1 2] (by simp [ForestCall.InRange])
  exact ⟨hforest, hsearches _ ⟨by decide, by decide⟩, hfind 2 (by decide),
    hunite 2 (by decide) 3 (by decide)⟩

end Runs

section Clustering

variable {F D : Type} [FloatArith F] [FloatArith D] {pcl : Pcl F D} {cloud : List (Vec3 F)}
  {tolerance : D}

omit [FloatArith D] in
theorem uniteNeighbors_calls
    (hrange : ∀ candidate < cloud.length, ∀ found,
      candidateNeighbors pcl cloud tolerance candidate = .ok found →
        ∀ neighbor ∈ found, 0 ≤ neighbor ∧ neighbor < cloud.length) {sets : UnionFind}
    (h : uniteNeighbors pcl cloud tolerance = .ok sets) :
    ∃ calls : List ForestCall, (∀ call ∈ calls, call.InRange cloud.length) ∧
      sets = runForest cloud.length calls := by
  obtain ⟨pairs, rfl, hpairs⟩ := uniteNeighbors_pairs (List.range cloud.length)
    (fun candidate hc => hrange candidate (List.mem_range.mp hc)) _ _ h
  refine ⟨pairs.map fun pair => .unite pair.1 pair.2, ?_, ?_⟩
  · intro call hcall
    obtain ⟨⟨a, b⟩, hpair, rfl⟩ := List.mem_map.mp hcall
    obtain ⟨ha, found, hfound, hb⟩ := (hpairs a b).mp hpair
    have ha := List.mem_range.mp ha
    refine ⟨ha, ?_⟩
    exact_mod_cast (hrange a ha found hfound _ hb).2
  · unfold runForest UnionFind.uniteAll
    rw [List.foldl_map]
    rfl

theorem labelCandidate_calls (size count : ℕ) (calls : List ForestCall) :
    ((List.range count).foldl labelCandidate ⟨runForest size calls, [], []⟩).sets =
      runForest size (calls ++ (List.range count).map .find) := by
  induction count with
  | zero => simp
  | succ count ih =>
    rw [List.range_succ, List.foldl_concat, List.map_append, List.map_singleton,
      ← List.append_assoc]
    unfold runForest at ih ⊢
    rw [List.foldl_concat, ← ih]
    rfl

end Clustering

end PointcloudAd
