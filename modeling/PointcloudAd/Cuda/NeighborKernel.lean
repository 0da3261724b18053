import PointcloudAd.Cuda.NearestKernels

/-!
# The neighbour kernel

A thread keeps the `k` nearest points of one query in two arrays, sorted by distance and then by
index, and a stack of the nodes whose subtrees it still has to visit. The nearer child of a node is
visited first, and a subtree is passed over when none of its points can be among the `k` nearest.
-/

namespace PointcloudAd.Cuda

open Library Registration

variable {F D : Type} [FloatArith F] [FloatArith D] [Floats F D]

/-- The size of the array of pending nodes. -/
def pendingCapacity : ℕ := 64

/-- The memory of a thread: `ds` and `ids` side by side, and the pending nodes. -/
structure KnnState (D : Type) where
  cells : List (D × ℤ)
  found : ℕ
  pending : List ℕ
  pendingCount : ℕ

/-- The order of the neighbours: by distance, then by index. -/
def Nearer (a b : D × ℤ) : Prop := a.1 < b.1 ∨ (equal a.1 b.1 ∧ a.2 < b.2)

instance (a b : D × ℤ) : Decidable (Nearer a b) :=
  inferInstanceAs (Decidable (a.1 < b.1 ∨ _))

/-- A distance and an index that come no earlier than a neighbour that was found. -/
def NotNearer (last : D × ℤ) (distance : D) (id : ℤ) : Prop :=
  last.1 < distance ∨ (equal distance last.1 ∧ last.2 ≤ id)

instance (last : D × ℤ) (distance : D) (id : ℤ) : Decidable (NotNearer last distance id) :=
  inferInstanceAs (Decidable (last.1 < distance ∨ _))

/-- Moves the cells before a position up by one until the entry is in its place. -/
def insertEntry (entry : D × ℤ) : ℕ → List (D × ℤ) → List (D × ℤ)
  | 0, cells => cells.set 0 entry
  | position + 1, cells =>
    let before := cells.getD position (0, 0)
    if Nearer entry before then insertEntry entry position (cells.set (position + 1) before)
    else cells.set (position + 1) entry

/-- Offers one slot of a leaf to the neighbours found so far. -/
def offerSlot (index : SpatialIndex F) (query : Vec3 F) (k : ℕ) (state : List (D × ℤ) × ℕ)
    (slot : ℕ) : List (D × ℤ) × ℕ :=
  let d : D := squaredDistance query (index.points.getD slot default)
  let id := index.originalIndices.getD slot 0
  if state.2 = k then
    if NotNearer (state.1.getD (k - 1) (0, 0)) d id then state
    else (insertEntry (d, id) (k - 1) state.1, state.2)
  else (insertEntry (d, id) state.2 state.1, state.2 + 1)

/-- One pass of the loop over the pending nodes, `none` if it accesses an array out of bounds. -/
def knnStep (index : SpatialIndex F) (query : Vec3 F) (k : ℕ) (state : KnnState D) :
    Option (KnnState D) := do
  let top := state.pendingCount - 1
  let cursor ← state.pending[top]?
  if index.nodes.length ≤ cursor then
    pure { state with pendingCount := top }
  else
    let node := index.nodes.getD cursor default
    if state.found = k ∧ NotNearer (state.cells.getD (k - 1) (0, 0)) (lowerDistance query node)
        node.minimumIndex then
      pure { state with pendingCount := top }
    else if node.count = 0 then
      let first ← index.nodes[cursor + 1]?
      let second ← index.nodes[first.escape]?
      let firstNearer := (lowerDistance query first : D) ≤ lowerDistance query second
      if top + 1 < state.pending.length then
        pure { state with
          pending :=
            (state.pending.set top (if firstNearer then first.escape else cursor + 1)).set (top + 1)
              (if firstNearer then cursor + 1 else first.escape)
          pendingCount := top + 2 }
      else none
    else
      let offered := (List.range' node.begin node.count).foldl (offerSlot index query k)
        (state.cells, state.found)
      pure { state with cells := offered.1, found := offered.2, pendingCount := top }

/-- The loop of a thread, `none` if it takes more passes than given or faults. -/
def knnLoop (index : SpatialIndex F) (query : Vec3 F) (k : ℕ) :
    ℕ → KnnState D → Option (KnnState D)
  | 0, state => if 0 < state.pendingCount then none else some state
  | passes + 1, state =>
    if 0 < state.pendingCount then (knnStep index query k state).bind (knnLoop index query k passes)
    else some state

/-- A thread starts with the root pending, on memory with any contents. -/
def knnStart (cells : List (D × ℤ)) (pending : List ℕ) : KnnState D :=
  ⟨cells, 0, pending.set 0 0, 1⟩

/-- The states that a thread goes through. -/
inductive KnnReached (index : SpatialIndex F) (query : Vec3 F) (k : ℕ) (start : KnnState D) :
    KnnState D → Prop
  | start : KnnReached index query k start start
  | step {state next : KnnState D} (hreached : KnnReached index query k start state)
      (hpending : 0 < state.pendingCount) (hstep : knnStep index query k state = some next) :
      KnnReached index query k start next

end PointcloudAd.Cuda
