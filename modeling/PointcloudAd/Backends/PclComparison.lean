import Mathlib.Data.List.GetD
import PointcloudAd.Backends.PclPreprocess

/-!
# Nearest neighbours on PCL

For every valid sample of a query surface, the nearest valid sample of a reference within a
distance. The loop runs over logical indices and writes storage indices.
-/

namespace PointcloudAd

open Library Registration

variable {F D : Type} [FloatArith F] [FloatArith D] [Floats F D]

structure NearestNeighborResult (F : Type) where
  neighborIndex : List ℤ
  distanceMm : List F

def comparisonError (reason : String) : Error :=
  ⟨.internalError, .compare, "PCL nearest-neighbour search failed", [("reason", reason)]⟩

def catchComparison : Exn → Error
  | .invalidArgument what | .exception what => comparisonError what
  | .unknown => comparisonError "unknown backend exception"

/-- The buffers of one worker. -/
structure NeighborScratch (F : Type) where
  indices : List ℤ
  squaredDistances : List F

instance : Inhabited (NeighborScratch F) := ⟨⟨[0], [0]⟩⟩

instance inhabitedNeighbor : Inhabited (ℤ × F) := ⟨(-1, 0)⟩

/-- The storage index of a logical one. -/
def storageIndex (grid : Option GridTopology) (logical : ℕ) : ℕ :=
  match grid with
  | some grid => logical / grid.width.toNat * grid.rowStride.toNat + logical % grid.width.toNat
  | none => logical

def referenceSamples (reference : SurfaceView F) : CloudMapping F :=
  let indices := reference.indices.filter reference.isValidIndex
  ⟨indices.map fun index => reference.points.getD index default, indices⟩

/-- The sample that a search result names, with its squared distance, when it is near enough. -/
def acceptedNeighbor (squaredLimit : F) (size : ℕ) : List (ℤ × F) → Option (ℕ × F)
  | [] => none
  | (neighbor, squared) :: _ =>
    if squaredLimit < squared then none
    else if neighbor < 0 then none
    else if size ≤ neighbor.toNat then none
    else some (neighbor.toNat, squared)

def queryOneCode (pcl : Pcl F D) (reference : CloudMapping F) (query : SurfaceView F)
    (squaredLimit : F) (logical : ℕ) : Code Unit (NeighborScratch F) (ℤ × F) Exn Unit := do
  let index := storageIndex query.grid logical
  if ¬ query.isValidIndex index then pure ()
  else
    let found ← Code.lift
      (pcl.nearestKSearch reference.cloud (query.points.getD index default) 1)
    Code.setScratch fun scratch => { scratch with indices := found.map Prod.fst }
    Code.setScratch fun scratch => { scratch with squaredDistances := found.map Prod.snd }
    let distances ← Code.scratch
    let indices ← Code.scratch
    match acceptedNeighbor squaredLimit reference.storageIndices.length
      (indices.indices.zip distances.squaredDistances) with
    | none => pure ()
    | some (neighbor, squared) =>
      Code.store () fun cell => (int32 (reference.storageIndices.getD neighbor 0), cell.2)
      Code.store () fun cell => (cell.1, sqrt squared)

def nearestNeighbors (host : Host F D) (scheduler : Scheduler) (reference query : SurfaceView F)
    (maxDistance : D) (threads : UInt32) : Result (NearestNeighborResult F) :=
  let samples := referenceSamples reference
  let cells : List (ℤ × F) := List.replicate query.storageSize (-1, 0)
  if samples.cloud = [] then .ok ⟨cells.map Prod.fst, cells.map Prod.snd⟩
  else
    let squaredLimit : F := narrow (maxDistance * maxDistance)
    ((CpuExecutor.parallelFor scheduler threads query.size
        ⟨storageIndex query.grid, queryOneCode host.pcl samples query squaredLimit⟩ cells).map
      fun cells => ⟨cells.map Prod.fst, cells.map Prod.snd⟩).mapError catchComparison

theorem GridTopology.range_storageIndex (grid : GridTopology) (hw : 0 < grid.width.toNat) :
    ∀ rows, (List.range (rows * grid.width.toNat)).map (storageIndex (some grid)) =
      (List.range rows).flatMap fun row =>
        (List.range grid.width.toNat).map fun column => row * grid.rowStride.toNat + column
  | 0 => by simp
  | rows + 1 => by
    rw [Nat.succ_mul, List.range_add, List.map_append, range_storageIndex grid hw rows,
      List.range_succ, List.flatMap_append, List.flatMap_singleton, List.map_map]
    congr 1
    refine List.map_congr_left fun column hc => ?_
    have hlt := List.mem_range.mp hc
    change (rows * grid.width.toNat + column) / grid.width.toNat * grid.rowStride.toNat +
      (rows * grid.width.toNat + column) % grid.width.toNat = _
    rw [Nat.mul_comm rows, Nat.mul_add_div hw, Nat.div_eq_of_lt hlt, Nat.add_zero,
      Nat.mul_add_mod, Nat.mod_eq_of_lt hlt]

omit [FloatArith F] in
theorem SurfaceView.Shaped.storageIndex_eq {s : SurfaceView F} (h : s.Shaped) {k : ℕ}
    (hk : k < s.indices.length) : storageIndex s.grid k = s.indices[k] := by
  have hwalk : s.indices = (List.range s.indices.length).map (storageIndex s.grid) := by
    unfold SurfaceView.indices logicalIndices
    cases hg : s.grid with
    | none =>
      rw [List.length_range]
      exact (List.map_id _).symm
    | some grid =>
      have hpos := (h.gridFits hg).1.width_pos
      rw [grid.length_logicalIndices, Nat.mul_comm, grid.range_storageIndex hpos]
      rfl
  conv_rhs => rw [List.getElem_of_eq hwalk]
  simp

/-- The neighbour of a query sample in the reference cloud, if any. -/
def neighborAt (pcl : Pcl F D) (cloud : List (Vec3 F)) (query : SurfaceView F) (squaredLimit : F)
    (logical : ℕ) : Except Exn (Option (ℕ × F)) :=
  let index := storageIndex query.grid logical
  if ¬ query.isValidIndex index then .ok none
  else (pcl.nearestKSearch cloud (query.points.getD index default) 1).map
    (acceptedNeighbor squaredLimit cloud.length)

/-- What the loop stores for a neighbour. -/
def storedNeighbor (storageIndices : List ℕ) (neighbor : ℕ × F) : ℤ × F :=
  (int32 (storageIndices.getD neighbor.1 0), sqrt neighbor.2)

omit [FloatArith D] [Floats F D] in
theorem queryOneCode_writes (pcl : Pcl F D) (reference query : SurfaceView F) (squaredLimit : F) :
    CpuExecutor.Writes
      ⟨storageIndex query.grid, queryOneCode pcl (referenceSamples reference) query squaredLimit⟩
      fun logical =>
        (neighborAt pcl (referenceSamples reference).cloud query squaredLimit logical).map
          (Option.map (storedNeighbor (referenceSamples reference).storageIndices)) := by
  have hlength : (referenceSamples reference).cloud.length =
      (referenceSamples reference).storageIndices.length := List.length_map _
  have hzip : ∀ found : List (ℤ × F), (found.map Prod.fst).zip (found.map Prod.snd) = found :=
    fun _ => (List.zip_of_prod rfl rfl).symm
  constructor
  intro i scratch c
  simp only [Job.step, queryOneCode, neighborAt, hlength]
  split_ifs
  · rw [Code.run_bind, Code.run_lift]
    cases pcl.nearestKSearch (referenceSamples reference).cloud
      (query.points.getD (storageIndex query.grid i) default) 1 with
    | error e => rfl
    | ok found =>
      simp only [Code.run_bind, Code.run_setScratch, Code.run_scratch, hzip, Except.map]
      rcases acceptedNeighbor squaredLimit (referenceSamples reference).storageIndices.length found
        with _ | ⟨neighbor, squared⟩
      · rfl
      · simp only [Code.run_bind, Code.run_store, Cells.one, errorOf, storedNeighbor,
          Option.map_some, Option.getD_some]
  · rfl

omit [FloatArith D] [Floats F D] in
/-- What the loop of a search leaves. -/
theorem SurfaceView.Shaped.searches_eq {query : SurfaceView F} (hq : query.Shaped) (pcl : Pcl F D)
    (reference : SurfaceView F) (squaredLimit : F) (scheduler : Scheduler) (threads : UInt32) :
    CpuExecutor.parallelFor scheduler threads query.size
        ⟨storageIndex query.grid, queryOneCode pcl (referenceSamples reference) query squaredLimit⟩
        (List.replicate query.storageSize (-1, 0)) =
      if threads = 0 then .error (.invalidArgument "thread budget must be positive")
      else ((List.range query.indices.length).mapM fun logical =>
          (neighborAt pcl (referenceSamples reference).cloud query squaredLimit logical).map
            (Option.map (storedNeighbor (referenceSamples reference).storageIndices))).map
        fun values =>
          scatter (List.replicate query.storageSize (-1, 0)) (writesAt query.indices values) := by
  have hlt : ∀ i ∈ query.indices,
      i < (List.replicate query.storageSize ((-1 : ℤ), (0 : F))).length := by
    intro i hi
    simpa using hq.lt hi
  unfold SurfaceView.size
  rw [← hq.length_indices]
  exact CpuExecutor.parallelFor_writes (queryOneCode_writes pcl reference query squaredLimit)
    hq.nodup hlt (fun k hk => hq.storageIndex_eq hk) scheduler threads

/-- Every index that a search stored is a valid sample of the surface that was searched. -/
def NeighborsValid (reference : SurfaceView F) (nearest : NearestNeighborResult F) : Prop :=
  ∀ i, 0 ≤ nearest.neighborIndex.getD i (-1) →
    (nearest.neighborIndex.getD i (-1)).toNat ∈ reference.indices ∧
      reference.isValidIndex (nearest.neighborIndex.getD i (-1)).toNat = true

theorem int32_eq {index : ℕ} (h : index < 2 ^ 31) : int32 index = index := by
  unfold int32
  rw [Int.bmod_eq_of_le_mul_two] <;> omega

omit [FloatArith D] [Floats F D] in
theorem acceptedNeighbor_lt {squaredLimit : F} {size : ℕ} {found : List (ℤ × F)} {neighbor : ℕ × F}
    (h : acceptedNeighbor squaredLimit size found = some neighbor) : neighbor.1 < size := by
  unfold acceptedNeighbor at h
  cases found with
  | nil => cases h
  | cons entry found =>
    dsimp only at h
    split_ifs at h with hfar hnegative hlarge
    rw [← Option.some.inj h]
    exact Nat.lt_of_not_le hlarge

omit [FloatArith D] [Floats F D] in
theorem storedNeighbor_valid {reference : SurfaceView F} (h : reference.Shaped)
    (hstorage : reference.storageSize < 2 ^ 31) {neighbor : ℕ × F}
    (hlt : neighbor.1 < (referenceSamples reference).cloud.length) :
    (storedNeighbor (referenceSamples reference).storageIndices neighbor).1.toNat ∈
        reference.indices ∧
      reference.isValidIndex
        (storedNeighbor (referenceSamples reference).storageIndices neighbor).1.toNat = true := by
  have hlength : neighbor.1 < (reference.indices.filter reference.isValidIndex).length := by
    simpa [referenceSamples] using hlt
  obtain ⟨hmem, hvalid⟩ := List.mem_filter.mp (List.getElem_mem hlength)
  unfold storedNeighbor referenceSamples
  dsimp only
  rw [List.getD_eq_getElem _ _ hlength, int32_eq ((h.lt hmem).trans hstorage), Int.toNat_natCast]
  exact ⟨hmem, hvalid⟩

/-- A search whose library calls succeed does, and stores valid samples. -/
theorem nearestNeighbors_ok {host : Host F D}
    (hpcl : ∀ cloud point k, ∃ found, host.pcl.nearestKSearch cloud point k = .ok found)
    {reference query : SurfaceView F} (hr : reference.Shaped)
    (hstorage : reference.storageSize < 2 ^ 31) (hq : query.Shaped) (scheduler : Scheduler)
    (maxDistance : D) {threads : UInt32} (hthreads : threads ≠ 0) :
    ∃ nearest, nearestNeighbors host scheduler reference query maxDistance threads = .ok nearest ∧
      NeighborsValid reference nearest := by
  have hnone : ∀ cells : List (ℤ × F), (∀ cell ∈ cells, cell.1 = -1 ∨
      cell.1.toNat ∈ reference.indices ∧ reference.isValidIndex cell.1.toNat = true) →
      NeighborsValid reference ⟨cells.map Prod.fst, cells.map Prod.snd⟩ := by
    intro cells hcells i hi
    dsimp only at hi ⊢
    rw [show (-1 : ℤ) = ((-1, 0) : ℤ × F).1 from rfl, List.getD_map] at hi ⊢
    by_cases hlt : i < cells.length
    · rw [List.getD_eq_getElem _ _ hlt] at hi ⊢
      rcases hcells _ (List.getElem_mem hlt) with he | hvalid
      · rw [he] at hi
        omega
      · exact hvalid
    · rw [List.getD_eq_default _ _ (Nat.le_of_not_lt hlt)] at hi
      exact absurd (show (0 : ℤ) ≤ -1 from hi) (by decide)
  unfold nearestNeighbors
  dsimp only
  split_ifs with hempty
  · refine ⟨_, rfl, hnone _ fun cell hcell => .inl ?_⟩
    rw [List.eq_of_mem_replicate hcell]
  · rw [hq.searches_eq, if_neg hthreads]
    have hsteps : ∀ k ∈ List.range query.indices.length, ∃ value,
        (neighborAt host.pcl (referenceSamples reference).cloud query
          (narrow (maxDistance * maxDistance)) k).map
            (Option.map (storedNeighbor (referenceSamples reference).storageIndices)) =
              .ok value := by
      intro k _
      unfold neighborAt
      dsimp only
      split_ifs
      · obtain ⟨found, hfound⟩ := hpcl (referenceSamples reference).cloud
          (query.points.getD (storageIndex query.grid k) default) 1
        rw [hfound]
        exact ⟨_, rfl⟩
      · exact ⟨none, rfl⟩
    obtain ⟨values, hvalues⟩ := exists_mapM_ok hsteps
    rw [hvalues]
    refine ⟨_, rfl, hnone _ fun cell hcell => ?_⟩
    rcases mem_scatter_writesAt hcell with hcell | hcell
    · rw [List.eq_of_mem_replicate hcell]
      exact .inl rfl
    · obtain ⟨k, hk, value, hvalue, rfl⟩ :=
        (exists_mapM_iff hvalues fun value => value = some cell).mp ⟨_, hcell, rfl⟩
      cases hneighbor : neighborAt host.pcl (referenceSamples reference).cloud query
          (narrow (maxDistance * maxDistance)) k with
      | error e =>
        rw [hneighbor] at hvalue
        cases hvalue
      | ok found =>
        rw [hneighbor] at hvalue
        obtain ⟨neighbor, rfl, rfl⟩ := Option.map_eq_some_iff.mp (Except.ok.inj hvalue)
        refine .inr (storedNeighbor_valid hr hstorage ?_)
        unfold neighborAt at hneighbor
        dsimp only at hneighbor
        split_ifs at hneighbor
        · obtain ⟨entries, hentries⟩ := hpcl (referenceSamples reference).cloud
            (query.points.getD (storageIndex query.grid k) default) 1
          rw [hentries] at hneighbor
          exact acceptedNeighbor_lt (Except.ok.inj hneighbor)
        · cases hneighbor

variable {r r' q q' : SurfaceView F}

theorem nearestNeighbors_workers (h : q.Shaped) (host : Host F D) (scheduler scheduler' : Scheduler)
    (reference : SurfaceView F) (maxDistance : D) {threads threads' : UInt32}
    (hthreads : threads = 0 ↔ threads' = 0) :
    nearestNeighbors host scheduler reference q maxDistance threads =
      nearestNeighbors host scheduler' reference q maxDistance threads' := by
  unfold nearestNeighbors
  dsimp only
  rw [h.searches_eq, h.searches_eq]
  simp only [hthreads]

theorem Corresponds.referenceSamples_cloud (h : Corresponds r r') :
    (referenceSamples r).cloud = (referenceSamples r').cloud :=
  h.matching.filter_map h.valid fun i j hp hv => by rw [h.points.getD hp hv]

omit [FloatArith D] [Floats F D] in
theorem neighborAt_eq (h : Corresponds q q') (pcl : Pcl F D) (cloud : List (Vec3 F))
    (squaredLimit : F) {k : ℕ} (hk : k < q.indices.length) :
    neighborAt pcl cloud q squaredLimit k = neighborAt pcl cloud q' squaredLimit k := by
  have hk' : k < q'.indices.length := h.matching.length ▸ hk
  have hpair : Paired q.indices q'.indices q.indices[k] q'.indices[k] :=
    ⟨k, List.getElem?_eq_getElem hk, List.getElem?_eq_getElem hk'⟩
  unfold neighborAt
  dsimp only
  rw [h.left.storageIndex_eq hk, h.right.storageIndex_eq hk', ← h.valid _ _ hpair]
  by_cases hv : q.isValidIndex q.indices[k] = true
  · rw [h.points.getD hpair hv]
  · rw [if_pos hv, if_pos hv]

theorem referenceSamples_indices (h : Corresponds r r') (hl : SameLayout r r') :
    (referenceSamples r).storageIndices = (referenceSamples r').storageIndices := by
  change r.indices.filter r.isValidIndex = r'.indices.filter r'.isValidIndex
  rw [← hl.indices]
  exact List.filter_congr fun _ hi => h.isValidIndex_eq hl hi

/-- Searches over corresponding surfaces fail alike, and agree when the layouts do. -/
theorem nearestNeighbors_related (hr : Corresponds r r') (hq : Corresponds q q') (host : Host F D)
    (scheduler scheduler' : Scheduler) (maxDistance : D) {threads threads' : UInt32}
    (hthreads : threads = 0 ↔ threads' = 0) :
    Outcome (fun a b => SameLayout r r' → SameLayout q q' → a = b)
      (nearestNeighbors host scheduler r q maxDistance threads)
      (nearestNeighbors host scheduler' r' q' maxDistance threads') := by
  have hlength : q'.indices.length = q.indices.length := hq.matching.length.symm
  unfold nearestNeighbors
  dsimp only
  rw [← hr.referenceSamples_cloud]
  split_ifs
  · exact .ok fun _ hl => by rw [hl.storage]
  · rw [hq.left.searches_eq, hq.right.searches_eq]
    simp only [hthreads, hlength, ← hr.referenceSamples_cloud]
    refine Outcome.mapError _ ?_
    split_ifs
    · exact .error _
    · have hvalues := Outcome.mapM (R := fun k l => k = l ∧ k < q.indices.length)
        (S := fun a b : Option (ℤ × F) => SameLayout r r' → a = b)
        (f := fun k => (neighborAt host.pcl (referenceSamples r).cloud q
          (narrow (maxDistance * maxDistance)) k).map
            (Option.map (storedNeighbor (referenceSamples r).storageIndices)))
        (g := fun k => (neighborAt host.pcl (referenceSamples r).cloud q'
          (narrow (maxDistance * maxDistance)) k).map
            (Option.map (storedNeighbor (referenceSamples r').storageIndices)))
        (l := List.range q.indices.length) (m := List.range q.indices.length) ?_ ?_
      · refine (hvalues.map (S := fun a b => SameLayout r r' → SameLayout q q' → a = b) ?_).map ?_
        · intro values values' hv hl hl'
          have heq : values = values' := by
            rw [← List.forall₂_eq_eq_eq]
            exact hv.imp fun _ _ h => h hl
          rw [heq, hl'.indices, hl'.storage]
        · intro cells cells' hc hl hl'
          rw [hc hl hl']
      · rintro k _ ⟨rfl, hk⟩
        rw [← neighborAt_eq hq host.pcl _ _ hk]
        refine (Outcome.refl (fun _ => rfl) _).map (R := Eq) ?_
        rintro found _ rfl hl
        rw [referenceSamples_indices hr hl]
      · rw [List.forall₂_same]
        exact fun k hk => ⟨rfl, List.mem_range.mp hk⟩

end PointcloudAd
