import Mathlib.Data.List.Sort
import PointcloudAd.Backends.Host
import PointcloudAd.Preprocess.Vectors
import PointcloudAd.Registration.CpuExecutor

/-!
# Normals and boundaries on PCL

The normal of every valid sample from a plane through its neighbours, and the samples whose
neighbours leave a gap of more than a right angle around them. Both loops run on an executor, with
the search results of each worker in its scratch.
-/

namespace PointcloudAd

open Library Registration

variable {F D : Type} [FloatArith F] [FloatArith D] [Floats F D]

/-- The valid samples of a surface, and where each is stored. -/
structure CloudMapping (F : Type) where
  cloud : List (Vec3 F)
  storageIndices : List ℕ

def makeValidCloud (surface : SurfaceView F) : CloudMapping F :=
  let indices := surface.indices.filter fun index =>
    ¬ (surface.valid ≠ [] ∧ surface.valid.getD index 0 = 0)
  ⟨indices.map fun index => surface.points.getD index default, indices⟩

def featureError (operation reason : String) : Error :=
  ⟨.internalError, .preprocess, "PCL preprocessing failed",
    [("operation", operation), ("reason", reason)]⟩

def catchFeature (operation : String) : Exn → Error
  | .invalidArgument what | .exception what => featureError operation what
  | .unknown => featureError operation "unknown exception"

structure FeatureScratch (F D : Type) where
  neighbors : List ℤ
  squaredDistances : List F
  angles : List D

instance : Inhabited (FeatureScratch F D) := ⟨⟨[], [], []⟩⟩

structure EstimatedNormals (F : Type) where
  normals : List (Vec3 F)
  valid : List UInt8

/-- The normal that some neighbours give a sample, if any. -/
def neighborhoodNormal (pcl : Pcl F D) (cloud : List (Vec3 F)) (minimumNeighbors : UInt32)
    (neighbors : List ℤ) : Option (Vec3 F) :=
  if neighbors.length < minimumNeighbors.toNat ∨ neighbors.length < 3 then none
  else
    match pcl.computePointNormal cloud neighbors with
    | none => none
    | some plane =>
      let normal := unitVector D plane
      if equal normal.x 0 ∧ equal normal.y 0 ∧ equal normal.z 0 then none else some normal

/-- One pass of the loop, whose search results are in the scratch. -/
def estimateNormalsCode (pcl : Pcl F D) (cloud : List (Vec3 F)) (radius : D)
    (minimumNeighbors : UInt32) (cloudIndex : ℕ) :
    Code Unit (FeatureScratch F D) (Vec3 F × UInt8) Exn Unit := do
  Code.setScratch fun scratch => { scratch with neighbors := [] }
  Code.setScratch fun scratch => { scratch with squaredDistances := [] }
  let found ← Code.lift (pcl.radiusSearchAt cloud (int32 cloudIndex) radius)
  Code.setScratch fun scratch => { scratch with neighbors := found.map Prod.fst }
  Code.setScratch fun scratch => { scratch with squaredDistances := found.map Prod.snd }
  Code.setScratch fun scratch =>
    { scratch with neighbors := scratch.neighbors.insertionSort (· ≤ ·) }
  let scratch ← Code.scratch
  match neighborhoodNormal pcl cloud minimumNeighbors scratch.neighbors with
  | none => pure ()
  | some normal =>
    Code.store () fun cell => (normal, cell.2)
    Code.store () fun cell => (cell.1, 1)

def estimateNormals (host : Host F D) (scheduler : Scheduler) (surface : SurfaceView F)
    (radius : D) (minimumNeighbors threads : UInt32) : Result (EstimatedNormals F) :=
  let mapping := makeValidCloud surface
  let cells : List (Vec3 F × UInt8) := List.replicate surface.storageSize (default, 0)
  if mapping.cloud = [] then .ok ⟨cells.map Prod.fst, cells.map Prod.snd⟩
  else
    ((CpuExecutor.parallelFor scheduler threads mapping.storageIndices.length
        ⟨fun k => mapping.storageIndices.getD k 0,
          estimateNormalsCode host.pcl mapping.cloud radius minimumNeighbors⟩ cells).map
      fun cells => ⟨cells.map Prod.fst, cells.map Prod.snd⟩).mapError
        (catchFeature "normal_estimation")

/-- The coordinate axis that is farthest from a normal. -/
def farthestAxis (normal : Vec3 F) : Vec3 F :=
  if abs normal.x ≤ abs normal.y ∧ abs normal.x ≤ abs normal.z then ⟨1, 0, 0⟩
  else if abs normal.y ≤ abs normal.z then ⟨0, 1, 0⟩
  else ⟨0, 0, 1⟩

/-- The direction of a neighbour of a sample in its tangent plane, unless it is the sample itself or
has no direction. -/
def boundaryAngle (cloud : List (Vec3 F)) (normal : Vec3 F) (cloudIndex : ℕ) (neighbor : ℤ) :
    Option D :=
  let normal := unitVector D normal
  let u := unitVector D (crossFloat normal (farthestAxis normal))
  let v := crossFloat normal u
  let origin := cloud.getD cloudIndex default
  if neighbor = int32 cloudIndex ∨ neighbor < 0 ∨ cloud.length ≤ neighbor.toNat then none
  else
    let delta := subFloat (cloud.getD neighbor.toNat default) origin
    let projectedX : D := dotFloat delta u
    let projectedY : D := dotFloat delta v
    if lit (1 / 10 ^ 20) < projectedX * projectedX + projectedY * projectedY then
      some (Floats.atan2 F projectedY projectedX)
    else none

/-- The widest gap between sorted directions around a sample. -/
def maximumGap (sorted : List D) : D :=
  (sorted.zip sorted.tail).foldl (fun gap pair => stdMax gap (pair.2 - pair.1))
    (sorted.headD 0 + lit 2 * kPi - sorted.getLastD 0)

def detectBoundariesCode (pcl : Pcl F D) (cloud normals : List (Vec3 F)) (radius : D)
    (cloudIndex : ℕ) : Code Unit (FeatureScratch F D) UInt8 Exn Unit := do
  Code.setScratch fun scratch => { scratch with neighbors := [] }
  Code.setScratch fun scratch => { scratch with squaredDistances := [] }
  let found ← Code.lift (pcl.radiusSearchAt cloud (int32 cloudIndex) radius)
  Code.setScratch fun scratch => { scratch with neighbors := found.map Prod.fst }
  Code.setScratch fun scratch => { scratch with squaredDistances := found.map Prod.snd }
  Code.setScratch fun scratch => { scratch with angles := [] }
  let neighborhood ← Code.scratch
  forM (List.range neighborhood.neighbors.length) fun k =>
    Code.setScratch fun scratch =>
      { scratch with
        angles := scratch.angles ++
          (boundaryAngle cloud (normals.getD cloudIndex default) cloudIndex
            (scratch.neighbors.getD k 0)).toList }
  let directions ← Code.scratch
  if directions.angles.length < 3 then Code.store () fun _ => 1
  else
    Code.setScratch fun scratch => { scratch with angles := scratch.angles.insertionSort (· ≤ ·) }
    let sorted ← Code.scratch
    Code.store () fun _ => if kPi / lit 2 < maximumGap sorted.angles then 1 else 0

/-- The points and normals of the neighbours are read through the mapping. -/
def detectUnorganizedBoundaries (host : Host F D) (scheduler : Scheduler)
    (surface : SurfaceView F) (radius : D) (threads : UInt32) : Result (List UInt8) :=
  let mapping := makeValidCloud surface
  let boundaries : List UInt8 := List.replicate surface.storageSize 0
  if mapping.cloud = [] then .ok boundaries
  else
    (CpuExecutor.parallelFor scheduler threads mapping.storageIndices.length
      ⟨fun k => mapping.storageIndices.getD k 0,
        detectBoundariesCode host.pcl mapping.cloud
          (mapping.storageIndices.map fun index => surface.normals.getD index default) radius⟩
      boundaries).mapError (catchFeature "boundary_detection")

/-- What the loop over normals writes for a point, if anything. -/
def normalAt (pcl : Pcl F D) (cloud : List (Vec3 F)) (radius : D) (minimumNeighbors : UInt32)
    (cloudIndex : ℕ) : Except Exn (Option (Vec3 F × UInt8)) :=
  (pcl.radiusSearchAt cloud (int32 cloudIndex) radius).map fun found =>
    (neighborhoodNormal pcl cloud minimumNeighbors
      ((found.map Prod.fst).insertionSort (· ≤ ·))).map fun normal => (normal, 1)

/-- The flag of a sample, from the directions of its neighbours. -/
def boundaryFlag (angles : List D) : UInt8 :=
  if angles.length < 3 then 1
  else if kPi / lit 2 < maximumGap (angles.insertionSort (· ≤ ·)) then 1 else 0

def boundaryAt (pcl : Pcl F D) (cloud normals : List (Vec3 F)) (radius : D) (cloudIndex : ℕ) :
    Except Exn (Option UInt8) :=
  (pcl.radiusSearchAt cloud (int32 cloudIndex) radius).map fun found =>
    some (boundaryFlag ((found.map Prod.fst).filterMap
      (boundaryAngle (D := D) cloud (normals.getD cloudIndex default) cloudIndex)))

theorem estimateNormalsCode_writes (cell : ℕ → ℕ) (pcl : Pcl F D) (cloud : List (Vec3 F))
    (radius : D) (minimumNeighbors : UInt32) :
    CpuExecutor.Writes ⟨cell, estimateNormalsCode pcl cloud radius minimumNeighbors⟩
      (normalAt pcl cloud radius minimumNeighbors) := by
  constructor
  intro i scratch c
  simp only [Job.step, estimateNormalsCode, normalAt, Code.run_bind, Code.run_setScratch,
    Code.run_lift]
  cases pcl.radiusSearchAt cloud (int32 i) radius with
  | error e => rfl
  | ok found =>
    simp only [Code.run_scratch, Except.map]
    cases neighborhoodNormal pcl cloud minimumNeighbors
      ((found.map Prod.fst).insertionSort (· ≤ ·)) <;> rfl

/-- The loop over the neighbours collects their directions. -/
theorem run_angles (cloud : List (Vec3 F)) (normal : Vec3 F) (cloudIndex : ℕ)
    (scratch : FeatureScratch F D) (cell : UInt8) :
    (forM (List.range scratch.neighbors.length) fun k =>
      (Code.setScratch fun scratch : FeatureScratch F D =>
        { scratch with
          angles := scratch.angles ++
            (boundaryAngle cloud normal cloudIndex (scratch.neighbors.getD k 0)).toList } :
        Code Unit (FeatureScratch F D) UInt8 Exn Unit)).run (.one UInt8) scratch cell =
      ({ scratch with
          angles := scratch.angles ++
            scratch.neighbors.filterMap (boundaryAngle cloud normal cloudIndex) },
        cell, .ok ()) := by
  have hfold : ∀ (l : List ℕ) (angles : List D),
      l.foldl (fun (scratch : FeatureScratch F D) k =>
        { scratch with
          angles := scratch.angles ++
            (boundaryAngle cloud normal cloudIndex (scratch.neighbors.getD k 0)).toList })
          { scratch with angles } =
        { scratch with
          angles := angles ++ (l.map fun k => scratch.neighbors.getD k 0).filterMap
            (boundaryAngle cloud normal cloudIndex) } := by
    intro l
    induction l with
    | nil => simp
    | cons k l ih =>
      intro angles
      rw [List.foldl_cons, ih, List.map_cons, List.filterMap_cons]
      cases boundaryAngle (D := D) cloud normal cloudIndex (scratch.neighbors.getD k 0) <;> simp
  rw [Code.run_forM _ _ (fun k scratch => Code.run_setScratch _ scratch cell _),
    hfold _ scratch.angles, map_range_getD scratch.neighbors 0 fun neighbor => neighbor,
    List.map_id']

theorem detectBoundariesCode_writes (cell : ℕ → ℕ) (pcl : Pcl F D) (cloud normals : List (Vec3 F))
    (radius : D) :
    CpuExecutor.Writes ⟨cell, detectBoundariesCode pcl cloud normals radius⟩
      (boundaryAt pcl cloud normals radius) := by
  constructor
  intro i scratch c
  simp only [Job.step, detectBoundariesCode, boundaryAt, boundaryFlag, Code.run_bind,
    Code.run_setScratch, Code.run_lift]
  cases pcl.radiusSearchAt cloud (int32 i) radius with
  | error e => rfl
  | ok found =>
    simp only [Code.run_scratch, Except.map]
    rw [run_angles cloud (normals.getD i default) i
      (⟨found.map Prod.fst, found.map Prod.snd, []⟩ : FeatureScratch F D)]
    simp only [List.nil_append]
    by_cases hfew : ((found.map Prod.fst).filterMap
        (boundaryAngle (D := D) cloud (normals.getD i default) i)).length < 3
    · simp only [if_pos hfew]
      rfl
    · simp only [if_neg hfew, Code.run_bind, Code.run_setScratch, Code.run_scratch]
      rfl

variable {s t : SurfaceView F}

omit [FloatArith F] in
theorem SurfaceView.Shaped.unmasked_eq (h : s.Shaped) {i : ℕ} (hi : i ∈ s.indices) :
    decide (¬ (s.valid ≠ [] ∧ s.valid.getD i 0 = 0)) = s.isValidIndex i := by
  unfold SurfaceView.isValidIndex maskValid
  rcases h.mask i hi with hv | hv
  · simp [hv]
  · have hbit : s.valid.getD i 0 = 0 ∨ s.valid.getD i 0 = 1 := by
      simp only [UInt8.lt_iff_toNat_lt, ← UInt8.toNat_inj] at hv ⊢
      have : (1 : UInt8).toNat = 1 := rfl
      have : (0 : UInt8).toNat = 0 := rfl
      omega
    cases hl : s.valid with
    | nil => simp
    | cons b bs =>
      rw [hl, List.getD_eq_getElem?_getD] at hbit
      rcases hbit with hb | hb <;> simp [hb]

theorem SurfaceView.Shaped.makeValidCloud_indices (h : s.Shaped) :
    (makeValidCloud s).storageIndices = s.indices.filter s.isValidIndex :=
  List.filter_congr fun _ hi => h.unmasked_eq hi

theorem Corresponds.makeValidCloud_cloud (h : Corresponds s t) :
    (makeValidCloud s).cloud = (makeValidCloud t).cloud := by
  change (makeValidCloud s).storageIndices.map _ = (makeValidCloud t).storageIndices.map _
  rw [h.left.makeValidCloud_indices, h.right.makeValidCloud_indices]
  exact h.matching.filter_map h.valid fun i j hp hv => by rw [h.points.getD hp hv]

theorem makeValidCloud_length (surface : SurfaceView F) :
    (makeValidCloud surface).cloud.length = (makeValidCloud surface).storageIndices.length :=
  List.length_map _

theorem SurfaceView.Shaped.parallelFor_eq {κ β : Type} [Inhabited κ] [Inhabited β] (h : s.Shaped)
    {body : ℕ → Code Unit κ β Exn Unit} {value : ℕ → Except Exn (Option β)}
    (hw : ∀ cell, CpuExecutor.Writes ⟨cell, body⟩ value) (scheduler : Scheduler) (threads : UInt32)
    (start : β) :
    CpuExecutor.parallelFor scheduler threads (makeValidCloud s).storageIndices.length
        ⟨fun k => (makeValidCloud s).storageIndices.getD k 0, body⟩
        (List.replicate s.storageSize start) =
      if threads = 0 then .error (.invalidArgument "thread budget must be positive")
      else ((List.range (makeValidCloud s).storageIndices.length).mapM value).map fun values =>
        scatter (List.replicate s.storageSize start)
          (writesAt (makeValidCloud s).storageIndices values) := by
  have hs := h.makeValidCloud_indices
  have hn : (makeValidCloud s).storageIndices.Nodup := hs ▸ h.nodup.filter _
  have hlt : ∀ i ∈ (makeValidCloud s).storageIndices,
      i < (List.replicate s.storageSize start).length := by
    intro i hi
    rw [hs] at hi
    simpa using h.lt (List.mem_of_mem_filter hi)
  exact CpuExecutor.parallelFor_writes (hw _) hn hlt (fun k hk => by simp [hk]) scheduler threads

theorem SurfaceView.Shaped.parallelFor_workers {κ β : Type} [Inhabited κ] [Inhabited β]
    (h : s.Shaped) {body : ℕ → Code Unit κ β Exn Unit} {value : ℕ → Except Exn (Option β)}
    (hw : ∀ cell, CpuExecutor.Writes ⟨cell, body⟩ value) (scheduler scheduler' : Scheduler)
    {threads threads' : UInt32} (hthreads : threads = 0 ↔ threads' = 0) (start : β) :
    CpuExecutor.parallelFor scheduler threads (makeValidCloud s).storageIndices.length
        ⟨fun k => (makeValidCloud s).storageIndices.getD k 0, body⟩
        (List.replicate s.storageSize start) =
      CpuExecutor.parallelFor scheduler' threads' (makeValidCloud s).storageIndices.length
        ⟨fun k => (makeValidCloud s).storageIndices.getD k 0, body⟩
        (List.replicate s.storageSize start) := by
  rw [h.parallelFor_eq hw, h.parallelFor_eq hw]
  simp only [hthreads]

/-- Loops that write the same values at the valid samples of corresponding surfaces. -/
theorem Corresponds.parallelFor_related {κ β : Type} [Inhabited κ] [Inhabited β]
    (h : Corresponds s t) {body body' : ℕ → Code Unit κ β Exn Unit}
    {value : ℕ → Except Exn (Option β)} (hw : ∀ cell, CpuExecutor.Writes ⟨cell, body⟩ value)
    (hw' : ∀ cell, CpuExecutor.Writes ⟨cell, body'⟩ value) (scheduler scheduler' : Scheduler)
    {threads threads' : UInt32} (hthreads : threads = 0 ↔ threads' = 0) (start : β) :
    Outcome (SlotsAgree s t)
      (CpuExecutor.parallelFor scheduler threads (makeValidCloud s).storageIndices.length
        ⟨fun k => (makeValidCloud s).storageIndices.getD k 0, body⟩
        (List.replicate s.storageSize start))
      (CpuExecutor.parallelFor scheduler' threads' (makeValidCloud t).storageIndices.length
        ⟨fun k => (makeValidCloud t).storageIndices.getD k 0, body'⟩
        (List.replicate t.storageSize start)) := by
  have hlength : (makeValidCloud s).storageIndices.length =
      (makeValidCloud t).storageIndices.length := by
    rw [← makeValidCloud_length, ← makeValidCloud_length, h.makeValidCloud_cloud]
  have hs := h.left.makeValidCloud_indices
  have ht := h.right.makeValidCloud_indices
  rw [h.left.parallelFor_eq hw, h.right.parallelFor_eq hw', ← hlength]
  simp only [hthreads]
  split_ifs
  · exact .error _
  · cases hvalues : (List.range (makeValidCloud s).storageIndices.length).mapM value with
    | error e => exact .error e
    | ok values =>
      have hvlen := (mapM_ok_iff.mp hvalues).length_eq
      rw [List.length_range] at hvlen
      refine .ok ?_
      rw [hs, ht]
      exact (SlotsAgree.replicate h start).scatter_filter h h.valid (by rw [← hvlen, hs])

theorem estimateNormals_related (h : Corresponds s t) (host : Host F D)
    (scheduler scheduler' : Scheduler) (radius : D) (minimumNeighbors : UInt32)
    {threads threads' : UInt32} (hthreads : threads = 0 ↔ threads' = 0) :
    Outcome (fun a b => SlotsAgree s t a.normals b.normals ∧ SlotsAgree s t a.valid b.valid)
      (estimateNormals host scheduler s radius minimumNeighbors threads)
      (estimateNormals host scheduler' t radius minimumNeighbors threads') := by
  unfold estimateNormals
  dsimp only
  rw [← h.makeValidCloud_cloud]
  split_ifs
  · exact .ok ⟨(SlotsAgree.replicate h (default, 0)).map Prod.fst,
      (SlotsAgree.replicate h (default, 0)).map Prod.snd⟩
  · refine Outcome.mapError _ (Outcome.map (h.parallelFor_related
      (fun cell => estimateNormalsCode_writes cell host.pcl _ radius minimumNeighbors)
      (fun cell => estimateNormalsCode_writes cell host.pcl _ radius minimumNeighbors)
      scheduler scheduler' hthreads (default, 0)) ?_)
    exact fun l m hlm => ⟨hlm.map Prod.fst, hlm.map Prod.snd⟩

theorem detectUnorganizedBoundaries_related (h : Corresponds s t) (host : Host F D)
    (scheduler scheduler' : Scheduler) (radius : D) {threads threads' : UInt32}
    (hthreads : threads = 0 ↔ threads' = 0) :
    Outcome (SlotsAgree s t) (detectUnorganizedBoundaries host scheduler s radius threads)
      (detectUnorganizedBoundaries host scheduler' t radius threads') := by
  have hnormals : (makeValidCloud s).storageIndices.map (fun i => s.normals.getD i default) =
      (makeValidCloud t).storageIndices.map fun i => t.normals.getD i default := by
    rw [h.left.makeValidCloud_indices, h.right.makeValidCloud_indices]
    exact h.matching.filter_map h.valid fun i j hp hv => by rw [h.normals.getD hp hv]
  unfold detectUnorganizedBoundaries
  dsimp only
  rw [← h.makeValidCloud_cloud, ← hnormals]
  split_ifs
  · exact .ok (.replicate h 0)
  · exact Outcome.mapError _ (h.parallelFor_related
      (fun cell => detectBoundariesCode_writes cell host.pcl _ _ radius)
      (fun cell => detectBoundariesCode_writes cell host.pcl _ _ radius) scheduler scheduler'
      hthreads 0)

theorem estimateNormals_workers (h : s.Shaped) (host : Host F D) (scheduler scheduler' : Scheduler)
    (radius : D) (minimumNeighbors : UInt32) {threads threads' : UInt32}
    (hthreads : threads = 0 ↔ threads' = 0) :
    estimateNormals host scheduler s radius minimumNeighbors threads =
      estimateNormals host scheduler' s radius minimumNeighbors threads' := by
  unfold estimateNormals
  dsimp only
  rw [h.parallelFor_workers (fun cell => estimateNormalsCode_writes cell host.pcl _ radius
    minimumNeighbors) scheduler scheduler' hthreads]

theorem detectUnorganizedBoundaries_workers (h : s.Shaped) (host : Host F D)
    (scheduler scheduler' : Scheduler) (radius : D) {threads threads' : UInt32}
    (hthreads : threads = 0 ↔ threads' = 0) :
    detectUnorganizedBoundaries host scheduler s radius threads =
      detectUnorganizedBoundaries host scheduler' s radius threads' := by
  unfold detectUnorganizedBoundaries
  dsimp only
  rw [h.parallelFor_workers (fun cell => detectBoundariesCode_writes cell host.pcl _ _ radius)
    scheduler scheduler' hthreads]

/-- What a loop over the valid samples leaves in each slot: its start, or a value of the loop. -/
theorem SurfaceView.Shaped.parallelFor_slot {κ β : Type} [Inhabited κ] [Inhabited β] (h : s.Shaped)
    {body : ℕ → Code Unit κ β Exn Unit} {value : ℕ → Except Exn (Option β)}
    (hw : ∀ cell, CpuExecutor.Writes ⟨cell, body⟩ value) {scheduler : Scheduler}
    {threads : UInt32} {start : β} {cells : List β}
    (hcells : CpuExecutor.parallelFor scheduler threads (makeValidCloud s).storageIndices.length
        ⟨fun k => (makeValidCloud s).storageIndices.getD k 0, body⟩
        (List.replicate s.storageSize start) = .ok cells) (w : ℕ) :
    cells.getD w start = start ∨ w ∈ s.indices ∧ s.isValidIndex w = true ∧
      ∃ k, value k = .ok (some (cells.getD w start)) := by
  have hs := h.makeValidCloud_indices
  have hn : (makeValidCloud s).storageIndices.Nodup := hs ▸ h.nodup.filter _
  rw [h.parallelFor_eq hw] at hcells
  split_ifs at hcells
  obtain ⟨values, hvalues, rfl⟩ := map_ok_iff.mp hcells
  by_cases hmem : w ∈ (makeValidCloud s).storageIndices
  · obtain ⟨hi, hvalid⟩ := List.mem_filter.mp (hs ▸ hmem)
    obtain ⟨k, hk, rfl⟩ := List.mem_iff_getElem.mp hmem
    have hforall := mapM_ok_iff.mp hvalues
    have hk' : k < values.length := by rwa [← hforall.length_eq, List.length_range]
    have hvalue := (List.forall₂_iff_get.mp hforall).2 k (by simpa using hk) hk'
    simp only [List.get_eq_getElem, List.getElem_range] at hvalue
    have hlt : (makeValidCloud s).storageIndices[k] <
        (List.replicate s.storageSize start).length := by
      rw [List.length_replicate]
      exact h.lt hi
    have hslot := getElem?_scatter_writesAt hn (List.getElem?_eq_getElem hk)
      (List.getElem?_eq_getElem hk') (List.getElem?_eq_getElem hlt)
    rw [List.getD_eq_getElem?_getD, hslot, Option.getD_some, List.getElem_replicate]
    cases hv : values[k] with
    | none => exact .inl rfl
    | some v => exact .inr ⟨hi, hvalid, k, by rw [hvalue, hv]; rfl⟩
  · left
    rw [List.getD_eq_getElem?_getD, getElem?_scatter_writesAt_of_not_mem hmem,
      List.getElem?_replicate]
    split_ifs <;> rfl

end PointcloudAd
