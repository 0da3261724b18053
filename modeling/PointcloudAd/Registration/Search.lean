import Mathlib.Data.List.Sort
import PointcloudAd.Core.Correspondence
import PointcloudAd.Library.Action
import PointcloudAd.Preprocess.Normalization
import PointcloudAd.Registration.CpuExecutor
import PointcloudAd.Registration.Kernels
import PointcloudAd.Registration.Parameters

/-!
# Correspondence search

The valid samples of a surface, the covariances of their neighbourhoods, and the nearest reference
point of every moved scan point. The searches run on the executor, over buffers that the context
reuses from call to call.
-/

namespace PointcloudAd.Registration

open Library

variable {F D : Type} [FloatArith F] [FloatArith D] [Floats F D]

variable (D) in
def extractValid (surface : SurfaceView F) : ValidatedCloud D :=
  let indices := surface.indices.filter surface.isValidIndex
  { points := indices.map fun index => (surface.points.getD index default).widen
    normals := if surface.normals = [] then []
      else indices.map fun index => normalized (surface.normals.getD index default).widen }

theorem extractValid_eq {s t : SurfaceView F} (h : Corresponds s t) :
    extractValid D s = extractValid D t := by
  have hpoints : (s.indices.filter s.isValidIndex).map
        (fun index => (s.points.getD index default).widen (D := D)) =
      (t.indices.filter t.isValidIndex).map
        fun index => (t.points.getD index default).widen :=
    h.matching.filter_map h.valid fun i j hp hv => by rw [h.points.getD hp hv]
  have hnormals : (s.indices.filter s.isValidIndex).map
        (fun index => normalized ((s.normals.getD index default).widen (D := D))) =
      (t.indices.filter t.isValidIndex).map
        fun index => normalized (t.normals.getD index default).widen :=
    h.matching.filter_map h.valid fun i j hp hv => by rw [h.normals.getD hp hv]
  unfold extractValid
  simp only [hpoints, hnormals, h.hasNormals]

/-- The cloud that the search tree is built over. -/
def searchPoints (cloud : ValidatedCloud D) : List (Vec3 F) := cloud.points.map Vec3.narrow

/-- The buffers of one worker. -/
structure QueryScratch (F : Type) where
  indices : List ℤ
  distances : List F
  ties : List ℤ
  tieDistances : List F

instance : Inhabited (QueryScratch F) := ⟨⟨[0], [0], [], []⟩⟩

/-- A radius just above a float distance, so that a search with it returns every near tie. -/
def tieRadius (squared : F) : D :=
  sqrt (widen squared) * (1 + lit (1 / 10 ^ 6)) + lit (1 / 10 ^ 6)

def mul3 (a b : Mat3 D) : Mat3 D := fun row col =>
  (a row 0 * b 0 col + a row 1 * b 1 col) + a row 2 * b 2 col

def transpose3 (a : Mat3 D) : Mat3 D := fun row col => a col row

def add3 (a b : Mat3 D) : Mat3 D := fun row col => a row col + b row col

def diagonal3 (entries : Fin 3 → D) : Mat3 D := fun row col =>
  if row = col then entries row else 0

def insufficientSupport : Exn :=
  .invalidArgument "GICP covariance neighborhood has insufficient support"

/-- The covariance of the neighbours of a point, regularized along its smallest axis. -/
def regularizedCovariance (eigen : Eigen D) (epsilon : D) (members : List (Vec3 D)) :
    Except Exn (Mat3 D) :=
  let count : D := lit members.length
  let sum := members.foldl (fun m p => (⟨m.x + p.x, m.y + p.y, m.z + p.z⟩ : Vec3 D)) ⟨0, 0, 0⟩
  let mean : Vec3 D := ⟨sum.x / count, sum.y / count, sum.z / count⟩
  let covariance := members.foldl (fun (c : Mat3 D) p =>
    let delta := sub p mean
    let entries : Fin 3 → D := ![delta.x, delta.y, delta.z]
    add3 c fun row col => entries row * entries col) fun _ _ => 0
  let decomposition := eigen.selfAdjoint covariance
  if ¬ decomposition.success ∨ (∃ axis, ¬ isFinite (decomposition.eigenvalues axis)) ∨
      decomposition.eigenvalues 1 ≤ lit (1 / 10 ^ 12) then
    .error (.invalidArgument "GICP covariance neighborhood is collinear or coincident")
  else
    let axes := decomposition.eigenvectors
    .ok (mul3 (mul3 axes (diagonal3 ![epsilon, 1, 1])) (transpose3 axes))

/-- Candidates by their distance from a point of the cloud, ties by index. -/
def sortTies (cloud : ValidatedCloud D) (pointIndex : ℕ) (ties : List ℤ) : List ℤ :=
  let distance (index : ℤ) : D :=
    let delta := sub (cloud.points.getD index.toNat default) (cloud.points.getD pointIndex default)
    dot delta delta
  let before (left right : ℤ) : Prop :=
    distance left < distance right ∨ (equal (distance left) (distance right) ∧ left < right)
  ties.insertionSort fun left right => ¬ before right left

/-- The covariance of one point, search by search; the results of the searches are in the scratch.
-/
def covarianceCode (pcl : Pcl F D) (eigen : Eigen D) (cloud : ValidatedCloud D)
    (parameters : RegistrationParameters D) (pointIndex : ℕ) :
    Code Unit (QueryScratch F) (Mat3 D) Exn Unit := do
  let points : List (Vec3 F) := searchPoints cloud
  let point := points.getD pointIndex default
  let neighbors := parameters.covarianceNeighbors.toNat
  let found ← Code.lift (pcl.nearestKSearch points point neighbors)
  Code.setScratch fun scratch => { scratch with indices := found.map Prod.fst }
  Code.setScratch fun scratch => { scratch with distances := found.map Prod.snd }
  if found.length < neighbors then Code.throw insufficientSupport
  else
    let nearest ← Code.scratch
    let near ← Code.lift (pcl.radiusSearch points point (tieRadius (nearest.distances.getLastD 0)))
    Code.setScratch fun scratch => { scratch with ties := near.map Prod.fst }
    Code.setScratch fun scratch => { scratch with tieDistances := near.map Prod.snd }
    Code.setScratch fun scratch => { scratch with ties := sortTies cloud pointIndex scratch.ties }
    let sorted ← Code.scratch
    if sorted.ties.length < neighbors then Code.throw insufficientSupport
    else
      Code.setScratch fun scratch => { scratch with indices := scratch.ties.take neighbors }
      Code.setScratch fun scratch =>
        { scratch with indices := scratch.indices.insertionSort (· ≤ ·) }
      let members ← Code.scratch
      let covariance ← Code.lift (regularizedCovariance eigen parameters.covarianceEpsilon
        (members.indices.map fun index => cloud.points.getD index.toNat default))
      Code.store () fun _ => covariance

def covarianceJob (pcl : Pcl F D) (eigen : Eigen D) (cloud : ValidatedCloud D)
    (parameters : RegistrationParameters D) : Job (QueryScratch F) (Mat3 D) Exn where
  cell i := i
  body := covarianceCode pcl eigen cloud parameters

instance : Inhabited (Mat3 D) := ⟨fun _ _ => 0⟩

/-- The covariances of a cloud, and what the run leaves in the executor. -/
def estimateCovariances (pcl : Pcl F D) (eigen : Eigen D) (cloud : ValidatedCloud D)
    (parameters : RegistrationParameters D) (executor : CpuExecutor) (scheduler : Scheduler)
    (state : ExecutorState) : Except Exn (List (Mat3 D)) × ExecutorState :=
  if cloud.points.length < parameters.covarianceNeighbors.toNat then
    (.error (.invalidArgument "GICP requires at least covariance_neighbors valid points per cloud"),
      state)
  else
    let ran := executor.run scheduler state cloud.points.length
      (covarianceJob pcl eigen cloud parameters)
      (List.replicate cloud.points.length default)
      (List.replicate executor.concurrency default)
    match ran.thrown with
    | some e => (.error e, ran.state)
    | none => (.ok ran.cells, ran.state)

/-- The mutable members of a prepared registration. -/
structure Buffers (F D : Type) where
  transformed : List (Vec3 D)
  reduction : List (Equations D)
  packed : List (Vec3 F)
  result : List ℤ
  scratch : List (QueryScratch F)
  executor : ExecutorState

/-- Packs points up to the first that is out of range. -/
def packPoints : List (Vec3 D) → List (Vec3 F) × Option Exn
  | [] => ([], none)
  | p :: rest =>
    let q : Vec3 F := p.narrow
    if ¬ q.finite then
      ([], some (.invalidArgument "transformed coordinate exceeds search precision range"))
    else
      let (packed, thrown) := packPoints rest
      (q :: packed, thrown)

/-- Squared distance of a packed point from a point of the search cloud, in double precision. -/
def squaredDistance (q p : Vec3 F) : D :=
  let dx : D := widen q.x - widen p.x
  let dy : D := widen q.y - widen p.y
  let dz : D := widen q.z - widen p.z
  dx * dx + dy * dy + dz * dz

/-- Keeps the nearer of the best point so far and a candidate, the lower index on ties. -/
def keepNearest (points : List (Vec3 F)) (q : Vec3 F) (best : D × ℤ) (candidate : ℤ) : D × ℤ :=
  let d : D := squaredDistance q (points.getD candidate.toNat default)
  if d < best.1 ∨ (equal d best.1 ∧ (best.2 < 0 ∨ candidate < best.2)) then (d, candidate)
  else best

/-- One pass of the loop over the candidates, of which the best distance is a local value. -/
def queryCandidate (points : List (Vec3 F)) (q : Vec3 F) (best : D) (k : ℕ) :
    Code Unit (QueryScratch F) ℤ Exn D := do
  let scratch ← Code.scratch
  let candidate := scratch.ties.getD k 0
  let d : D := squaredDistance q (points.getD candidate.toNat default)
  let kept ← Code.load ()
  if d < best ∨ (equal d best ∧ (kept < 0 ∨ candidate < kept)) then
    Code.store () fun _ => candidate
    return d
  else return best

/-- The query of one packed point: its cell holds -1 until a candidate is kept. -/
def queryCode (pcl : Pcl F D) (points packed : List (Vec3 F)) (bound : D) (i : ℕ) :
    Code Unit (QueryScratch F) ℤ Exn Unit := do
  let q := packed.getD i default
  let found ← Code.lift (pcl.nearestKSearch points q 1)
  Code.setScratch fun scratch => { scratch with indices := found.map Prod.fst }
  Code.setScratch fun scratch => { scratch with distances := found.map Prod.snd }
  if found.length = 0 then pure ()
  else
    let nearest ← Code.scratch
    let near ← Code.lift (pcl.radiusSearch points q (tieRadius (nearest.distances.getD 0 0)))
    Code.setScratch fun scratch => { scratch with ties := near.map Prod.fst }
    Code.setScratch fun scratch => { scratch with tieDistances := near.map Prod.snd }
    let candidates ← Code.scratch
    let _ ← (List.range candidates.ties.length).foldlM (queryCandidate points q) (bound * bound)

def queryJob (pcl : Pcl F D) (points packed : List (Vec3 F)) (bound : D) :
    Job (QueryScratch F) ℤ Exn where
  cell i := i
  body := queryCode pcl points packed bound

/-- `Search::query` on the processor. -/
def query (pcl : Pcl F D) (points : List (Vec3 F)) (executor : CpuExecutor)
    (scheduler : Scheduler) (transformed : List (Vec3 D)) (bound : D) :
    Action (Buffers F D) (Equations D) Exn (List ℤ) := fun buffers =>
  match packPoints transformed with
  | (packed, some e) => (.error e, { buffers with packed := packed }, [])
  | (packed, none) =>
    let ran := executor.run scheduler buffers.executor packed.length
      (queryJob pcl points packed bound) (List.replicate packed.length (-1)) buffers.scratch
    let buffers := { buffers with
      packed := packed
      result := ran.cells
      scratch := ran.scratch
      executor := ran.state }
    match ran.thrown with
    | some e => (.error e, buffers, [])
    | none => (.ok ran.cells, buffers, [])

/-- Each block transforms its own points with one kernel call. -/
def transformJob (kernel : CpuKernel) (cloud : List (Vec3 D)) (transform : Matrix4 D) :
    Job Unit (Vec3 D) Exn where
  cell i := i
  body i :=
    let first := i / CpuExecutor.blockSize * CpuExecutor.blockSize
    let input := (cloud.drop first).take CpuExecutor.blockSize
    Code.store () fun cell => (transformKernel kernel transform input).getD (i - first) cell

/-- The buffer is resized, so a shorter scan finds the points of a longer one in it. -/
def resize {α : Type} (cells : List α) (size : ℕ) (fill : α) : List α :=
  cells.take size ++ List.replicate (size - cells.length) fill

def transformPoints (kernel : CpuKernel) (executor : CpuExecutor) (scheduler : Scheduler)
    (cloud : ValidatedCloud D) (transform : Matrix4 D) :
    Action (Buffers F D) (Equations D) Exn (List (Vec3 D)) := fun buffers =>
  let ran := executor.run scheduler buffers.executor cloud.points.length
    (transformJob kernel cloud.points transform)
    (resize buffers.transformed cloud.points.length default) [()]
  let buffers := { buffers with transformed := ran.cells, executor := ran.state }
  match ran.thrown with
  | some e => (.error e, buffers, [])
  | none => (.ok ran.cells, buffers, [])

/-- The covariance of one point. -/
def covarianceAt (pcl : Pcl F D) (eigen : Eigen D) (cloud : ValidatedCloud D)
    (parameters : RegistrationParameters D) (pointIndex : ℕ) : Except Exn (Mat3 D) := do
  let points : List (Vec3 F) := searchPoints cloud
  let point := points.getD pointIndex default
  let neighbors := parameters.covarianceNeighbors.toNat
  let found ← pcl.nearestKSearch points point neighbors
  if found.length < neighbors then .error insufficientSupport
  else
    let near ← pcl.radiusSearch points point (tieRadius ((found.map Prod.snd).getLastD 0))
    let ties := sortTies cloud pointIndex (near.map Prod.fst)
    if ties.length < neighbors then .error insufficientSupport
    else
      let members := ((ties.take neighbors).insertionSort (· ≤ ·)).map fun index =>
        cloud.points.getD index.toNat default
      regularizedCovariance eigen parameters.covarianceEpsilon members

theorem covarianceJob_writes (pcl : Pcl F D) (eigen : Eigen D) (cloud : ValidatedCloud D)
    (parameters : RegistrationParameters D) :
    CpuExecutor.Writes (covarianceJob pcl eigen cloud parameters)
      fun i => (covarianceAt pcl eigen cloud parameters i).map some := by
  constructor
  intro i k c
  simp only [Job.step, covarianceJob, covarianceCode, covarianceAt, Code.run_bind, Code.run_lift]
  cases pcl.nearestKSearch (searchPoints cloud) ((searchPoints cloud).getD i default)
      parameters.covarianceNeighbors.toNat with
  | error e => rfl
  | ok found =>
    simp only [ok_bind, Code.run_setScratch]
    split_ifs
    · rfl
    · simp only [Code.run_bind, Code.run_scratch, Code.run_lift]
      cases pcl.radiusSearch (searchPoints cloud) ((searchPoints cloud).getD i default)
          (tieRadius ((found.map Prod.snd).getLastD 0)) with
      | error e => rfl
      | ok near =>
        simp only [ok_bind, Code.run_setScratch]
        split_ifs
        · rfl
        · simp only [Code.run_bind, Code.run_setScratch, Code.run_scratch, Code.run_lift]
          cases regularizedCovariance eigen parameters.covarianceEpsilon
            ((((sortTies cloud i (near.map Prod.fst)).take
              parameters.covarianceNeighbors.toNat).insertionSort (· ≤ ·)).map
                fun index => cloud.points.getD index.toNat default) <;> rfl

/-- The answer to one query, from what its cell holds. -/
def queryAt (pcl : Pcl F D) (points packed : List (Vec3 F)) (bound : D) (i : ℕ) (cell : ℤ) :
    Except Exn ℤ := do
  let q := packed.getD i default
  let found ← pcl.nearestKSearch points q 1
  if found.length = 0 then return cell
  else
    let near ← pcl.radiusSearch points q (tieRadius ((found.map Prod.snd).getD 0 0))
    return ((near.map Prod.fst).foldl (keepNearest points q) (bound * bound, cell)).2

theorem run_queryCandidate (points : List (Vec3 F)) (q : Vec3 F) (scratch : QueryScratch F)
    (best : D) (k : ℕ) (cell : ℤ) :
    (queryCandidate points q best k : Code Unit (QueryScratch F) ℤ Exn D).run (.one ℤ) scratch
        cell =
      (scratch, (keepNearest points q (best, cell) (scratch.ties.getD k 0)).2,
        .ok (keepNearest points q (best, cell) (scratch.ties.getD k 0)).1) := by
  simp only [queryCandidate, keepNearest, Code.run_bind, Code.run_scratch, Code.run_load, Cells.one]
  split_ifs <;> rfl

theorem run_candidates (points : List (Vec3 F)) (q : Vec3 F) (scratch : QueryScratch F) (best : D)
    (cell : ℤ) :
    ((List.range scratch.ties.length).foldlM (queryCandidate points q) best).run (.one ℤ) scratch
        cell =
      (scratch, (scratch.ties.foldl (keepNearest points q) (best, cell)).2,
        .ok (scratch.ties.foldl (keepNearest points q) (best, cell)).1) := by
  have hloop := Code.run_foldlM (.one ℤ) scratch
    (g := fun best k => keepNearest points q best (scratch.ties.getD k 0))
    (fun best k cell => run_queryCandidate points q scratch best k cell)
    (List.range scratch.ties.length) best cell
  rwa [foldl_range_getD scratch.ties 0 (keepNearest points q)] at hloop

theorem queryJob_step (pcl : Pcl F D) (points packed : List (Vec3 F)) (bound : D) (i : ℕ)
    (k : QueryScratch F) (c : ℤ) :
    ((queryJob pcl points packed bound).step i k c).2 =
      match queryAt pcl points packed bound i c with
      | .error e => (c, some e)
      | .ok answer => (answer, none) := by
  simp only [Job.step, queryJob, queryCode, queryAt, Code.run_bind, Code.run_lift]
  cases pcl.nearestKSearch points (packed.getD i default) 1 with
  | error e => rfl
  | ok found =>
    simp only [ok_bind, Code.run_setScratch]
    split_ifs
    · rfl
    · simp only [Code.run_bind, Code.run_scratch, Code.run_lift]
      cases pcl.radiusSearch points (packed.getD i default)
          (tieRadius ((found.map Prod.snd).getD 0 0)) with
      | error e => rfl
      | ok near =>
        simp only [ok_bind, Code.run_setScratch]
        rw [run_candidates points (packed.getD i default)
          ⟨found.map Prod.fst, found.map Prod.snd, near.map Prod.fst, near.map Prod.snd⟩]
        rfl

theorem queryJob_scratchFree (pcl : Pcl F D) (points packed : List (Vec3 F)) (bound : D) :
    (queryJob pcl points packed bound).ScratchFree := by
  intro i k k' c
  rw [queryJob_step, queryJob_step]

theorem disjoint_of_cell {κ β : Type} {job : Job κ β Exn} (h : job.cell = fun i => i)
    (points : ℕ) : job.Disjoint CpuExecutor.blockSize points := by
  intro i _ j _ he
  rw [h] at he
  rw [show i = j from he]

/-- Covariances do not show the workers, their schedule or earlier runs. -/
theorem estimateCovariances_independent (pcl : Pcl F D) (eigen : Eigen D)
    (cloud : ValidatedCloud D) {parameters parameters' : RegistrationParameters D}
    (hn : parameters.covarianceNeighbors = parameters'.covarianceNeighbors)
    (he : parameters.covarianceEpsilon = parameters'.covarianceEpsilon)
    (executor executor' : CpuExecutor) (scheduler scheduler' : Scheduler)
    (state state' : ExecutorState) :
    (estimateCovariances pcl eigen cloud parameters executor scheduler state).1 =
      (estimateCovariances pcl eigen cloud parameters' executor' scheduler' state').1 := by
  have hjob : covarianceJob pcl eigen cloud parameters =
      covarianceJob pcl eigen cloud parameters' := by
    unfold covarianceJob covarianceCode
    simp only [hn, he]
  have hrange : ∀ i < cloud.points.length, (covarianceJob pcl eigen cloud parameters).cell i <
      (List.replicate cloud.points.length (default : Mat3 D)).length := by
    intro i hi
    rwa [List.length_replicate]
  obtain ⟨ht, hc⟩ := CpuExecutor.run_independent
    (covarianceJob_writes pcl eigen cloud parameters).scratchFree
    (disjoint_of_cell rfl cloud.points.length) executor executor' scheduler scheduler' state state'
    hrange
    (List.replicate executor.concurrency default) (List.replicate executor'.concurrency default)
  unfold estimateCovariances
  rw [hn]
  split_ifs
  · rfl
  · dsimp only
    rw [← hjob, ← hc, ← ht]
    cases (executor.run scheduler state cloud.points.length
      (covarianceJob pcl eigen cloud parameters) (List.replicate cloud.points.length default)
      (List.replicate executor.concurrency default)).thrown <;> rfl

theorem query_related (pcl : Pcl F D) (points : List (Vec3 F)) (executor executor' : CpuExecutor)
    (scheduler scheduler' : Scheduler) (transformed : List (Vec3 D)) (bound : D) :
    Action.Related Eq (query pcl points executor scheduler transformed bound)
      (query pcl points executor' scheduler' transformed bound) := by
  have hboth : ∀ s s', (query pcl points executor scheduler transformed bound s).1 =
      (query pcl points executor' scheduler' transformed bound s').1 ∧
      (query pcl points executor scheduler transformed bound s).2.2 =
        (query pcl points executor' scheduler' transformed bound s').2.2 := by
    intro s s'
    unfold query
    rcases packPoints transformed with ⟨packed, thrown⟩
    cases thrown with
    | some e => exact ⟨rfl, rfl⟩
    | none =>
      have hrange : ∀ i < packed.length, (queryJob pcl points packed bound).cell i <
          (List.replicate packed.length (-1 : ℤ)).length := by
        intro i hi
        rwa [List.length_replicate]
      obtain ⟨ht, hc⟩ := CpuExecutor.run_independent
        (queryJob_scratchFree pcl points packed bound) (disjoint_of_cell rfl packed.length)
        executor executor' scheduler scheduler' s.executor s'.executor hrange s.scratch s'.scratch
      dsimp only
      rw [ht, hc]
      cases (executor'.run scheduler' s'.executor packed.length (queryJob pcl points packed bound)
        (List.replicate packed.length (-1)) s'.scratch).thrown <;> exact ⟨rfl, rfl⟩
  exact .of_eq hboth

/-- When no search fails, every query is answered in its place. -/
theorem query_eq {pcl : Pcl F D} {points packed : List (Vec3 F)} {transformed : List (Vec3 D)}
    {bound : D} (hpacked : packPoints transformed = (packed, none)) {answer : ℕ → ℤ}
    (hanswer : ∀ i < packed.length, queryAt pcl points packed bound i (-1) = .ok (answer i))
    (executor : CpuExecutor) (scheduler : Scheduler) (buffers : Buffers F D) :
    (query pcl points executor scheduler transformed bound).outcome buffers =
      .ok ((List.range packed.length).map answer) := by
  have hvalue : ∀ i < (List.replicate packed.length (-1 : ℤ)).length,
      (queryJob pcl points packed bound).result (List.replicate packed.length (-1)) i =
        (answer i, none) := by
    intro i hi
    rw [List.length_replicate] at hi
    have hcell : (List.replicate packed.length (-1 : ℤ)).getD i default = -1 := by
      simp [List.getD_eq_getElem?_getD, hi]
    rw [Job.result, queryJob_step, show (queryJob pcl points packed bound).cell i = i from rfl,
      hcell, hanswer i hi]
  obtain ⟨ht, hc⟩ := CpuExecutor.run_map (queryJob_scratchFree pcl points packed bound) rfl hvalue
    executor scheduler buffers.executor buffers.scratch
  rw [List.length_replicate] at ht hc
  unfold Action.outcome query
  rw [hpacked]
  dsimp only
  rw [ht, hc]

@[simp] theorem length_resize {α : Type} (cells : List α) (size : ℕ) (fill : α) :
    (resize cells size fill).length = size := by
  simp [resize]
  omega

omit [FloatArith F] [Floats F D] in
/-- Every point is written before the buffer is read, whatever an earlier scan left in it. -/
theorem transformPoints_eq (kernel : CpuKernel) (executor : CpuExecutor) (scheduler : Scheduler)
    (cloud : ValidatedCloud D) (transform : Matrix4 D) (buffers : Buffers F D) :
    (transformPoints kernel executor scheduler cloud transform).outcome buffers =
        .ok (cloud.points.map (transformPoint transform)) ∧
      (transformPoints kernel executor scheduler cloud transform).log buffers = [] := by
  set start := resize buffers.transformed cloud.points.length default with hstart
  have hlength : start.length = cloud.points.length := length_resize ..
  have hvalue : ∀ i < start.length, (transformJob kernel cloud.points transform).result start i =
      (transformPoint transform (cloud.points.getD i default), none) := by
    intro i hi
    rw [hlength] at hi
    have hsub : i / CpuExecutor.blockSize * CpuExecutor.blockSize ≤ i := Nat.div_mul_le_self _ _
    have hlt : i - i / CpuExecutor.blockSize * CpuExecutor.blockSize < CpuExecutor.blockSize := by
      have := Nat.mod_lt i (y := CpuExecutor.blockSize) (by decide)
      rw [Nat.mod_eq_sub_div_mul] at this
      exact this
    simp only [Job.result, Job.step, transformJob, Code.run_store, Cells.one, errorOf,
      transformKernel_eq, List.getD_eq_getElem?_getD, List.getElem?_map, List.getElem?_take,
      List.getElem?_drop, hlt, if_true, Nat.add_sub_cancel' hsub, List.getElem?_eq_getElem hi,
      Option.map_some, Option.getD_some]
  obtain ⟨ht, hc⟩ := CpuExecutor.run_map (fun _ _ _ _ => rfl) rfl hvalue executor scheduler
    buffers.executor [()]
  rw [hlength] at ht hc
  rw [map_range_getD] at hc
  unfold Action.outcome Action.log transformPoints
  dsimp only
  rw [← hstart, ht, hc]
  exact ⟨rfl, rfl⟩

end PointcloudAd.Registration
