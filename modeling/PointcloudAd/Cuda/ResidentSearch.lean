import PointcloudAd.Core.Surface
import PointcloudAd.Library.Faulty

/-!
# The resident search

A search object of the device keeps the reference, an uploaded scan and covariances between calls.
A call is a sequence of checks, device calls and updates of members; any device call may fail, and
leaves the members as they are. What a copy or a kernel writes is known once the stream has been
synchronized.
-/

namespace PointcloudAd

open Library

inductive SearchStrategy where
  | indexed | tiled
  deriving DecidableEq, Repr

/-- A row-major 3x3 matrix. -/
abbrev Covariance (D : Type) : Type := Fin 9 → D

/-- A device pointer and what its array holds, as far as it is known. -/
inductive DeviceArray (α : Type) where
  | null
  | allocated (contents : Option α)
  deriving DecidableEq

def DeviceArray.isNull {α : Type} : DeviceArray α → Bool
  | .null => true
  | .allocated _ => false

@[simp] theorem DeviceArray.isNull_null {α : Type} : (null : DeviceArray α).isNull = true := rfl

@[simp] theorem DeviceArray.isNull_allocated {α : Type} (contents : Option α) :
    (allocated contents).isNull = false := rfl

instance neZero_fortyFive : NeZero 45 := ⟨by decide⟩

/-- The members of a search but for the search of its scan. An array that only carries values from
one kernel to the next is a flag: whether it is allocated. -/
structure SearchMembers (F D : Type) where
  strategy : SearchStrategy
  reference : List (Vec3 F)
  capacity : ℕ
  device : ℤ
  resident : Bool := false
  originalReference : Bool := false
  referenceNormals : DeviceArray (List (Vec3 D)) := .null
  scan : DeviceArray (List (Vec3 D)) := .null
  scanNormals : DeviceArray (List (Vec3 D)) := .null
  transformed : Bool := false
  equations : Bool := false
  equation : Bool := false
  scanCount : ℕ := 0
  hasScanNormals : Bool := false
  knnIndices : Bool := false
  knnDistances : Bool := false
  knnCapacity : UInt32 := 0
  covariances : DeviceArray (List (Covariance D)) := .null
  invalidCovariance : Bool := false
  covarianceNeighbors : UInt32 := 0
  covarianceEpsilon : D

/-- `CorrespondenceSearch::Impl`. A search of a scan has no scan of its own. -/
structure Search (F D : Type) extends SearchMembers F D where
  scanSearch : Option (SearchMembers F D) := none

structure EvaluateArguments (D : Type) where
  matrix : Fin 16 → D
  radius : D
  huber : D
  plane : Bool
  finalMetrics : Bool

/-- What the kernels of an evaluation are launched with. -/
structure Launch (D : Type) where
  points : DeviceArray (List (Vec3 D))
  count : ℕ
  normals : DeviceArray (List (Vec3 D))
  referenceNormals : DeviceArray (List (Vec3 D))
  referenceCovariances : DeviceArray (List (Covariance D))
  scanCovariances : DeviceArray (List (Covariance D))
  arguments : EvaluateArguments D

/-- What the kernels compute: the nearest neighbours of some queries, the covariances of some
points unless a neighbourhood is degenerate, and the 45 values of an evaluation. -/
structure CudaKernels (F D : Type) where
  nearest : SearchStrategy → List (Vec3 F) → List (Vec3 F) → D → List ℤ
  covariances : List (Vec3 F) → UInt32 → D → Option (List (Covariance D))
  equation : List (Vec3 F) → Launch D → Fin 45 → D

/-- A device call, and what its success does to the members of an object. -/
abbrev DeviceStep (σ : Type) : Type := String × (σ → σ)

/-- An object, the replies of the device calls to come (a success, or the text of a failure; all
further calls succeed), and the launches so far. -/
structure DeviceState (D σ : Type) where
  object : σ
  replies : List (Option String)
  launches : List (Launch D)

abbrev Cuda (D σ : Type) : Type → Type := Faulty Exn (DeviceState D σ)

section

variable {D σ τ : Type}

def readObject : Cuda D σ σ := DeviceState.object <$> get

def updateObject (f : σ → σ) : Cuda D σ Unit := modify fun s => { s with object := f s.object }

/-- `checked`: a device call, whose failure is thrown. -/
def deviceCall (operation : String) : Cuda D σ Unit := do
  let s ← get
  set { s with replies := s.replies.tail }
  match s.replies.head?.join with
  | none => return ()
  | some reason => throw (.exception (operation ++ ": " ++ reason))

/-- Device calls in their order, each with what its success does to the members. -/
def deviceCalls (calls : List (DeviceStep σ)) : Cuda D σ Unit :=
  forM calls fun (operation, update) => do
    deviceCall operation
    updateObject update

def recordLaunch (launch : Launch D) : Cuda D σ Unit :=
  modify fun s => { s with launches := s.launches ++ [launch] }

/-- Calls of a local object, which is lost with an exception. -/
def withObject (object : τ) (m : Cuda D τ Unit) : Cuda D σ τ := fun s =>
  let ended := Faulty.outcome m ⟨object, s.replies, s.launches⟩
  (ended.1.map fun _ => ended.2.object,
    { s with replies := ended.2.replies, launches := ended.2.launches })

end

section

variable {F D : Type}

/-- A call that leaves the search of the scan alone. -/
def onMembers {α : Type} (m : Cuda D (SearchMembers F D) α) : Cuda D (Search F D) α := fun s =>
  let ended := Faulty.outcome m ⟨s.object.toSearchMembers, s.replies, s.launches⟩
  (ended.1, ⟨{ s.object with toSearchMembers := ended.2.object }, ended.2.replies,
    ended.2.launches⟩)

end

section

variable {F D : Type} [FloatArith F] [FloatArith D] [Floats F D]

open Faulty (require)

def constructorCalls (strategy : SearchStrategy) : List String :=
  ["cudaGetDevice", "cudaStreamCreate", "reference allocation", "query allocation",
    "index allocation", "reference upload"] ++
  (if strategy = .indexed then
    ["node allocation", "original index allocation", "node upload", "original index upload"]
  else []) ++
  ["reference synchronization"]

/-- A new search. -/
def SearchMembers.created (strategy : SearchStrategy) (reference : List (Vec3 F)) (capacity : ℕ)
    (device : ℤ) : SearchMembers F D :=
  { strategy, reference, capacity, device, covarianceEpsilon := 0 }

/-- The constructor. -/
def createSearch {σ : Type} (current : ℤ) (reference : List (Vec3 F)) (queryCapacity : ℕ)
    (strategy : SearchStrategy) : Cuda D σ (SearchMembers F D) := do
  require (reference ≠ [] ∧ queryCapacity ≠ 0 ∧ reference.length ≤ 2 ^ 31 - 1 ∧
    queryCapacity ≤ 2 ^ 31 - 1) (.exception "CUDA correspondence size is unsupported")
  require (∀ point ∈ reference, point.finite)
    (.invalidArgument "CUDA reference coordinates must be finite")
  forM (constructorCalls strategy) deviceCall
  return .created strategy reference queryCapacity current

def queryInto (kernels : CudaKernels F D) (current : ℤ) (points : List (Vec3 F))
    (maxDistanceMm : D) : Cuda D (Search F D) (List ℤ) := do
  let impl ← readObject
  require (points.length ≤ impl.capacity) (.exception "CUDA query capacity exceeded")
  require (isFinite maxDistanceMm ∧ ¬ maxDistanceMm < 0)
    (.invalidArgument "CUDA query radius must be finite and nonnegative")
  require (∀ point ∈ points, point.finite)
    (.invalidArgument "CUDA query coordinates must be finite")
  deviceCall "cudaGetDevice"
  require (current = impl.device) (.exception "CUDA device changed during registration")
  if points = [] then return []
  else
    forM ["query upload", "nearest kernel launch", "index download",
      "nearest kernel completion"] deviceCall
    return kernels.nearest impl.strategy impl.reference points (maxDistanceMm * maxDistanceMm)

def residentSteps (strategy : SearchStrategy) (normals : List (Vec3 D)) :
    List (DeviceStep (SearchMembers F D)) :=
  [("original reference allocation", fun impl => { impl with originalReference := true }),
    (if strategy = .indexed then "original order launch" else "original reference copy", id)] ++
  (if normals = [] then []
  else
    [("reference normals allocation",
      fun impl => { impl with referenceNormals := .allocated none }),
      ("reference normals upload", id)]) ++
  [("scan allocation", fun impl => { impl with scan := .allocated none }),
    ("scan normal allocation", fun impl => { impl with scanNormals := .allocated none }),
    ("transform allocation", fun impl => { impl with transformed := true }),
    ("equation blocks allocation", fun impl => { impl with equations := true }),
    ("equation allocation", fun impl => { impl with equation := true }),
    ("resident preparation", fun impl =>
      { impl with
        referenceNormals := if normals = [] then .null else .allocated (some normals) })]

def prepareResident (normals : List (Vec3 D)) : Cuda D (SearchMembers F D) Unit := do
  let impl ← readObject
  require (¬ impl.resident ∧ impl.scan.isNull ∧ impl.referenceNormals.isNull ∧
    ¬ impl.originalReference) (.invalidArgument "resident workspace already prepared")
  require (normals = [] ∨ normals.length = impl.reference.length)
    (.invalidArgument "reference normal size mismatch")
  deviceCalls (residentSteps impl.strategy normals)
  updateObject fun impl => { impl with resident := true }

def prepareKnn (k : UInt32) : Cuda D (SearchMembers F D) Unit := do
  let impl ← readObject
  require (impl.resident ∧ impl.strategy = .indexed ∧ k ≠ 0 ∧ k ≤ 1024 ∧
    k.toNat ≤ impl.reference.length) (.invalidArgument "invalid KNN neighborhood")
  if k ≤ impl.knnCapacity then pure ()
  else
    deviceCalls
      [("KNN resize", fun impl => { impl with knnIndices := false }),
        ("KNN resize", fun impl => { impl with knnDistances := false, knnCapacity := 0 }),
        ("KNN indices allocation", fun impl => { impl with knnIndices := true }),
        ("KNN distance allocation", fun impl =>
          { impl with knnDistances := true, knnCapacity := k })]

def covarianceChunk : ℕ := 16384

def gicpSteps (impl : SearchMembers F D) : List (DeviceStep (SearchMembers F D)) :=
  (if impl.covariances.isNull then
    [("covariance allocation", fun impl => { impl with covariances := .allocated none })]
  else []) ++
  (if impl.invalidCovariance then []
  else [("covariance flag allocation", fun impl => { impl with invalidCovariance := true })]) ++
  [("covariance flag reset", fun impl => { impl with covariances := .allocated none })] ++
  (List.replicate ((impl.reference.length + covarianceChunk - 1) / covarianceChunk)
    [("covariance KNN launch", id), ("covariance launch", id)]).flatten ++
  [("covariance validity download", id), ("covariance completion", id)]

def prepareGicp (kernels : CudaKernels F D) (k : UInt32) (epsilon : D) :
    Cuda D (SearchMembers F D) Unit := do
  let impl ← readObject
  require (3 ≤ k ∧ isFinite epsilon ∧ ¬ epsilon ≤ 0 ∧ ¬ 1 < epsilon ∧
    impl.covarianceNeighbors = 0) (.invalidArgument "invalid covariance settings")
  prepareKnn k
  deviceCalls (gicpSteps impl)
  match kernels.covariances impl.reference k epsilon with
  | none => throw (.invalidArgument "GICP covariance neighborhood is collinear or coincident")
  | some values =>
    updateObject fun impl =>
      { impl with
        covariances := .allocated (some values)
        covarianceNeighbors := k
        covarianceEpsilon := epsilon }

/-- The points of a scan in the precision of the search. -/
def packedScan (points : List (Vec3 D)) : List (Vec3 F) :=
  points.map fun p => ⟨narrow p.x, narrow p.y, narrow p.z⟩

/-- The search of an uploaded scan, for its covariances; none when the reference has none. -/
def prepareScanSearch (kernels : CudaKernels F D) (current : ℤ) (points : List (Vec3 D)) :
    Cuda D (Search F D) Unit := do
  let impl ← readObject
  if impl.covarianceNeighbors = 0 then return ()
  else
    require (impl.covarianceNeighbors.toNat ≤ points.length)
      (.invalidArgument "GICP scan has insufficient support")
    let scanSearch ← createSearch current (packedScan points) 1 .indexed
    let scanSearch ← withObject scanSearch (prepareResident [])
    let scanSearch ← withObject scanSearch
      (prepareGicp kernels impl.covarianceNeighbors impl.covarianceEpsilon)
    updateObject fun impl => { impl with scanSearch := some scanSearch }

def scanSteps (normals : List (Vec3 D)) : List (DeviceStep (Search F D)) :=
  [("resident scan upload", fun impl =>
      { impl with scanNormals := if normals = [] then impl.scanNormals else .allocated none })] ++
  if normals = [] then [] else [("scan normals upload", id)]

def uploadScan (kernels : CudaKernels F D) (current : ℤ) (points normals : List (Vec3 D)) :
    Cuda D (Search F D) Unit := do
  let impl ← readObject
  require (impl.resident ∧ points ≠ [] ∧ points.length ≤ impl.capacity ∧
    (normals = [] ∨ normals.length = points.length)) (.invalidArgument "invalid resident scan")
  require (∀ p ∈ points, p.finite) (.invalidArgument "nonfinite resident scan")
  deviceCall "cudaGetDevice"
  require (current = impl.device) (.exception "CUDA device changed during registration")
  updateObject fun impl => { impl with scanCount := 0, scan := .allocated none }
  deviceCalls (scanSteps normals)
  deviceCall "scan upload completion"
  updateObject fun impl =>
    { impl with
      scan := .allocated (some points)
      scanNormals := if normals = [] then impl.scanNormals else .allocated (some normals) }
  prepareScanSearch kernels current points
  updateObject fun impl =>
    { impl with hasScanNormals := decide (normals ≠ []), scanCount := points.length }

/-- What an evaluation launches its kernels with. -/
def Search.launch (impl : Search F D) (arguments : EvaluateArguments D) : Launch D where
  points := impl.scan
  count := impl.scanCount
  normals := if impl.hasScanNormals then impl.scanNormals else .null
  referenceNormals := impl.referenceNormals
  referenceCovariances := if impl.covarianceNeighbors ≠ 0 then impl.covariances else .null
  scanCovariances := impl.scanSearch.elim .null SearchMembers.covariances
  arguments

def evaluate (kernels : CudaKernels F D) (current : ℤ) (arguments : EvaluateArguments D) :
    Cuda D (Search F D) (Fin 45 → D) := do
  let impl ← readObject
  require (impl.resident ∧ impl.scanCount ≠ 0 ∧
    ¬ (arguments.plane ∧ impl.referenceNormals.isNull) ∧ isFinite arguments.radius ∧
    ¬ arguments.radius ≤ 0 ∧ isFinite arguments.huber ∧ ¬ arguments.huber ≤ 0)
    (.invalidArgument "invalid resident evaluation")
  require (∀ i, isFinite (arguments.matrix i)) (.invalidArgument "nonfinite pose")
  deviceCall "cudaGetDevice"
  require (current = impl.device) (.exception "CUDA device changed during registration")
  recordLaunch (impl.launch arguments)
  forM ["resident transform launch", "resident nearest launch", "resident objective launch",
    "resident merge launch", "compact equation download",
    "resident objective completion"] deviceCall
  let result := kernels.equation impl.reference (impl.launch arguments)
  require (equal (result 44) 0)
    (.invalidArgument "transformed coordinate exceeds search precision range")
  return result

end

end PointcloudAd
