import PointcloudAd.Registration.Search
import PointcloudAd.Registration.Solver

/-!
# Prepared registration

A reference made ready for any number of alignments. An alignment transforms the scan, searches
and accumulates on the executor, or evaluates its passes on a device, over buffers that survive
from call to call.
-/

namespace PointcloudAd.Registration

open Library

variable {F D : Type} [FloatArith F] [FloatArith D] [Floats F D]

structure Prepared (F D : Type) [FloatArith D] where
  kernel : CpuKernel
  executor : CpuExecutor
  parameters : RegistrationParameters D
  referenceCloud : ValidatedCloud D
  points : List (Vec3 F)
  device : Option (Device D)
  referenceCovariances : List (Mat3 D)

def checkedReference (cloud : ValidatedCloud D) (parameters : RegistrationParameters D) :
    Except Exn Unit :=
  if cloud.points = [] then
    .error (.invalidArgument "registration requires valid reference points")
  else if parameters.method = .pointToPlane then
    if cloud.normals = [] then
      .error (.invalidArgument "reference normals are required for point-to-plane ICP")
    else if ∃ normal ∈ cloud.normals, norm normal < lit (1 / 2) then
      .error (.invalidArgument "point-to-plane requires nonzero reference normals")
    else .ok ()
  else .ok ()

/-- The device of a search, when it is not the processor's. -/
def searchDevice (device : Option (Device D)) (backend : ComputeBackend) :
    Except Exn (Option (Device D)) :=
  if backend = .cpu then .ok none
  else
    match device with
    | some device => .ok (some device)
    | none => .error (.invalidArgument "GPU support is not compiled into this binary")

def prepareDevice (device : Option (Device D)) (cloud : ValidatedCloud D)
    (parameters : RegistrationParameters D) : Except Exn Unit :=
  match device with
  | some device => device.prepare cloud parameters.method parameters.covarianceNeighbors
      parameters.covarianceEpsilon
  | none => .ok ()

/-- The covariances of the reference, for a generalized registration on the processor. -/
def prepareCovariances (host : Host F D) (scheduler : Scheduler) (executor : CpuExecutor)
    (cloud : ValidatedCloud D) (parameters : RegistrationParameters D) (backend : ComputeBackend) :
    Except Exn (List (Mat3 D)) × ExecutorState :=
  if parameters.method = .gicp ∧ backend = .cpu then
    estimateCovariances host.pcl host.eigen cloud parameters executor scheduler CpuExecutor.initial
  else (.ok [], CpuExecutor.initial)

/-- The constructor of `Prepared`: its members in the order of their initialization. -/
def Prepared.create (host : Host F D) (scheduler : Scheduler) (reference : SurfaceView F)
    (parameters : RegistrationParameters D) (maxScanPoints : ℕ) (backend : ComputeBackend) :
    Except Exn (Prepared F D × Buffers F D) := do
  let kernel ← selectCpuKernel host.avx2Available parameters.cpuKernel
  let executor ← CpuExecutor.create parameters.threadCount (max maxScanPoints reference.size)
  let cloud := extractValid D reference
  checkedReference cloud parameters
  let device ← searchDevice host.device backend
  prepareDevice device cloud parameters
  let (covariances, state) := prepareCovariances host scheduler executor cloud parameters backend
  let covariances ← covariances
  return (⟨kernel, executor, parameters, cloud, searchPoints cloud, device, covariances⟩,
    ⟨[], [], [], [], List.replicate executor.concurrency default, state⟩)

instance : Zero (Equations D) := ⟨⟨fun _ _ => 0, fun _ => 0, 0, 0⟩⟩

instance : Inhabited (Equations D) := ⟨0⟩

def addEquations (a b : Equations D) : Equations D where
  matrix row col := a.matrix row col + b.matrix row col
  gradient row := a.gradient row + b.gradient row
  residual := a.residual + b.residual
  count := a.count + b.count

def accepted (reference scan : ValidatedCloud D) (source target : ℕ) (pose : Matrix4 D) : Prop :=
  ¬ (reference.normals ≠ [] ∧ scan.normals ≠ []) ∨
    0 ≤ dot (applyDirection pose (scan.normals.getD source default))
      (reference.normals.getD target default)

instance (reference scan : ValidatedCloud D) (source target : ℕ) (pose : Matrix4 D) :
    Decidable (accepted reference scan source target pose) := by
  unfold accepted
  infer_instance

def rotationBlock (pose : Matrix4 D) : Mat3 D :=
  ![![pose 0, pose 1, pose 2], ![pose 4, pose 5, pose 6], ![pose 8, pose 9, pose 10]]

/-- The information matrix of a pair: the inverse of its combined covariance. -/
def informationMatrix (eigen : Eigen D) (pose : Matrix4 D) (reference scan : Mat3 D) : Fin 9 → D :=
  let rotation := rotationBlock pose
  let information := eigen.inverse
    (add3 reference (mul3 (mul3 rotation scan) (transpose3 rotation)))
  ![information 0 0, information 0 1, information 0 2, information 1 0, information 1 1,
    information 1 2, information 2 0, information 2 1, information 2 2]

/-- What one point adds to the cell of its block. -/
def accumulatePoint (eigen : Eigen D) (objective : ObjectiveInput D → ObjectiveContribution D)
    (parameters : RegistrationParameters D) (reference scan : ValidatedCloud D)
    (referenceCovariances scanCovariances : List (Mat3 D)) (pose : Matrix4 D)
    (transformed : List (Vec3 D)) (neighbors : List ℤ) (i : ℕ) (cell : Equations D) :
    Equations D :=
  let neighbor := neighbors.getD i 0
  if neighbor < 0 then cell
  else
    let j := neighbor.toNat
    if ¬ accepted reference scan i j pose then cell
    else
      let plane : Bool := parameters.method = .pointToPlane
      let gicp : Bool := parameters.method = .gicp
      let contribution := objective
        { point := transformed.getD i default
          reference := reference.points.getD j default
          normal := if plane then reference.normals.getD j default else default
          information :=
            if gicp then
              informationMatrix eigen pose (referenceCovariances.getD j default)
                (scanCovariances.getD i default)
            else ![1, 0, 0, 0, 1, 0, 0, 0, 1]
          huberDelta := parameters.huberDeltaMm
          plane := plane
          generalized := gicp }
      addEquations cell
        ⟨contribution.matrix, contribution.gradient, contribution.absoluteResidual, 1⟩

/-- What one point adds to the residual metrics: the plane residual, or the distance. -/
def measurePoint (parameters : RegistrationParameters D) (reference scan : ValidatedCloud D)
    (pose : Matrix4 D) (transformed : List (Vec3 D)) (neighbors : List ℤ) (i : ℕ)
    (cell : Equations D) : Equations D :=
  let neighbor := neighbors.getD i 0
  if neighbor < 0 then cell
  else
    let j := neighbor.toNat
    if ¬ accepted reference scan i j pose then cell
    else
      let d := sub (transformed.getD i default) (reference.points.getD j default)
      let residual := if parameters.method = .pointToPlane then
        dot (reference.normals.getD j default) d else norm d
      { cell with residual := cell.residual + residual * residual, count := cell.count + 1 }

def reductionJob (step : ℕ → Equations D → Equations D) : Job Unit (Equations D) Exn where
  cell i := i / CpuExecutor.blockSize
  body i := do
    let cell ← Code.load ()
    Code.store () fun _ => step i cell

/-- One cell per block, merged in block order by the caller. -/
def reduceBlocks (executor : CpuExecutor) (scheduler : Scheduler) (points : ℕ)
    (step : ℕ → Equations D → Equations D) :
    Action (Buffers F D) (Equations D) Exn (List (Equations D)) := fun buffers =>
  let ran := executor.run scheduler buffers.executor points (reductionJob step)
    (List.replicate (CpuExecutor.blocks points) 0) [()]
  let buffers := { buffers with reduction := ran.cells, executor := ran.state }
  match ran.thrown with
  | some e => (.error e, buffers, [])
  | none => (.ok ran.cells, buffers, [])

omit [FloatArith F] [Floats F D] in
/-- Every block adds its own points in order, whatever the workers and their schedule. -/
theorem reduceBlocks_eq (executor : CpuExecutor) (scheduler : Scheduler) (points : ℕ)
    (step : ℕ → Equations D → Equations D) (buffers : Buffers F D) :
    (reduceBlocks executor scheduler points step).outcome buffers =
      .ok ((List.range (CpuExecutor.blocks points)).map fun block =>
        ((List.range points).filter fun i => i / CpuExecutor.blockSize = block).foldl
          (fun cell i => step i cell) 0) := by
  have hquiet : ∀ i k c, ((reductionJob step).step i k c).2.2 = none := fun _ _ _ => rfl
  have hscratch : (reductionJob step).ScratchFree := fun _ _ _ _ => rfl
  have hd : (reductionJob step).Disjoint CpuExecutor.blockSize points := fun i _ j _ he => he
  have hrange : ∀ i < points, i / CpuExecutor.blockSize <
      (List.replicate (CpuExecutor.blocks points) (0 : Equations D)).length := by
    intro i hi
    rw [List.length_replicate]
    exact CpuExecutor.block_lt hi
  unfold Action.outcome reduceBlocks
  dsimp only
  rw [CpuExecutor.run_quiet hd hquiet executor scheduler _ hrange]
  refine congrArg Except.ok (List.ext_getElem? fun block => ?_)
  rw [CpuExecutor.run_accumulated hscratch (fun _ => rfl) hquiet executor scheduler _ hrange,
    List.getElem?_map, List.getElem?_replicate]
  split_ifs with hblock
  · rw [List.getElem?_range hblock]
    rfl
  · rw [List.getElem?_eq_none (by rw [List.length_range]; omega)]
    rfl

/-- The scan at a pose, and the nearest reference point of each of its points. -/
def searchPass (host : Host F D) (scheduler : Scheduler) (P : Prepared F D)
    (scan : ValidatedCloud D) (pose : Matrix4 D) :
    Action (Buffers F D) (Equations D) Exn (List (Vec3 D) × List ℤ) := do
  let transformed ← transformPoints P.kernel P.executor scheduler scan pose
  let neighbors ← query host.pcl P.points P.executor scheduler transformed
    P.parameters.maxCorrespondenceDistanceMm
  return (transformed, neighbors)

theorem searchPass_transformed {host : Host F D} {scheduler : Scheduler} {P : Prepared F D}
    {scan : ValidatedCloud D} {pose : Matrix4 D} {buffers : Buffers F D}
    {transformed : List (Vec3 D)} {neighbors : List ℤ}
    (h : (searchPass host scheduler P scan pose).outcome buffers = .ok (transformed, neighbors)) :
    transformed = scan.points.map (transformPoint pose) := by
  unfold searchPass at h
  obtain ⟨points, s', hpoints, hrest⟩ := Action.outcome_bind_inv h
  obtain ⟨found, s'', -, hpair⟩ := Action.outcome_bind_inv hrest
  rw [(transformPoints_eq P.kernel P.executor scheduler scan pose buffers).1] at hpoints
  cases hpoints
  cases hpair
  rfl

/-- The kernel of the objective: the portable one for an automatic point-to-plane alignment. -/
def Prepared.objectiveKernel (P : Prepared F D) : ObjectiveInput D → ObjectiveContribution D :=
  Registration.objectiveKernel
    (if P.parameters.cpuKernel = .automatic ∧ P.parameters.method = .pointToPlane then .scalar
    else P.kernel)

/-- The passes of an alignment on the processor. -/
def cpuEvaluator (host : Host F D) (scheduler : Scheduler) (P : Prepared F D)
    (scan : ValidatedCloud D) (scanCovariances : List (Mat3 D)) : Evaluator (Buffers F D) D :=
  { equations := fun pose => do
      let (transformed, neighbors) ← searchPass host scheduler P scan pose
      let blocks ← reduceBlocks P.executor scheduler transformed.length
        (accumulatePoint host.eigen P.objectiveKernel P.parameters P.referenceCloud scan
          P.referenceCovariances scanCovariances pose transformed neighbors)
      return blocks.foldl addEquations 0
    metrics := fun pose => do
      let (transformed, neighbors) ← searchPass host scheduler P scan pose
      let blocks ← reduceBlocks P.executor scheduler transformed.length
        (measurePoint P.parameters P.referenceCloud scan pose transformed neighbors)
      return blocks.foldl (fun sum block => (sum.1 + block.residual, sum.2 + block.count)) (0, 0) }

/-- The passes of an alignment on a device. -/
def deviceEvaluator (device : Device D) (P : Prepared F D) (scan : ValidatedCloud D) :
    Evaluator (Buffers F D) D :=
  let parameters := P.parameters
  let pass (finalMetrics : Bool) (pose : Matrix4 D) : DevicePass D :=
    { reference := P.referenceCloud
      scan := scan
      method := parameters.method
      covarianceNeighbors := parameters.covarianceNeighbors
      covarianceEpsilon := parameters.covarianceEpsilon
      pose := pose
      bound := parameters.maxCorrespondenceDistanceMm
      huberDelta := parameters.huberDeltaMm
      finalMetrics := finalMetrics }
  { equations := fun pose => Action.lift (device.evaluate (pass false pose))
    metrics := fun pose => do
      let equations ← Action.lift (device.evaluate (pass true pose))
      return (equations.residual, equations.count) }

/-- The passes emit nothing of their own. -/
theorem cpuEvaluator_silent (host : Host F D) (scheduler : Scheduler) (P : Prepared F D)
    (scan : ValidatedCloud D) (scanCovariances : List (Mat3 D)) :
    (cpuEvaluator host scheduler P scan scanCovariances).Silent := by
  have hsearch : ∀ pose, (searchPass host scheduler P scan pose).Silent := by
    intro pose
    have hquery : ∀ transformed, (query host.pcl P.points P.executor scheduler transformed
        P.parameters.maxCorrespondenceDistanceMm : Action (Buffers F D) _ _ _).Silent := by
      intro transformed buffers
      unfold Action.log query
      rcases packPoints transformed with ⟨packed, _ | e⟩
      · dsimp only
        split <;> rfl
      · rfl
    exact Action.Silent.bind (fun buffers => (transformPoints_eq _ _ _ _ _ buffers).2)
      fun transformed => (hquery transformed).bind fun neighbors => .pure _
  have hreduce : ∀ (points : ℕ) (step : ℕ → Equations D → Equations D),
      (reduceBlocks (F := F) P.executor scheduler points step).Silent := by
    intro points step buffers
    unfold Action.log reduceBlocks
    dsimp only
    split <;> rfl
  exact ⟨fun pose => (hsearch pose).bind fun found => (hreduce _ _).bind fun blocks =>
      .pure _,
    fun pose => (hsearch pose).bind fun found => (hreduce _ _).bind fun blocks =>
      .pure _⟩

omit [FloatArith F] [Floats F D] in
theorem deviceEvaluator_silent (device : Device D) (P : Prepared F D) (scan : ValidatedCloud D) :
    (deviceEvaluator device P scan).Silent :=
  ⟨fun _ => Action.Silent.lift _, fun _ => (Action.Silent.lift _).bind fun _ => .pure _⟩

def covariancePass (host : Host F D) (scheduler : Scheduler) (executor : CpuExecutor)
    (parameters : RegistrationParameters D) (scan : ValidatedCloud D) :
    Action (Buffers F D) (Equations D) Exn (List (Mat3 D)) := fun buffers =>
  let (covariances, state) := estimateCovariances host.pcl host.eigen scan parameters executor
    scheduler buffers.executor
  (covariances, { buffers with executor := state }, [])

/-- The scan's covariances, for a generalized alignment on the processor. -/
def scanCovariances (host : Host F D) (scheduler : Scheduler) (P : Prepared F D)
    (scan : ValidatedCloud D) : Action (Buffers F D) (Equations D) Exn (List (Mat3 D)) :=
  if P.parameters.method = .gicp ∧ P.device.isNone then
    covariancePass host scheduler P.executor P.parameters scan
  else pure []

/-- `Prepared::align` without its exception handlers. -/
def Prepared.alignImpl (host : Host F D) (scheduler : Scheduler) (P : Prepared F D)
    (scan : SurfaceView F) (initial : RigidTransform D) :
    Action (Buffers F D) (Equations D) Exn (Result (RegistrationMetrics D)) := do
  let cloud := extractValid D scan
  if cloud.points = [] then
    Action.throw (.invalidArgument "registration requires valid scan points")
  else
    let covariances ← scanCovariances host scheduler P cloud
    let evaluator := match P.device with
      | some device => deviceEvaluator device P cloud
      | none => cpuEvaluator host scheduler P cloud covariances
    alignWith F evaluator host.eigen P.parameters initial cloud.points.length

def backendError (reason : String) (code : ErrorCode) : Error :=
  ⟨code, .registration, "registration backend failed", [("reason", reason)]⟩

def catchBackend : Exn → Error
  | .invalidArgument what => backendError what .invalidInput
  | .exception what => backendError what .internalError
  | .unknown => backendError "unknown backend exception" .internalError

/-- The result of an action, an exception turned into an error. -/
def caught {α : Type} (handler : Exn → Error) : Except Exn (Result α) → Result α
  | .ok result => result
  | .error e => .error (handler e)

/-- An alignment: its result, the buffers it leaves, and the equations of its passes. -/
def Prepared.align (host : Host F D) (scheduler : Scheduler) (P : Prepared F D)
    (buffers : Buffers F D) (scan : SurfaceView F) (initial : RigidTransform D) :
    Result (RegistrationMetrics D) × Buffers F D × List (Equations D) :=
  let ended := P.alignImpl host scheduler scan initial buffers
  (caught catchBackend ended.1, ended.2.1, ended.2.2)

/-- Two preparations that differ in their workers and their kernels only. -/
structure Prepared.Alike (P P' : Prepared F D) : Prop where
  parameters : P'.parameters = P.parameters.withThreads P'.parameters.threadCount
  referenceCloud : P'.referenceCloud = P.referenceCloud
  points : P'.points = P.points
  device : P'.device = P.device
  referenceCovariances : P'.referenceCovariances = P.referenceCovariances

omit [FloatArith F] [Floats F D] in
theorem reduceBlocks_related (executor executor' : CpuExecutor) (scheduler scheduler' : Scheduler)
    (points : ℕ) (step : ℕ → Equations D → Equations D) :
    Action.Related Eq (reduceBlocks (F := F) executor scheduler points step)
      (reduceBlocks (F := F) executor' scheduler' points step) := by
  have hd : (reductionJob step).Disjoint CpuExecutor.blockSize points := fun i _ j _ he => he
  refine .of_eq fun s s' => ?_
  have hf : (reductionJob step).ScratchFree := fun _ _ _ _ => rfl
  have hrange : ∀ i < points, (reductionJob step).cell i <
      (List.replicate (CpuExecutor.blocks points) (0 : Equations D)).length := by
    intro i hi
    rw [List.length_replicate]
    exact CpuExecutor.block_lt hi
  obtain ⟨ht, hc⟩ := CpuExecutor.run_independent hf hd executor executor' scheduler scheduler'
    s.executor s'.executor hrange [()] [()]
  unfold reduceBlocks
  dsimp only
  rw [ht, hc]
  cases (executor'.run scheduler' s'.executor points (reductionJob step)
    (List.replicate (CpuExecutor.blocks points) 0) [()]).thrown <;> exact ⟨rfl, rfl⟩

omit [FloatArith F] [Floats F D] in
theorem transformPoints_related (kernel kernel' : CpuKernel) (executor executor' : CpuExecutor)
    (scheduler scheduler' : Scheduler) (cloud : ValidatedCloud D) (transform : Matrix4 D) :
    Action.Related Eq (transformPoints (F := F) kernel executor scheduler cloud transform)
      (transformPoints (F := F) kernel' executor' scheduler' cloud transform) := by
  refine .of_eq fun s s' => ?_
  obtain ⟨ho, hl⟩ := transformPoints_eq kernel executor scheduler cloud transform s
  obtain ⟨ho', hl'⟩ := transformPoints_eq kernel' executor' scheduler' cloud transform s'
  exact ⟨ho.trans ho'.symm, hl.trans hl'.symm⟩

variable {P P' : Prepared F D}

theorem searchPass_related (h : P.Alike P') (host : Host F D) (scheduler scheduler' : Scheduler)
    (scan : ValidatedCloud D) (pose : Matrix4 D) :
    Action.Related Eq (searchPass host scheduler P scan pose)
      (searchPass host scheduler' P' scan pose) := by
  unfold searchPass
  rw [h.points, h.parameters]
  refine (transformPoints_related ..).bind ?_
  rintro transformed _ rfl
  refine (query_related ..).bind ?_
  rintro neighbors _ rfl
  exact .pure rfl

theorem cpuEvaluator_related (h : P.Alike P') (host : Host F D) (scheduler scheduler' : Scheduler)
    (scan : ValidatedCloud D) (covariances : List (Mat3 D)) :
    (cpuEvaluator host scheduler P scan covariances).Related
      (cpuEvaluator host scheduler' P' scan covariances) := by
  have hobjective : P'.objectiveKernel = P.objectiveKernel :=
    (objectiveKernel_eq _).trans (objectiveKernel_eq _).symm
  unfold cpuEvaluator
  rw [h.parameters, h.referenceCloud, h.referenceCovariances, hobjective]
  refine ⟨fun pose => ?_, fun pose => ?_⟩
  · refine (searchPass_related h host scheduler scheduler' scan pose).bind ?_
    rintro ⟨transformed, neighbors⟩ _ rfl
    refine (reduceBlocks_related ..).bind ?_
    rintro blocks _ rfl
    exact .pure rfl
  · refine (searchPass_related h host scheduler scheduler' scan pose).bind ?_
    rintro ⟨transformed, neighbors⟩ _ rfl
    refine (reduceBlocks_related ..).bind ?_
    rintro blocks _ rfl
    exact .pure rfl

omit [FloatArith F] [Floats F D] in
theorem deviceEvaluator_related (h : P.Alike P') (device : Device D) (scan : ValidatedCloud D) :
    (deviceEvaluator device P scan).Related (deviceEvaluator device P' scan) := by
  unfold deviceEvaluator
  rw [h.parameters, h.referenceCloud]
  refine ⟨fun pose => .lift (Outcome.eq_iff.mpr rfl), fun pose => ?_⟩
  refine (Action.Related.lift (Outcome.eq_iff.mpr rfl)).bind ?_
  rintro equations _ rfl
  exact .pure rfl

theorem scanCovariances_related (h : P.Alike P') (host : Host F D)
    (scheduler scheduler' : Scheduler) (scan : ValidatedCloud D) :
    Action.Related Eq (scanCovariances host scheduler P scan)
      (scanCovariances host scheduler' P' scan) := by
  have hpass : Action.Related Eq (covariancePass host scheduler P.executor P.parameters scan)
      (covariancePass host scheduler' P'.executor P'.parameters scan) := by
    rw [h.parameters]
    refine .of_eq fun s s' => ⟨?_, rfl⟩
    exact estimateCovariances_independent host.pcl host.eigen scan rfl rfl P.executor P'.executor
      scheduler scheduler' s.executor s'.executor
  have hmethod : P'.parameters.method = P.parameters.method := by
    rw [h.parameters]
    rfl
  unfold scanCovariances
  rw [hmethod, h.device]
  split_ifs
  · exact hpass
  · exact .pure rfl

theorem prepareCovariances_independent (host : Host F D) (scheduler scheduler' : Scheduler)
    (executor executor' : CpuExecutor) (cloud : ValidatedCloud D)
    (parameters : RegistrationParameters D) (threads : UInt32) (backend : ComputeBackend) :
    (prepareCovariances host scheduler executor cloud parameters backend).1 =
      (prepareCovariances host scheduler' executor' cloud (parameters.withThreads threads)
        backend).1 := by
  by_cases hg : parameters.method = .gicp ∧ backend = .cpu
  · have hg' : (parameters.withThreads threads).method = .gicp ∧ backend = .cpu := hg
    unfold prepareCovariances
    rw [if_pos hg, if_pos hg']
    exact estimateCovariances_independent _ _ _ rfl rfl _ _ _ _ _ _
  · have hg' : ¬ ((parameters.withThreads threads).method = .gicp ∧ backend = .cpu) := hg
    unfold prepareCovariances
    rw [if_neg hg, if_neg hg']

/-- Preparations of one reference and one set of parameters are alike, for any budget of threads
and any capacity, or fail alike. -/
theorem Prepared.create_alike (host : Host F D) (scheduler scheduler' : Scheduler)
    {reference reference' : SurfaceView F}
    (hcloud : extractValid D reference = extractValid D reference')
    (parameters : RegistrationParameters D) {threads : UInt32} (ht : parameters.threadCount ≠ 0)
    (ht' : threads ≠ 0) (capacity capacity' : ℕ) (backend : ComputeBackend) :
    Outcome (fun a b => a.1.Alike b.1)
      (Prepared.create host scheduler reference parameters capacity backend)
      (Prepared.create host scheduler' reference' (parameters.withThreads threads) capacity'
        backend) := by
  have hexecutor : ∀ (n n' : ℕ), Outcome (fun _ _ => True)
      (CpuExecutor.create parameters.threadCount n)
      (CpuExecutor.create (parameters.withThreads threads).threadCount n') := by
    intro n n'
    have ht' : (parameters.withThreads threads).threadCount ≠ 0 := ht'
    unfold CpuExecutor.create
    rw [dif_neg ht, dif_neg ht']
    exact .ok trivial
  unfold Prepared.create
  rw [← hcloud]
  refine (Outcome.eq_iff.mpr rfl).bind ?_
  rintro kernel _ rfl
  refine (hexecutor _ _).bind fun executor executor' _ => ?_
  refine (Outcome.eq_iff.mpr rfl).bind ?_
  rintro _ _ rfl
  refine (Outcome.eq_iff.mpr rfl).bind ?_
  rintro device _ rfl
  refine (Outcome.eq_iff.mpr rfl).bind ?_
  rintro _ _ rfl
  refine (Outcome.eq_iff.mpr (prepareCovariances_independent ..)).bind ?_
  rintro covariances _ rfl
  exact .ok ⟨rfl, rfl, rfl, rfl, rfl⟩

theorem alignImpl_related (h : P.Alike P') (host : Host F D) (scheduler scheduler' : Scheduler)
    {scan scan' : SurfaceView F} (hscan : extractValid D scan = extractValid D scan')
    (initial : RigidTransform D) :
    Action.Related Eq (P.alignImpl host scheduler scan initial)
      (P'.alignImpl host scheduler' scan' initial) := by
  unfold Prepared.alignImpl
  rw [← hscan]
  dsimp only
  split_ifs
  · exact .throw _
  · refine (scanCovariances_related h host scheduler scheduler' _).bind ?_
    rintro covariances _ rfl
    rw [h.device, h.parameters, alignWith_withThreads]
    cases P.device with
    | none =>
      exact alignWith_related (cpuEvaluator_related h host scheduler scheduler' _ covariances)
        host.eigen P.parameters initial _
    | some device =>
      exact alignWith_related (deviceEvaluator_related h device _) host.eigen P.parameters initial _

theorem align_alike (h : P.Alike P') (host : Host F D) (scheduler scheduler' : Scheduler)
    {scan scan' : SurfaceView F} (hscan : extractValid D scan = extractValid D scan')
    (initial : RigidTransform D) (buffers buffers' : Buffers F D) :
    (P.align host scheduler buffers scan initial).1 =
        (P'.align host scheduler' buffers' scan' initial).1 ∧
      (P.align host scheduler buffers scan initial).2.2 =
        (P'.align host scheduler' buffers' scan' initial).2.2 := by
  have hr := alignImpl_related h host scheduler scheduler' hscan initial
  exact ⟨congrArg (caught catchBackend) (hr.outcome_eq buffers buffers'), hr.log buffers buffers'⟩

end PointcloudAd.Registration
