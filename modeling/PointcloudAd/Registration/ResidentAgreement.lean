import PointcloudAd.Preprocess.NormalizedMetric
import PointcloudAd.Registration.History
import PointcloudAd.Registration.ResidentAlignment

/-!
# Alignments on the device and on the processor

Without rounding, an alignment over a resident search gives what the processor gives, whatever
scans were aligned over the search before and however their calls failed.
-/

namespace PointcloudAd.Registration

open Library Library.Faulty Cuda

section

variable {K : Type} [LinearOrder K] [Field K] [FieldFunctions K]

section Pass

variable {parameters : RegistrationParameters (Exact K)} {reference scan : ValidatedCloud (Exact K)}

/-- The kernels of a search that serves a reference are launched with the reference and the scan. -/
theorem launchedArguments_eq {capacity : ℕ} {device : ℤ} {impl : Search (Exact K) (Exact K)}
    (hserves : ServesAlone (searchPoints reference) reference.normals capacity device impl)
    (hscan : HoldsScan impl (scan.points, scan.normals)) (hmethod : parameters.method ≠ .gicp)
    (nth : NthElement) (pose : Matrix4 (Exact K)) (finalMetrics : Bool) :
    launchedArguments nth .indexed (searchPoints reference)
        (impl.launch (passArguments parameters pose finalMetrics)) =
      residentArguments (Exact K) parameters reference scan [] [] pose
        (nearestIndices nth .indexed (searchPoints reference)
          (scan.points.map (transformPoint pose))
          (parameters.maxCorrespondenceDistanceMm * parameters.maxCorrespondenceDistanceMm))
        finalMetrics := by
  have hreference : impl.referenceNormals.pointer = devicePointer reference.normals := by
    rw [hserves.1.referenceNormals]
    unfold devicePointer
    split_ifs <;> rfl
  have hnormals : (if impl.hasScanNormals = true then impl.scanNormals else .null).pointer =
      devicePointer scan.normals := by
    rw [hscan.hasScanNormals]
    unfold devicePointer
    by_cases hnone : scan.normals = []
    · simp [hnone, DeviceArray.pointer]
    · simp [hnone, hscan.scanNormals hnone, DeviceArray.pointer]
  have hpoints : ((impl.launch (passArguments parameters pose finalMetrics)).points.pointer.getD
      []).take impl.scanCount = scan.points := by
    change (impl.scan.pointer.getD []).take impl.scanCount = scan.points
    rw [hscan.scan, hscan.scanCount]
    exact List.take_length
  have huncovered : (if impl.covarianceNeighbors ≠ 0 then impl.covariances else .null) =
      DeviceArray.null := if_neg (not_not.mpr hserves.1.uncovered)
  have hsearch : impl.scanSearch.elim .null SearchMembers.covariances = DeviceArray.null := by
    rw [hserves.2]
    rfl
  have hcount : (impl.launch (passArguments parameters pose finalMetrics)).count =
      impl.scanCount := rfl
  unfold launchedArguments residentArguments
  dsimp only
  rw [hcount, hpoints]
  simp only [Search.launch, passArguments, hreference, hnormals, huncovered, hsearch,
    hscan.scanCount, if_neg hmethod, List.map_map]
  rfl

variable [IsStrictOrderedRing K]

/-- The nearest points that the processor finds are those that the device finds. -/
theorem searchPass_eq (nth : NthElement) (host : Host (Exact K) (Exact K)) (scheduler : Scheduler)
    (P : Prepared (Exact K) (Exact K)) {pose : Matrix4 (Exact K)} (hpose : FinitePose pose)
    (hne : P.points ≠ []) (hlength : P.points.length ≤ int32Max)
    (hreference : ∀ p ∈ P.points, p.finite = true) (hscan : ∀ p ∈ scan.points, p.finite = true)
    (hradius : 0 ≤ P.parameters.maxCorrespondenceDistanceMm)
    (htree : ∀ q : Vec3 (Exact K), q.finite = true → FindsNearest host.pcl P.points q)
    (buffers : Buffers (Exact K) (Exact K)) :
    (searchPass host scheduler P scan pose).outcome buffers =
      .ok (scan.points.map (transformPoint pose),
        nearestIndices nth .indexed P.points (scan.points.map (transformPoint pose))
          (P.parameters.maxCorrespondenceDistanceMm *
            P.parameters.maxCorrespondenceDistanceMm)) := by
  have hqueries : ∀ q ∈ scan.points.map (transformPoint pose), q.finite = true := by
    intro q hq
    obtain ⟨p, hp, rfl⟩ := List.mem_map.mp hq
    exact transformPoint_finite (hscan p hp) hpose
  unfold searchPass
  obtain ⟨left, hleft⟩ := Action.outcome_bind_ok
    (f := fun transformed => do
      let neighbors ← query host.pcl P.points P.executor scheduler transformed
        P.parameters.maxCorrespondenceDistanceMm
      return (transformed, neighbors))
    (transformPoints_eq P.kernel P.executor scheduler scan pose buffers).1
  obtain ⟨bound, hbound⟩ := Exact.mul_self_eq_ofTop hradius
  obtain ⟨index, hindex⟩ := exists_buildSpatialIndex (D := Exact K) nth hne hlength hreference
  have hquery := query_answers hreference hqueries hbound (fun q hq => htree q (hqueries q hq))
    P.executor scheduler left
  have hnearest : nearestIndices nth .indexed P.points (scan.points.map (transformPoint pose))
      (P.parameters.maxCorrespondenceDistanceMm * P.parameters.maxCorrespondenceDistanceMm) =
        (scan.points.map (transformPoint pose)).map (nearestAnswer P.points bound) := by
    unfold nearestIndices
    simp only [hindex]
    rw [hbound, indexedNearestKernel_answers hreference hqueries hindex bound le_rfl]
    rfl
  obtain ⟨left', hleft'⟩ := Action.outcome_bind_ok
    (f := fun neighbors => pure (scan.points.map (transformPoint pose), neighbors)) hquery
  rw [hnearest]
  exact hleft.trans hleft'

end Pass

theorem truncated_lit (hceil : ∀ n : ℕ, FieldFunctions.ceil (n : K) = n) (n : ℕ) :
    truncated (Exact K) (lit (n : ℚ) : Exact K) = n := by
  have habove : Floats.ceil (Exact K) (lit (n : ℚ) : Exact K) = n := by
    rw [Exact.lit_natCast]
    exact hceil n
  have hle : (lit (n : ℚ) : Exact K) ≤ lit (n : ℚ) := by
    rw [Exact.lit_natCast, Exact.fin_le_fin]
  unfold truncated
  dsimp only
  rw [habove, if_pos hle]

theorem equationsOf_packetOf (hceil : ∀ n : ℕ, FieldFunctions.ceil (n : K) = n)
    (equations : Equations (Exact K)) :
    equationsOf (Exact K) (packetOf equations) = equations := by
  obtain ⟨matrix, gradient, residual, count⟩ := equations
  have hmatrix : ∀ row col : Fin 6,
      packetOf ⟨matrix, gradient, residual, count⟩ ⟨row * 6 + col, by omega⟩ = matrix row col := by
    intro row col
    have hlt : (row : ℕ) * 6 + col < 36 := by omega
    have hrow : ((row : ℕ) * 6 + col) / 6 = row := by omega
    have hcol : ((row : ℕ) * 6 + col) % 6 = col := by omega
    simp [packetOf, laneValues, hlt, hrow, hcol]
  have hgradient : ∀ row : Fin 6,
      packetOf ⟨matrix, gradient, residual, count⟩ ⟨36 + row, by omega⟩ = gradient row := by
    intro row
    have hlt : 36 + (row : ℕ) < 42 := by omega
    simp [packetOf, laneValues, hlt]
  unfold equationsOf
  simp only [hmatrix, hgradient]
  congr 1
  exact truncated_lit hceil count

theorem accumulatePoint_eigen (eigen eigen' : Eigen (Exact K))
    {parameters : RegistrationParameters (Exact K)} (hmethod : parameters.method ≠ .gicp)
    (objective : ObjectiveInput (Exact K) → ObjectiveContribution (Exact K))
    (reference scan : ValidatedCloud (Exact K))
    (referenceCovariances scanCovariances : List (Mat3 (Exact K))) (pose : Matrix4 (Exact K))
    (transformed : List (Vec3 (Exact K))) (neighbors : List ℤ) :
    accumulatePoint eigen objective parameters reference scan referenceCovariances scanCovariances
        pose transformed neighbors =
      accumulatePoint eigen' objective parameters reference scan referenceCovariances
        scanCovariances pose transformed neighbors := by
  funext i cell
  simp [accumulatePoint, hmethod]

/-- The inverse by cofactors, in place of that of a library. -/
def byCofactors (eigen : Eigen (Exact K)) : Eigen (Exact K) :=
  { eigen with inverse := fun m row col => information m (entry3 row col) }

theorem byCofactors_exact (eigen : Eigen (Exact K)) : ExactInverse (byCofactors eigen) := by
  intro m h
  funext row col
  have hentry := information_eq m h (entry3 row col)
  fin_cases row <;> fin_cases col <;> exact hentry

variable [IsStrictOrderedRing K]

/-- What the passes of an alignment need of the prepared reference, the scan and the search tree. -/
structure Comparable (host : Host (Exact K) (Exact K)) (P : Prepared (Exact K) (Exact K))
    (scan : ValidatedCloud (Exact K)) : Prop where
  method : P.parameters.method ≠ .gicp
  points : P.points = searchPoints P.referenceCloud
  nonempty : P.points ≠ []
  bounded : P.points.length ≤ int32Max
  reference : ∀ p ∈ P.points, p.finite = true
  scan : ∀ p ∈ scan.points, p.finite = true
  radius : 0 ≤ P.parameters.maxCorrespondenceDistanceMm
  tree : ∀ q : Vec3 (Exact K), q.finite = true → FindsNearest host.pcl P.points q

variable {host : Host (Exact K) (Exact K)} {P : Prepared (Exact K) (Exact K)}
  {scan : ValidatedCloud (Exact K)}

/-- The arguments of a launch for a pass over the nearest points. -/
def nearestArguments (nth : NthElement) (P : Prepared (Exact K) (Exact K))
    (scan : ValidatedCloud (Exact K)) (pose : Matrix4 (Exact K)) (finalMetrics : Bool) :
    EquationArguments (Exact K) (Exact K) :=
  residentArguments (Exact K) P.parameters P.referenceCloud scan [] [] pose
    (nearestIndices nth .indexed P.points (scan.points.map (transformPoint pose))
      (P.parameters.maxCorrespondenceDistanceMm * P.parameters.maxCorrespondenceDistanceMm))
    finalMetrics

omit [IsStrictOrderedRing K] in
theorem nearestArguments_eq (hmethod : P.parameters.method ≠ .gicp) (nth : NthElement)
    (referenceCovariances scanCovariances : List (Mat3 (Exact K))) (pose : Matrix4 (Exact K))
    (finalMetrics : Bool) :
    residentArguments (Exact K) P.parameters P.referenceCloud scan referenceCovariances
        scanCovariances pose (nearestIndices nth .indexed P.points
          (scan.points.map (transformPoint pose)) (P.parameters.maxCorrespondenceDistanceMm *
            P.parameters.maxCorrespondenceDistanceMm)) finalMetrics =
      nearestArguments nth P scan pose finalMetrics := by
  simp [nearestArguments, residentArguments, hmethod]

theorem Comparable.searchPass (h : Comparable host P scan) (nth : NthElement)
    (scheduler : Scheduler) {pose : Matrix4 (Exact K)} (hpose : FinitePose pose)
    (buffers : Buffers (Exact K) (Exact K)) :
    (searchPass host scheduler P scan pose).outcome buffers =
      .ok (scan.points.map (transformPoint pose),
        nearestIndices nth .indexed P.points (scan.points.map (transformPoint pose))
          (P.parameters.maxCorrespondenceDistanceMm *
            P.parameters.maxCorrespondenceDistanceMm)) :=
  searchPass_eq nth host scheduler P hpose h.nonempty h.bounded h.reference h.scan h.radius h.tree
    buffers

theorem cpuEvaluator_equations (h : Comparable host P scan) (nth : NthElement)
    (scheduler : Scheduler) (covariances : List (Mat3 (Exact K))) {pose : Matrix4 (Exact K)}
    (hpose : FinitePose pose) (buffers : Buffers (Exact K) (Exact K)) :
    ∃ equations,
      ((cpuEvaluator host scheduler P scan covariances).equations pose).outcome buffers =
        .ok equations ∧
      equationPacket (nearestArguments nth P scan pose false) = packetOf equations := by
  let host' : Host (Exact K) (Exact K) := { host with eigen := byCofactors host.eigen }
  have hhost : cpuEvaluator host scheduler P scan covariances =
      cpuEvaluator host' scheduler P scan covariances := by
    unfold cpuEvaluator
    simp only [accumulatePoint_eigen host.eigen host'.eigen h.method]
    rfl
  obtain ⟨equations, hequations, hpacket⟩ := cpuEvaluator_packet host' (byCofactors_exact _)
    scheduler P scan covariances pose buffers h.scan hpose
    (h.searchPass nth scheduler hpose buffers) fun hmethod => absurd hmethod h.method
  rw [nearestArguments_eq h.method] at hpacket
  refine ⟨equations, ?_, hpacket⟩
  rw [hhost]
  exact hequations

/-- The residual metrics on the processor are two entries of the device's packet. -/
theorem cpuEvaluator_residuals (h : Comparable host P scan) (nth : NthElement)
    (scheduler : Scheduler) (covariances : List (Mat3 (Exact K))) {pose : Matrix4 (Exact K)}
    (hpose : FinitePose pose) (buffers : Buffers (Exact K) (Exact K)) :
    ∃ cell : Equations (Exact K),
      ((cpuEvaluator host scheduler P scan covariances).metrics pose).outcome buffers =
        .ok (cell.residual, cell.count) ∧
      equationPacket (nearestArguments nth P scan pose true) = packetOf cell := by
  have hfinite : ∀ i < scan.points.length,
      (transformPoint pose (scan.points.getD i default)).finite = true := by
    intro i hi
    refine transformPoint_finite (h.scan _ ?_) hpose
    rw [List.getD_eq_getElem _ _ hi]
    exact List.getElem_mem hi
  set neighbors := nearestIndices nth .indexed P.points (scan.points.map (transformPoint pose))
    (P.parameters.maxCorrespondenceDistanceMm * P.parameters.maxCorrespondenceDistanceMm)
    with hneighbors
  have hlength : (scan.points.map (transformPoint pose)).length = scan.points.length :=
    List.length_map _
  obtain ⟨left, hleft⟩ := Action.outcome_bind_ok (f := fun found => do
    let blocks ← reduceBlocks P.executor scheduler found.1.length
      (measurePoint P.parameters P.referenceCloud scan pose found.1 found.2)
    return blocks.foldl (fun sum block => (sum.1 + block.residual, sum.2 + block.count)) (0, 0))
    (h.searchPass nth scheduler hpose buffers)
  have hblocks := reduceBlocks_eq P.executor scheduler scan.points.length
    (measurePoint P.parameters P.referenceCloud scan pose (scan.points.map (transformPoint pose))
      neighbors) left
  rw [← hlength] at hblocks
  obtain ⟨left', hleft'⟩ := Action.outcome_bind_ok (f := fun blocks => pure (blocks.foldl
    (fun sum block => (sum.1 + block.residual, sum.2 + block.count)) (0, 0))) hblocks
  have hpacket := (equationPacket_eq (residentArguments (Exact K) P.parameters P.referenceCloud
    scan [] [] pose neighbors true)).trans
      (packetOf_blocks fun i hi cell => measurePoint_packet hi (hfinite i hi) cell).symm
  refine ⟨_, (hleft.trans hleft').trans ?_, hpacket⟩
  rw [hlength, ← foldl_metrics_zero]
  rfl

omit [LinearOrder K] [Field K] [FieldFunctions K] [IsStrictOrderedRing K] in
theorem cudaAction_relatedFrom {σ τ ω α β : Type} {m : Cuda (Exact K) σ α} {o : σ} {a : α}
    (h : Runs o m a o) (f : α → β) {y : Action τ ω Exn β} (hy : Action.Silent y)
    (houtcome : ∀ t, y.outcome t = .ok (f a)) :
    Action.RelatedFrom (Responsive o) (fun _ => True) Eq
      (cudaAction m >>= fun a => pure (f a)) y := by
  refine .of_outcome ((cudaAction_silent m).bind fun _ => .pure _) hy ?_ (fun _ _ => trivial) ?_
  · intro s hs
    obtain ⟨s', hs', hrun⟩ := cudaAction_bind (ω := ω) h hs fun a => pure (f a)
    rw [hrun]
    exact hs'
  · intro s t hs _
    obtain ⟨s', -, hrun⟩ := cudaAction_bind (ω := ω) h hs fun a => pure (f a)
    rw [Action.outcome, hrun, houtcome t]
    rfl

/-- The checks of a parameter set leave a radius and a Huber bound that an evaluation accepts. -/
structure Admissible (parameters : RegistrationParameters (Exact K)) : Prop where
  radius : isFinite parameters.maxCorrespondenceDistanceMm = true ∧
    ¬ parameters.maxCorrespondenceDistanceMm ≤ 0
  huber : isFinite parameters.huberDeltaMm = true ∧ ¬ parameters.huberDeltaMm ≤ 0

omit [IsStrictOrderedRing K] in
theorem admissible_of_validate {parameters : RegistrationParameters (Exact K)}
    (h : validateRegistrationParameters parameters = .ok ()) : Admissible parameters := by
  unfold validateRegistrationParameters at h
  split_ifs at h
  simp only [bind_ok_iff] at h
  obtain ⟨_, hradius, _, hhuber, -⟩ := h
  split_ifs at hradius with hr
  split_ifs at hhuber with hh
  simp only [not_or, not_not] at hr hh
  exact ⟨hr, hh⟩

omit [IsStrictOrderedRing K] in
theorem Admissible.radius_nonneg [IsStrictOrderedRing K]
    {parameters : RegistrationParameters (Exact K)} (h : Admissible parameters) :
    0 ≤ parameters.maxCorrespondenceDistanceMm := by
  obtain ⟨hfinite, hpositive⟩ := h.radius
  obtain ⟨r, hr⟩ := Exact.isFinite_iff.mp hfinite
  rw [hr, Exact.zero_eq_fin, Exact.fin_le_fin] at hpositive
  rw [hr, Exact.zero_eq_fin, Exact.fin_le_fin]
  exact (not_le.mp hpositive).le

/-- The passes over a search that serves the reference and holds the scan end like those on the
processor. -/
theorem residentEvaluator_agreesOn (h : Comparable host P scan)
    (hceil : ∀ n : ℕ, FieldFunctions.ceil (n : K) = n) (hparameters : Admissible P.parameters)
    (hchecked : checkedReference P.referenceCloud P.parameters = .ok ()) (nth : NthElement)
    (covarianceKernel : List (Vec3 (Exact K)) → UInt32 → Exact K →
      Option (List (Covariance (Exact K)))) {capacity : ℕ} {device : ℤ}
    {impl : Search (Exact K) (Exact K)}
    (hserves : ServesAlone (searchPoints P.referenceCloud) P.referenceCloud.normals capacity device
      impl) (hscan : HoldsScan impl (scan.points, scan.normals)) (hnonempty : scan.points ≠ [])
    (scheduler : Scheduler) (covariances : List (Mat3 (Exact K))) :
    (residentEvaluator (deviceKernels nth .indexed covarianceKernel) device
        P.parameters).AgreesOn (Responsive impl) (fun _ => True) FinitePose
      (cpuEvaluator host scheduler P scan covariances) := by
  set kernels := deviceKernels nth .indexed covarianceKernel
  have hplane : ∀ pose finalMetrics,
      (passArguments P.parameters pose finalMetrics).plane = true →
        P.referenceCloud.normals ≠ [] := by
    intro pose finalMetrics hplane hnone
    have hmethod : P.parameters.method = .pointToPlane := of_decide_eq_true hplane
    unfold checkedReference at hchecked
    rw [if_pos hmethod, if_pos hnone] at hchecked
    split_ifs at hchecked
  have hkernel : ∀ pose finalMetrics, kernels.equation (searchPoints P.referenceCloud)
      (impl.launch (passArguments P.parameters pose finalMetrics)) =
        equationPacket (nearestArguments nth P scan pose finalMetrics) := by
    intro pose finalMetrics
    change equationPacket (launchedArguments nth .indexed (searchPoints P.referenceCloud) _) = _
    rw [launchedArguments_eq hserves hscan h.method, ← h.points]
    rfl
  have hruns : ∀ {pose : Matrix4 (Exact K)} {finalMetrics : Bool} {cell : Equations (Exact K)},
      FinitePose pose →
      equationPacket (nearestArguments nth P scan pose finalMetrics) = packetOf cell →
      Runs impl (evaluate kernels device (passArguments P.parameters pose finalMetrics))
        (packetOf cell) impl := by
    intro pose finalMetrics cell hpose hpacket
    have hcount : impl.scanCount ≠ 0 := by
      rw [hscan.scanCount]
      exact fun hzero => hnonempty (List.length_eq_zero_iff.mp hzero)
    have hvalid : equal (kernels.equation (searchPoints P.referenceCloud)
        (impl.launch (passArguments P.parameters pose finalMetrics)) 44) 0 = true := by
      rw [hkernel, hpacket]
      have hentry : packetOf cell 44 = 0 := rfl
      rw [hentry, Exact.zero_eq_fin]
      simp [FloatArith.equal, Exact.le]
    have hrun : Runs impl (evaluate kernels device (passArguments P.parameters pose finalMetrics))
        _ impl := evaluate_runs hserves kernels hcount (hplane pose finalMetrics)
      hparameters.radius hparameters.huber hpose hvalid
    rwa [hkernel, hpacket] at hrun
  refine ⟨fun pose hpose => ?_, fun pose hpose => ?_⟩
  · obtain ⟨equations, -, hpacket⟩ := cpuEvaluator_equations h nth scheduler covariances hpose
      ⟨[], [], [], [], [], CpuExecutor.initial⟩
    refine cudaAction_relatedFrom (hruns hpose hpacket) (equationsOf (Exact K))
      ((cpuEvaluator_silent ..).equations _) fun buffers => ?_
    obtain ⟨equations', hequations', hpacket'⟩ := cpuEvaluator_equations h nth scheduler
      covariances hpose buffers
    rw [hequations', ← hpacket, hpacket', equationsOf_packetOf hceil]
  · obtain ⟨cell, -, hpacket⟩ := cpuEvaluator_residuals h nth scheduler covariances hpose
      ⟨[], [], [], [], [], CpuExecutor.initial⟩
    refine cudaAction_relatedFrom (hruns hpose hpacket)
      (fun values => (values 42, truncated (Exact K) (values 43)))
      ((cpuEvaluator_silent ..).metrics _) fun buffers => ?_
    obtain ⟨cell', hmetrics, hpacket'⟩ := cpuEvaluator_residuals h nth scheduler covariances hpose
      buffers
    rw [hmetrics, ← hpacket, hpacket']
    exact congrArg (fun count => Except.ok (cell'.residual, count))
      (truncated_lit hceil cell'.count).symm

omit [IsStrictOrderedRing K] in
theorem prepared_cpu {parameters : RegistrationParameters (Exact K)}
    {reference : SurfaceView (Exact K)} {capacity : ℕ} {scheduler : Scheduler}
    {buffers : Buffers (Exact K) (Exact K)}
    (h : Prepared.create host scheduler reference parameters capacity .cpu = .ok (P, buffers)) :
    P.parameters = parameters ∧ P.referenceCloud = extractValid (Exact K) reference ∧
      P.points = searchPoints P.referenceCloud ∧ P.device = none := by
  unfold Prepared.create at h
  simp only [bind_ok_iff] at h
  obtain ⟨kernel, -, executor, -, _, -, device, hdevice, _, -, covariances, -, hP⟩ := h
  cases hP
  cases hdevice
  exact ⟨rfl, rfl, rfl, rfl⟩

omit [IsStrictOrderedRing K] in
theorem extractValid_uploadable (surface : OwnedSurface (Exact K)) :
    (∀ p ∈ (extractValid (Exact K) surface.view).points, p.finite = true) ∧
      ((extractValid (Exact K) surface.view).normals = [] ∨
        (extractValid (Exact K) surface.view).normals.length =
          (extractValid (Exact K) surface.view).points.length) := by
  constructor
  · intro p hp
    obtain ⟨i, hi, rfl⟩ := List.mem_map.mp hp
    obtain ⟨hmem, hvalid⟩ := List.mem_filter.mp hi
    exact (surface.finite_valid hmem hvalid).1
  · unfold extractValid
    dsimp only
    split_ifs
    · exact .inl rfl
    · exact .inr (by simp)

/-- Without rounding, an alignment on the device ends like one on the processor, and passes over the
same equations, when its own device calls succeed: whatever scans were aligned before it, and
whichever of their device calls failed. -/
theorem residentAlign_agrees (hceil : ∀ n : ℕ, FieldFunctions.ceil (n : K) = n)
    (nth : NthElement) (covarianceKernel : List (Vec3 (Exact K)) → UInt32 → Exact K →
      Option (List (Covariance (Exact K)))) {parameters : RegistrationParameters (Exact K)}
    (hparameters : validateRegistrationParameters parameters = .ok ())
    (hmethod : parameters.method ≠ .gicp) {reference : SurfaceView (Exact K)} {capacity : ℕ}
    {scheduler : Scheduler} {created : Buffers (Exact K) (Exact K)}
    (hcpu : Prepared.create host scheduler reference parameters capacity .cpu = .ok (P, created))
    (htree : ∀ q : Vec3 (Exact K), q.finite = true → FindsNearest host.pcl P.points q)
    {device : ℤ} {start prepared : DeviceState (Exact K) Unit} {search : Search (Exact K) (Exact K)}
    (hgpu : outcome (prepareSearch (deviceKernels nth .indexed covarianceKernel) device
      (extractValid (Exact K) reference) parameters capacity) start = (.ok search, prepared))
    (earlier : List (EarlierAlignment (Exact K) (Exact K))) (scan : OwnedSurface (Exact K))
    (hcapacity : (extractValid (Exact K) scan.view).points.length ≤ capacity)
    (initial : RigidTransform (Exact K)) {replies : List (Option String)}
    (hreplies : ∀ reply ∈ replies, reply = none) (launches : List (Launch (Exact K)))
    (buffers : Buffers (Exact K) (Exact K)) :
    let kernels := deviceKernels nth .indexed covarianceKernel
    let left := earlier.foldl (searchAfter kernels host.eigen parameters) search
    let onDevice := residentAlign kernels device host.eigen parameters scan.view initial
    let onProcessor := P.alignImpl host scheduler scan.view initial
    onDevice.outcome ⟨left, replies, launches⟩ = onProcessor.outcome buffers ∧
      onDevice.log ⟨left, replies, launches⟩ = onProcessor.log buffers := by
  intro kernels left onDevice onProcessor
  obtain ⟨rfl, hcloud, hpoints, hdevice⟩ := prepared_cpu hcpu
  have hprepared := prepareSearch_ok hmethod hgpu
  rw [← hcloud] at hprepared
  have hserves := searchAfter_serves kernels host.eigen P.parameters earlier hprepared.serves
  obtain ⟨hfinite, hnormals⟩ := extractValid_uploadable scan
  unfold onDevice onProcessor residentAlign Prepared.alignImpl
  dsimp only
  by_cases hempty : (extractValid (Exact K) scan.view).points = []
  · rw [if_pos hempty, if_pos hempty]
    exact ⟨rfl, rfl⟩
  rw [if_neg hempty, if_neg hempty]
  obtain ⟨uploaded, hupload, hserving, hholds⟩ := uploadScan_runs hserves kernels hempty hcapacity
    hnormals hfinite
  have hcomparable : Comparable host P (extractValid (Exact K) scan.view) :=
    { method := hmethod
      points := hpoints
      nonempty := by
        have hchecked := hprepared.checked
        unfold checkedReference at hchecked
        rw [hpoints, searchPoints_eq]
        intro hnone
        rw [if_pos hnone] at hchecked
        cases hchecked
      bounded := by
        rw [hpoints, searchPoints_eq]
        exact hprepared.bounded
      reference := hpoints ▸ hprepared.finite
      scan := hfinite
      radius := (admissible_of_validate hparameters).radius_nonneg
      tree := htree }
  have hmembers : scanCovariances host scheduler P (extractValid (Exact K) scan.view) = pure [] :=
    if_neg fun h => hmethod h.1
  have hagree := alignWith_agreesOn (residentEvaluator_agreesOn hcomparable hceil
    (admissible_of_validate hparameters) hprepared.checked nth covarianceKernel hserving hholds
    hempty scheduler []) host.eigen P.parameters initial
      (extractValid (Exact K) scan.view).points.length
      (fun iteration state equations => solverStep_finite host.eigen P.parameters iteration state
        equations) finitePose_rigid
  obtain ⟨after, hafter, hran⟩ := cudaAction_bind hupload
    (⟨rfl, hreplies⟩ : Responsive left ⟨left, replies, launches⟩)
    fun _ => alignWith (Exact K) (residentEvaluator kernels device P.parameters) host.eigen
      P.parameters initial (extractValid (Exact K) scan.view).points.length
  rw [hmembers, hdevice]
  constructor
  · exact (congrArg Prod.fst hran).trans (hagree.outcome_eq hafter trivial)
  · exact (congrArg (fun ended => ended.2.2) hran).trans (hagree.log after buffers hafter trivial)

end

theorem squaredDistance_fin {q p : Vec3 (Exact ℚ)} (hq : q.finite = true) (hp : p.finite = true) :
    squaredDistance (D := Exact ℚ) q p = (p.x - q.x) * (p.x - q.x) + (p.y - q.y) * (p.y - q.y) +
      (p.z - q.z) * (p.z - q.z) := by
  obtain ⟨u, rfl⟩ := exists_exactVec hq
  obtain ⟨v, rfl⟩ := exists_exactVec hp
  change Exact.fin _ = Exact.fin _
  congr 1
  ring

theorem mem_rankedByDistance {cloud : List (Vec3 (Exact ℚ))} {query : Vec3 (Exact ℚ)}
    (hcloud : ∀ p ∈ cloud, p.finite = true) (hquery : query.finite = true) {found : ℤ × Exact ℚ} :
    found ∈ rankedByDistance cloud query ↔ ∃ i < cloud.length,
      found = ((i : ℤ), squaredDistance query (cloud.getD i default)) := by
  unfold rankedByDistance
  simp only [List.mem_insertionSort, List.mem_map, List.mem_range]
  refine exists_congr fun i => and_congr_right fun hi => ?_
  have hmem : (cloud.getD i default).finite = true := by
    rw [List.getD_eq_getElem _ _ hi]
    exact hcloud _ (List.getElem_mem hi)
  rw [squaredDistance_fin hquery hmem, eq_comm]

/-- A search that keeps the nearest point finds it at every query. -/
theorem keepingNearest_findsNearest {cloud : List (Vec3 (Exact ℚ))} (hne : cloud ≠ [])
    (hcloud : ∀ p ∈ cloud, p.finite = true) {query : Vec3 (Exact ℚ)}
    (hquery : query.finite = true) : FindsNearest .keepingNearest cloud query := by
  have hsome : ∃ nearest, (rankedByDistance cloud query).head? = some nearest := by
    have hzero : ((0 : ℕ) : ℤ) ∈ (rankedByDistance cloud query).map Prod.fst :=
      List.mem_map.mpr ⟨_, (mem_rankedByDistance hcloud hquery).mpr
        ⟨0, List.length_pos_iff.mpr hne, rfl⟩, rfl⟩
    cases hlist : rankedByDistance cloud query with
    | nil => simp [hlist] at hzero
    | cons nearest rest => exact ⟨nearest, rfl⟩
  obtain ⟨nearest, hnearest⟩ := hsome
  obtain ⟨j, hj, hpair⟩ := (mem_rankedByDistance hcloud hquery).mp
    (List.mem_of_mem_head? hnearest)
  refine ⟨_, _, rfl, ?_, rfl, ?_, ?_⟩
  · cases hlist : rankedByDistance cloud query with
    | nil => simp [hlist] at hnearest
    | cons first rest => simp
  · intro c hc
    obtain ⟨found, hfound, rfl⟩ := List.mem_map.mp hc
    obtain ⟨i, hi, rfl⟩ := (mem_rankedByDistance hcloud hquery).mp (List.mem_of_mem_filter hfound)
    exact ⟨Int.natCast_nonneg i, Int.ofNat_lt.mpr hi⟩
  · intro i hi hleast
    refine List.mem_map.mpr ⟨_, List.mem_filter.mpr
      ⟨(mem_rankedByDistance hcloud hquery).mpr ⟨i, hi, rfl⟩, ?_⟩, rfl⟩
    refine decide_eq_true (.inr ⟨nearest, hnearest, ?_⟩)
    rw [hpair]
    exact hleast j hj

def nearestHost : Host (Exact ℚ) (Exact ℚ) := { exactHost with pcl := .keepingNearest }

/-- No covariances. -/
def noCovariances : List (Vec3 (Exact ℚ)) → UInt32 → Exact ℚ →
    Option (List (Covariance (Exact ℚ))) := fun _ _ _ => none

/-- An alignment of six points after one whose upload failed. -/
theorem residentAlign_agrees_line : ∃ P created search prepared,
    Prepared.create nearestHost .sequential (exactLine 6) exactParameters 6 .cpu =
        .ok (P, created) ∧
      outcome (prepareSearch (deviceKernels .sorting .indexed noCovariances) 0
        (extractValid (Exact ℚ) (exactLine 6)) exactParameters 6)
          (⟨(), [], []⟩ : DeviceState (Exact ℚ) Unit) = (.ok search, prepared) ∧
      let kernels := deviceKernels .sorting .indexed noCovariances
      let left := [(⟨exactLine 2, exactIdentity, 0, [none, some "out of memory"]⟩ :
        EarlierAlignment (Exact ℚ) (Exact ℚ))].foldl
          (searchAfter kernels nearestHost.eigen exactParameters) search
      (residentAlign kernels 0 nearestHost.eigen exactParameters (exactLine 6)
          exactIdentity).outcome ⟨left, [], []⟩ =
        (P.alignImpl nearestHost .sequential (exactLine 6) exactIdentity).outcome created ∧
      (residentAlign kernels 0 nearestHost.eigen exactParameters (exactLine 6)
          exactIdentity).log ⟨left, [], []⟩ =
        (P.alignImpl nearestHost .sequential (exactLine 6) exactIdentity).log created := by
  obtain ⟨⟨P, created⟩, hcpu⟩ := exists_ok (x := Prepared.create nearestHost .sequential
    (exactLine 6) exactParameters 6 .cpu) (by decide +kernel)
  have hok : (outcome (prepareSearch (deviceKernels .sorting .indexed noCovariances) 0
      (extractValid (Exact ℚ) (exactLine 6)) exactParameters 6)
        (⟨(), [], []⟩ : DeviceState (Exact ℚ) Unit)).1.isOk = true := by decide +kernel
  rcases hgpu : outcome (prepareSearch (deviceKernels .sorting .indexed noCovariances) 0
    (extractValid (Exact ℚ) (exactLine 6)) exactParameters 6)
      (⟨(), [], []⟩ : DeviceState (Exact ℚ) Unit) with ⟨result, prepared⟩
  rw [hgpu] at hok
  obtain ⟨search, rfl⟩ := exists_ok hok
  obtain ⟨-, hcloud, hpoints, -⟩ := prepared_cpu hcpu
  have hline : P.points = (exactLine 6).points := by
    rw [hpoints, hcloud]
    decide +kernel
  have htree : ∀ q : Vec3 (Exact ℚ), q.finite = true → FindsNearest .keepingNearest P.points q := by
    rw [hline]
    exact fun q hq => keepingNearest_findsNearest (by decide) (by decide) hq
  exact ⟨P, created, search, prepared, hcpu, rfl, residentAlign_agrees
    (fun n => by simp [FieldFunctions.ceil]) .sorting noCovariances (by decide +kernel) (by decide)
    hcpu htree hgpu _ ⟨exactLine 6, by decide +kernel⟩ (by decide +kernel) exactIdentity (by simp)
    [] created⟩

end PointcloudAd.Registration
