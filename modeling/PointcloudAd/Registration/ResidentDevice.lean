import PointcloudAd.Registration.ResidentAgreement

/-!
# The resident search as a device

A device whose calls all succeed: it prepares a search for a reference, uploads the scan of a pass
and evaluates it. Without rounding its passes end like those on the processor, so an alignment does
not show which of the two it was prepared for.
-/

namespace PointcloudAd.Registration

open Library Library.Faulty Cuda

section

variable {F D σ τ : Type}

theorem runs_withObject {o : σ} {object left : τ} {m : Cuda D τ Unit} (h : Runs object m () left) :
    Runs o (withObject object m) left o := by
  intro s hs hreplies
  obtain ⟨s', hrun, hleft, hreplies'⟩ := h ⟨object, s.replies, s.launches⟩ rfl hreplies
  have hended : outcome (withObject object m) s =
      let ended := outcome m ⟨object, s.replies, s.launches⟩
      (ended.1.map fun _ => ended.2.object,
        { s with replies := ended.2.replies, launches := ended.2.launches }) := rfl
  rw [hended, hrun, ← hleft]
  exact ⟨{ s with replies := s'.replies, launches := s'.launches }, rfl, hs, hreplies'⟩

theorem runs_ofExcept {o : σ} {α : Type} {x : Except Exn α} {a : α} (h : x = .ok a) :
    Runs (D := D) o (Faulty.ofExcept x) a o := by
  rw [h]
  exact .pure o a

variable [FloatArith F] [FloatArith D]

theorem createSearch_runs {o : σ} {reference : List (Vec3 F)} {capacity : ℕ} (device : ℤ)
    (strategy : SearchStrategy) (hne : reference ≠ []) (hbounded : reference.length ≤ 2 ^ 31 - 1)
    (hfinite : ∀ point ∈ reference, point.finite = true) (hpositive : capacity ≠ 0)
    (hcapacity : capacity ≤ 2 ^ 31 - 1) :
    Runs (D := D) o (createSearch device reference capacity strategy)
      (.created strategy reference capacity device) o := by
  unfold createSearch
  exact (Runs.require ⟨hne, hpositive, hbounded, hcapacity⟩ _).bind
    ((Runs.require hfinite _).bind ((Runs.deviceCallList _).bind (.pure o _)))

omit [FloatArith F] in
theorem prepareResident_runs {reference : List (Vec3 F)} (capacity : ℕ) (device : ℤ)
    (strategy : SearchStrategy) {normals : List (Vec3 D)}
    (hnormals : normals = [] ∨ normals.length = reference.length) :
    ∃ left, Runs (.created strategy reference capacity device) (prepareResident normals) ()
      (left : SearchMembers F D) := by
  unfold prepareResident
  refine ⟨_, Runs.readObject.bind ((Runs.require ?_ _).bind ((Runs.require hnormals _).bind
    ((Runs.deviceCalls _).bind (.updateObject _))))⟩
  simp [SearchMembers.created]

variable [Floats F D]

/-- A checked reference of bounded size is prepared, and its search serves it. -/
theorem prepareSearch_runs (kernels : CudaKernels F D) (device : ℤ) {cloud : ValidatedCloud D}
    {parameters : RegistrationParameters D} {capacity : ℕ} (hmethod : parameters.method ≠ .gicp)
    (hchecked : checkedReference cloud parameters = .ok ())
    (hbounded : cloud.points.length ≤ 2 ^ 31 - 1)
    (hfinite : ∀ point ∈ (searchPoints cloud : List (Vec3 F)), point.finite = true)
    (hnormals : cloud.normals = [] ∨ cloud.normals.length = cloud.points.length)
    (hpositive : capacity ≠ 0) (hcapacity : capacity ≤ 2 ^ 31 - 1) (o : σ) :
    ∃ search, Runs o (prepareSearch kernels device cloud parameters capacity) search o ∧
      ServesAlone (searchPoints cloud : List (Vec3 F)) cloud.normals capacity device search := by
  have hlength : (searchPoints cloud : List (Vec3 F)).length = cloud.points.length :=
    List.length_map _
  have hne : (searchPoints cloud : List (Vec3 F)) ≠ [] := by
    intro hnone
    have hpoints : cloud.points = [] := List.map_eq_nil_iff.mp hnone
    unfold checkedReference at hchecked
    rw [if_pos hpoints] at hchecked
    cases hchecked
  obtain ⟨left, hleft⟩ := prepareResident_runs capacity device .indexed (hlength ▸ hnormals)
  have hruns : Runs o (prepareSearch kernels device cloud parameters capacity)
      (⟨left, none⟩ : Search F D) o := by
    unfold prepareSearch
    simp only [if_neg hmethod]
    exact (runs_ofExcept hchecked).bind ((createSearch_runs device .indexed hne
      (by rwa [hlength]) hfinite hpositive hcapacity).bind
        ((runs_withObject hleft).bind (.pure o _)))
  obtain ⟨s', hrun, -⟩ := hruns ⟨o, [], []⟩ rfl (by simp)
  exact ⟨_, hruns, (prepareSearch_ok hmethod hrun).serves⟩

end

theorem cudaAction_map {D σ ω α β : Type} (m : Cuda D σ α) (f : α → β) (s : DeviceState D σ) :
    (cudaAction m >>= fun a => pure (f a) : Action (DeviceState D σ) ω Exn β).outcome s =
      (outcome m s).1.map f := by
  change (Action.bind (cudaAction m) (fun a => Action.pure (f a)) s).1 = _
  unfold Action.bind cudaAction
  rcases outcome m s with ⟨_ | a, s'⟩ <;> rfl

section

variable {F D : Type} [FloatArith F] [FloatArith D] [Floats F D]

/-- The parameters that a pass is made of. -/
def passParameters (pass : DevicePass D) : RegistrationParameters D :=
  { method := pass.method
    maxCorrespondenceDistanceMm := pass.bound
    huberDeltaMm := pass.huberDelta
    covarianceNeighbors := pass.covarianceNeighbors
    covarianceEpsilon := pass.covarianceEpsilon }

/-- A device whose calls succeed. A pass is evaluated over a search that is prepared for its
reference and has room for its scan. -/
def residentDevice (kernels : CudaKernels F D) : Device D where
  available := true
  prepare cloud method neighbors epsilon :=
    (outcome (prepareSearch kernels 0 cloud
      { method, covarianceNeighbors := neighbors, covarianceEpsilon := epsilon } 1)
        (⟨(), [], []⟩ : DeviceState D Unit)).1.map fun _ => ()
  evaluate pass := do
    let search ← (outcome (prepareSearch kernels 0 pass.reference (passParameters pass)
      pass.scan.points.length) (⟨(), [], []⟩ : DeviceState D Unit)).1
    let values ← (outcome (do
        uploadScan kernels 0 pass.scan.points pass.scan.normals
        evaluate kernels 0 (passArguments (passParameters pass) pass.pose pass.finalMetrics))
      (⟨search, [], []⟩ : DeviceState D (Search F D))).1
    return equationsOf F values

end

section

variable {K : Type} [LinearOrder K] [Field K] [FieldFunctions K] [IsStrictOrderedRing K]
  {host : Host (Exact K) (Exact K)} {P : Prepared (Exact K) (Exact K)}
  {scan : ValidatedCloud (Exact K)}

/-- What a prepared reference gives a device for a pass over a scan. -/
def passOver (P : Prepared (Exact K) (Exact K)) (scan : ValidatedCloud (Exact K))
    (finalMetrics : Bool) (pose : Matrix4 (Exact K)) : DevicePass (Exact K) where
  reference := P.referenceCloud
  scan := scan
  method := P.parameters.method
  covarianceNeighbors := P.parameters.covarianceNeighbors
  covarianceEpsilon := P.parameters.covarianceEpsilon
  pose := pose
  bound := P.parameters.maxCorrespondenceDistanceMm
  huberDelta := P.parameters.huberDeltaMm
  finalMetrics := finalMetrics

/-- What a reference and a scan have passed when an alignment evaluates its passes. -/
structure Passable (P : Prepared (Exact K) (Exact K)) (scan : ValidatedCloud (Exact K)) :
    Prop where
  parameters : Admissible P.parameters
  checked : checkedReference P.referenceCloud P.parameters = .ok ()
  referenceNormals : P.referenceCloud.normals = [] ∨
    P.referenceCloud.normals.length = P.referenceCloud.points.length
  scanNormals : scan.normals = [] ∨ scan.normals.length = scan.points.length
  nonempty : scan.points ≠ []
  capacity : scan.points.length ≤ 2 ^ 31 - 1

omit [IsStrictOrderedRing K] in
/-- A pass on the device is the evaluation of a search that serves the reference and holds the
scan. -/
theorem residentDevice_evaluate (h : Comparable host P scan) (hpass : Passable P scan)
    (kernels : CudaKernels (Exact K) (Exact K)) :
    ∃ impl s, Responsive impl s ∧
      ServesAlone (searchPoints P.referenceCloud) P.referenceCloud.normals scan.points.length 0
        impl ∧ HoldsScan impl (scan.points, scan.normals) ∧
      ∀ finalMetrics pose,
        (residentDevice kernels).evaluate (passOver P scan finalMetrics pose) =
          (outcome (evaluate kernels 0 (passArguments P.parameters pose finalMetrics)) s).1.map
            (equationsOf (Exact K)) := by
  have hpositive : scan.points.length ≠ 0 :=
    fun hzero => hpass.nonempty (List.length_eq_zero_iff.mp hzero)
  have hbounded : P.referenceCloud.points.length ≤ 2 ^ 31 - 1 := by
    have hpoints := h.bounded
    rwa [h.points, searchPoints, List.length_map] at hpoints
  have hfinite : ∀ p ∈ (searchPoints P.referenceCloud : List (Vec3 (Exact K))),
      p.finite = true := by
    rw [← h.points]
    exact h.reference
  have hprepares : ∃ search, Runs () (prepareSearch kernels 0 P.referenceCloud
        (passParameters (passOver P scan false fun _ => 0)) scan.points.length) search () ∧
      ServesAlone (searchPoints P.referenceCloud) P.referenceCloud.normals scan.points.length 0
        search :=
    prepareSearch_runs kernels 0 h.method hpass.checked hbounded hfinite hpass.referenceNormals
      hpositive hpass.capacity ()
  obtain ⟨search, hprepare, hserves⟩ := hprepares
  obtain ⟨after, hupload, hserving, hholds⟩ := uploadScan_runs hserves kernels hpass.nonempty le_rfl
    hpass.scanNormals h.scan
  obtain ⟨prepared, hprepared, -⟩ := hprepare ⟨(), [], []⟩ rfl (by simp)
  obtain ⟨s, huploaded, hs, hreplies⟩ := hupload ⟨search, [], []⟩ rfl (by simp)
  refine ⟨after, s, ⟨hs, hreplies⟩, hserving, hholds, fun finalMetrics pose => ?_⟩
  have hsearch : (outcome (prepareSearch kernels 0 P.referenceCloud
      (passParameters (passOver P scan finalMetrics pose)) scan.points.length)
        (⟨(), [], []⟩ : DeviceState (Exact K) Unit)).1 = .ok search :=
    congrArg Prod.fst hprepared
  unfold residentDevice
  dsimp only
  change (outcome (prepareSearch kernels 0 P.referenceCloud
      (passParameters (passOver P scan finalMetrics pose)) scan.points.length)
        (⟨(), [], []⟩ : DeviceState (Exact K) Unit)).1 >>= _ = _
  have hscan : outcome (uploadScan kernels 0 (passOver P scan finalMetrics pose).scan.points
      (passOver P scan finalMetrics pose).scan.normals)
        (⟨search, [], []⟩ : DeviceState (Exact K) (Search (Exact K) (Exact K))) = (.ok (), s) :=
    huploaded
  rw [hsearch, ok_bind, outcome_bind, hscan]
  change (outcome (evaluate kernels 0 (passArguments P.parameters pose finalMetrics)) s).1 >>= _ =
    _
  cases (outcome (evaluate kernels 0 (passArguments P.parameters pose finalMetrics)) s).1 <;> rfl

/-- The passes on the device end like those on the processor. -/
theorem deviceEvaluator_agreesOn (h : Comparable host P scan) (hpass : Passable P scan)
    (hceil : ∀ n : ℕ, FieldFunctions.ceil (n : K) = n) (nth : NthElement)
    (covarianceKernel : List (Vec3 (Exact K)) → UInt32 → Exact K →
      Option (List (Covariance (Exact K)))) (scheduler : Scheduler)
    (covariances : List (Mat3 (Exact K))) :
    (deviceEvaluator (residentDevice (deviceKernels nth .indexed covarianceKernel)) P
        scan).AgreesOn (fun _ => True) (fun _ => True) FinitePose
      (cpuEvaluator host scheduler P scan covariances) := by
  obtain ⟨impl, s, hs, hserving, hholds, hevaluate⟩ := residentDevice_evaluate h hpass
    (deviceKernels nth .indexed covarianceKernel)
  have hagrees := residentEvaluator_agreesOn h hceil hpass.parameters hpass.checked nth
    covarianceKernel hserving hholds hpass.nonempty scheduler covariances
  have hsilent := cpuEvaluator_silent host scheduler P scan covariances
  refine ⟨fun pose hpose => ?_, fun pose hpose => ?_⟩
  · refine .of_outcome (fun _ => rfl) (hsilent.equations pose) (fun _ _ => trivial)
      (fun _ _ => trivial) ?_
    intro s' buffers _ _
    rw [← (hagrees.equations pose hpose).outcome_eq (t := buffers) hs trivial]
    exact (hevaluate false pose).trans (cudaAction_map _ _ s).symm
  · refine .of_outcome ?_ (hsilent.metrics pose) (fun _ _ => trivial) (fun _ _ => trivial) ?_
    · exact Action.Silent.bind (fun _ => rfl) fun _ => .pure _
    · intro s' buffers _ _
      rw [← (hagrees.metrics pose hpose).outcome_eq (t := buffers) hs trivial]
      have hlifted : ((deviceEvaluator (residentDevice (deviceKernels nth .indexed
          covarianceKernel)) P scan).metrics pose).outcome s' =
            ((residentDevice (deviceKernels nth .indexed covarianceKernel)).evaluate
              (passOver P scan true pose)).map fun equations =>
                (equations.residual, equations.count) :=
        Action.outcome_lift_map _ _ s'
      rw [hlifted, hevaluate]
      refine Eq.trans ?_ (cudaAction_map _ (fun values : Fin 45 → Exact K =>
        (values 42, truncated (Exact K) (values 43))) s).symm
      cases (outcome (evaluate (deviceKernels nth .indexed covarianceKernel) 0
        (passArguments P.parameters pose true)) s).1 <;> rfl

/-- A preparation that evaluates its passes on a device. -/
def Prepared.onDevice (P : Prepared (Exact K) (Exact K)) (device : Device (Exact K)) :
    Prepared (Exact K) (Exact K) := { P with device := some device }

omit [IsStrictOrderedRing K] in
/-- A device that prepares the reference is all that a preparation for it needs. -/
theorem Prepared.create_gpu {device : Device (Exact K)} (hdevice : host.device = some device)
    {parameters : RegistrationParameters (Exact K)} (hmethod : parameters.method ≠ .gicp)
    {reference : SurfaceView (Exact K)}
    (hprepare : checkedReference (extractValid (Exact K) reference) parameters = .ok () →
      device.prepare (extractValid (Exact K) reference) parameters.method
        parameters.covarianceNeighbors parameters.covarianceEpsilon = .ok ())
    (scheduler : Scheduler) (capacity : ℕ) :
    Prepared.create host scheduler reference parameters capacity .gpu =
      (Prepared.create host scheduler reference parameters capacity .cpu).map fun created =>
        (created.1.onDevice device, created.2) := by
  unfold Prepared.create prepareCovariances
  simp only [if_neg fun h : parameters.method = .gicp ∧ _ => hmethod h.1]
  cases selectCpuKernel host.avx2Available parameters.cpuKernel with
  | error e => rfl
  | ok kernel =>
    rw [ok_bind, ok_bind]
    cases CpuExecutor.create parameters.threadCount (max capacity reference.size) with
    | error e => rfl
    | ok executor =>
      rw [ok_bind, ok_bind]
      cases hchecked : checkedReference (extractValid (Exact K) reference) parameters with
      | error e => rfl
      | ok _ =>
        have hgpu : searchDevice host.device .gpu = .ok (some device) := by
          rw [hdevice]
          rfl
        have hcpu : searchDevice host.device .cpu = .ok none := rfl
        have hprepared : prepareDevice (some device) (extractValid (Exact K) reference)
            parameters = .ok () := hprepare hchecked
        rw [ok_bind, ok_bind, hgpu, hcpu, ok_bind, ok_bind, hprepared]
        rfl

omit [IsStrictOrderedRing K] in
theorem extractValid_length (surface : OwnedSurface (Exact K)) :
    (extractValid (Exact K) surface.view).points.length ≤ surface.view.size := by
  unfold extractValid SurfaceView.size
  rw [List.length_map, ← surface.shaped.length_indices]
  exact List.length_filter_le _ _

omit [IsStrictOrderedRing K] in
theorem residentDevice_prepare (kernels : CudaKernels (Exact K) (Exact K))
    {parameters : RegistrationParameters (Exact K)} (hmethod : parameters.method ≠ .gicp)
    {reference : OwnedSurface (Exact K)} (hsize : reference.view.size ≤ int32Max)
    (hchecked : checkedReference (extractValid (Exact K) reference.view) parameters = .ok ()) :
    (residentDevice kernels).prepare (extractValid (Exact K) reference.view) parameters.method
      parameters.covarianceNeighbors parameters.covarianceEpsilon = .ok () := by
  obtain ⟨hfinite, hnormals⟩ := extractValid_uploadable reference
  let passed : RegistrationParameters (Exact K) :=
    { method := parameters.method
      covarianceNeighbors := parameters.covarianceNeighbors
      covarianceEpsilon := parameters.covarianceEpsilon }
  have hprepares : ∃ search, Runs () (prepareSearch kernels 0
      (extractValid (Exact K) reference.view) passed 1) search () ∧ _ :=
    prepareSearch_runs kernels 0 hmethod hchecked ((extractValid_length reference).trans hsize)
      (by rwa [searchPoints_eq]) hnormals one_ne_zero (by decide) ()
  obtain ⟨search, hruns, -⟩ := hprepares
  obtain ⟨s, hrun, -⟩ := hruns ⟨(), [], []⟩ rfl (by simp)
  have hok : (outcome (prepareSearch kernels 0 (extractValid (Exact K) reference.view) passed 1)
      (⟨(), [], []⟩ : DeviceState (Exact K) Unit)).1 = .ok search := congrArg Prod.fst hrun
  exact congrArg (Except.map fun _ => ()) hok

omit [IsStrictOrderedRing K] in
theorem checkedReference_of_create {parameters : RegistrationParameters (Exact K)}
    {reference : SurfaceView (Exact K)} {capacity : ℕ} {backend : ComputeBackend}
    {scheduler : Scheduler} {buffers : Buffers (Exact K) (Exact K)}
    (h : Prepared.create host scheduler reference parameters capacity backend = .ok (P, buffers)) :
    checkedReference (extractValid (Exact K) reference) parameters = .ok () := by
  unfold Prepared.create at h
  simp only [bind_ok_iff] at h
  obtain ⟨kernel, -, executor, -, _, hchecked, -⟩ := h
  exact hchecked

/-- A tree that finds the nearest points of every cloud. -/
def FindsEveryNearest (pcl : Pcl (Exact K) (Exact K)) : Prop :=
  ∀ cloud : List (Vec3 (Exact K)), cloud ≠ [] → (∀ p ∈ cloud, p.finite = true) →
    ∀ q : Vec3 (Exact K), q.finite = true → FindsNearest pcl cloud q

/-- An alignment on the device ends like one on the processor, whatever the buffers hold. -/
theorem align_onDevice (hceil : ∀ n : ℕ, FieldFunctions.ceil (n : K) = n) (nth : NthElement)
    (covarianceKernel : List (Vec3 (Exact K)) → UInt32 → Exact K →
      Option (List (Covariance (Exact K)))) (htree : FindsEveryNearest host.pcl)
    {parameters : RegistrationParameters (Exact K)}
    (hparameters : validateRegistrationParameters parameters = .ok ())
    (hmethod : parameters.method ≠ .gicp) {reference : OwnedSurface (Exact K)}
    (hreference : reference.view.size ≤ int32Max) {capacity : ℕ} {scheduler : Scheduler}
    {created : Buffers (Exact K) (Exact K)}
    (hcpu : Prepared.create host scheduler reference.view parameters capacity .cpu =
      .ok (P, created)) {scan : OwnedSurface (Exact K)} (hscan : scan.view.size ≤ int32Max)
    (initial : RigidTransform (Exact K)) (buffers buffers' : Buffers (Exact K) (Exact K)) :
    ((P.onDevice (residentDevice (deviceKernels nth .indexed covarianceKernel))).align host
        scheduler buffers scan.view initial).1 =
      (P.align host scheduler buffers' scan.view initial).1 := by
  obtain ⟨rfl, hcloud, hpoints, hdevice⟩ := prepared_cpu hcpu
  have hchecked := checkedReference_of_create hcpu
  rw [← hcloud] at hchecked
  obtain ⟨hfinite, hnormals⟩ := extractValid_uploadable scan
  obtain ⟨hreferenceFinite, hreferenceNormals⟩ := extractValid_uploadable reference
  unfold Prepared.align
  refine congrArg (caught catchBackend) ?_
  change (Prepared.alignImpl host scheduler _ scan.view initial).outcome buffers =
    (Prepared.alignImpl host scheduler _ scan.view initial).outcome buffers'
  unfold Prepared.alignImpl
  dsimp only
  by_cases hempty : (extractValid (Exact K) scan.view).points = []
  · rw [if_pos hempty, if_pos hempty]
    rfl
  rw [if_neg hempty, if_neg hempty]
  have hne : P.points ≠ [] := by
    rw [hpoints, searchPoints_eq]
    intro hnone
    unfold checkedReference at hchecked
    rw [if_pos hnone] at hchecked
    cases hchecked
  have hall : ∀ p ∈ P.points, p.finite = true := by
    rw [hpoints, searchPoints_eq, hcloud]
    exact hreferenceFinite
  have hcomparable : Comparable host P (extractValid (Exact K) scan.view) :=
    { method := hmethod
      points := hpoints
      nonempty := hne
      bounded := by
        rw [hpoints, searchPoints_eq, hcloud]
        exact (extractValid_length reference).trans hreference
      reference := hall
      scan := hfinite
      radius := (admissible_of_validate hparameters).radius_nonneg
      tree := htree P.points hne hall }
  have hpassable : Passable P (extractValid (Exact K) scan.view) :=
    { parameters := admissible_of_validate hparameters
      checked := hchecked
      referenceNormals := hcloud ▸ hreferenceNormals
      scanNormals := hnormals
      nonempty := hempty
      capacity := (extractValid_length scan).trans hscan }
  have hmembers : scanCovariances host scheduler P (extractValid (Exact K) scan.view) = pure [] :=
    if_neg fun h => hmethod h.1
  have hnone : scanCovariances host scheduler
      (P.onDevice (residentDevice (deviceKernels nth .indexed covarianceKernel)))
        (extractValid (Exact K) scan.view) = pure [] := if_neg fun h => hmethod h.1
  rw [hmembers, hnone, hdevice]
  exact (alignWith_agreesOn (deviceEvaluator_agreesOn hcomparable hpassable hceil nth
    covarianceKernel scheduler []) host.eigen P.parameters initial
      (extractValid (Exact K) scan.view).points.length
      (fun iteration state equations => solverStep_finite host.eigen P.parameters iteration state
        equations) finitePose_rigid).outcome_eq (s := buffers) (t := buffers') trivial trivial

end

end PointcloudAd.Registration
