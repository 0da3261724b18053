import PointcloudAd.Pipeline.CachedInspection

/-!
# Validated configurations

The checks that later stages make of a configuration's values, each in its own place, pass for
every configuration that was validated: no stage fails because of its configuration.
-/

namespace PointcloudAd

open Library Registration

variable {F D : Type} [FloatArith F] [FloatArith D] [Floats F D]

section Registration

variable [OrderedFloat D] [LawfulLiterals D]

omit [FloatArith F] [Floats F D] in
theorem covarianceEpsilon_accepted :
    ¬ (¬ isFinite (lit (1 / 1000) : D) ∨ (lit (1 / 1000) : D) ≤ 0 ∨ 1 < (lit (1 / 1000) : D)) := by
  have hfinite : isFinite (lit (1 / 1000) : D) = true :=
    LawfulLiterals.lit_finite (by rw [abs_of_pos] <;> norm_num)
  have hpositive : (0 : D) < lit (1 / 1000) := LawfulLiterals.lit_pos (by norm_num)
  have hle : (lit (1 / 1000) : D) ≤ 1 := by
    rw [← LawfulLiterals.lit_one (α := D)]
    exact LawfulLiterals.lit_le (by norm_num)
  rintro (hn | hn | hn)
  · exact hn hfinite
  · exact (OrderedFloat.lt_iff.mp hpositive).2 hn
  · exact (OrderedFloat.lt_iff.mp hn).2 hle

omit [FloatArith F] [Floats F D] in
theorem validateRegistrationParameters_accepted (config : ValidatedRegistrationConfig D)
    {threads : UInt32} (hthreads : threads ≠ 0) :
    validateRegistrationParameters (toRegistrationParameters config threads) = .ok () := by
  have hiterations : ¬ (config.maxIterations = 0 ∨ 1000 < config.maxIterations) := by
    rintro (hzero | hlarge)
    · refine config.iterations (.inl ?_)
      rw [hzero]
      decide
    · exact config.iterations (.inr hlarge)
  have hmethod : registrationMethodName config.method ≠ "unknown" := by
    cases config.method <;> decide
  unfold validateRegistrationParameters toRegistrationParameters
  dsimp only
  rw [if_neg (by decide), if_neg hthreads, if_neg hmethod, if_neg, if_neg hiterations,
    if_neg config.maxCorrespondenceDistance.accepted, if_neg config.huberDelta.accepted,
    if_neg config.translationEpsilon.accepted, if_neg config.rotationEpsilon.accepted,
    if_neg config.residualEpsilon.accepted]
  · rfl
  · rintro (hfew | hmany | hepsilon)
    · exact absurd hfew (by decide)
    · exact absurd hmany (by decide)
    · exact covarianceEpsilon_accepted hepsilon

end Registration

omit [FloatArith D] [Floats F D] in
theorem checkIndex_code {points normals : List (Vec3 F)} {valid : List UInt8}
    {index : ℕ} {e : Error}
    (h : checkIndex points normals valid index = .error e) : e.code = .invalidInput := by
  unfold checkIndex at h
  dsimp only at h
  split_ifs at h <;> cases h <;> rfl

omit [FloatArith D] [Floats F D] in
theorem validateSurfaceData_code {points normals : List (Vec3 F)} {valid : List UInt8}
    {grid : Option GridTopology} {e : Error}
    (h : validateSurfaceData points normals valid grid = .error e) : e.code = .invalidInput := by
  unfold validateSurfaceData validateSurfaceDataAt at h
  split_ifs at h
  · cases h
    rfl
  · cases h
    rfl
  · cases h
    rfl
  · rcases bind_error_iff.mp h with hstorage | ⟨size, -, hrest⟩
    · cases grid with
      | none => cases hstorage
      | some grid =>
        unfold checkStorage checkGrid at hstorage
        dsimp only at hstorage
        split_ifs at hstorage <;> cases hstorage <;> rfl
    · rcases bind_error_iff.mp hrest with hchecks | ⟨_, -, hreturn⟩
      · obtain ⟨index, -, hindex⟩ := forM_error hchecks
        exact checkIndex_code hindex
      · cases hreturn

/-- A context over checked parameters is not refused for its backend. -/
theorem RegistrationContext.create_code {host : Host F D} {scheduler : Scheduler}
    {reference : SurfaceView F} {parameters : RegistrationParameters D} {capacity : ℕ}
    {backend : ComputeBackend} (hparameters : validateRegistrationParameters parameters = .ok ())
    (havailable : registrationBackendAvailable host backend = true) {e : Error}
    (h : RegistrationContext.create host scheduler reference parameters capacity
      backend = .error e) :
    e.code ≠ .invalidArgument := by
  unfold RegistrationContext.create at h
  rw [hparameters] at h
  rcases bind_error_iff.mp h with hfalse | ⟨_, -, h⟩
  · cases hfalse
  rcases bind_error_iff.mp h with hbounds | ⟨_, -, h⟩
  · unfold check at hbounds
    split_ifs at hbounds
    cases hbounds
    decide
  rcases bind_error_iff.mp h with hbackend | ⟨_, -, h⟩
  · rw [check, if_pos havailable] at hbackend
    cases hbackend
  rcases bind_error_iff.mp h with hsnapshot | ⟨snapshot, -, h⟩
  · have hcode : e.code = .invalidInput := by
      cases hvalidate : validateSurfaceData reference.points reference.normals reference.valid
          reference.grid with
      | error e' =>
        rw [OwnedSurface.create_error hvalidate] at hsnapshot
        cases hsnapshot
        exact validateSurfaceData_code hvalidate
      | ok size =>
        rw [OwnedSurface.create_ok hvalidate] at hsnapshot
        cases hsnapshot
    rw [hcode]
    decide
  dsimp only at h
  rcases bind_error_iff.mp h with hprepared | ⟨_, -, h⟩
  · obtain ⟨thrown, -, rfl⟩ := mapError_error_iff.mp hprepared
    cases thrown <;> exact fun he => by cases he
  · cases h

section Accepted

variable [OrderedFloat D]

theorem checkPreparation_accepted (options : ValidatedInspectionConfig D)
    {surface : SurfaceView F} {normalized : OwnedSurface F}
    (h : normalizeInPlace D surface = .ok normalized) :
    checkPreparation normalized.view options.preprocess.normalRadiusMm
      options.preprocess.normalMinNeighbors options.preprocess.boundaryRadiusMm .none
      options.execution.threadCount = .ok () := by
  have hunit : normalized.view.unit = .millimeter := normalizeSurface_unit h
  unfold checkPreparation
  rw [if_neg options.execution.threads, if_neg (not_not.mpr hunit),
    if_neg options.preprocess.normalRadius.accepted, if_neg options.preprocess.minNeighbors,
    if_neg options.preprocess.boundaryRadius.accepted, if_neg]
  rintro ⟨hmode, -⟩
  exact hmode rfl

omit [Floats F D] in
theorem euclideanCluster_accepted (options : ValidatedInspectionConfig D) (pcl : Pcl F D)
    (surface : SurfaceView F) (candidates : List ℕ) {e : Error}
    (h : euclideanCluster pcl surface candidates options.detection.clusterToleranceMm = .error e) :
    ∃ thrown, uniteNeighbors pcl (candidateCloud surface candidates)
      options.detection.clusterToleranceMm = .error thrown ∧ e = catchCluster thrown := by
  unfold euclideanCluster at h
  rw [if_neg options.detection.clusterTolerance.accepted] at h
  split_ifs at h
  dsimp only at h
  obtain ⟨thrown, hthrown, rfl⟩ := mapError_error_iff.mp h
  refine ⟨thrown, ?_, rfl⟩
  cases hunited : uniteNeighbors pcl (candidateCloud surface candidates)
      options.detection.clusterToleranceMm with
  | error e =>
    rw [hunited] at hthrown
    cases hthrown
    rfl
  | ok sets =>
    rw [hunited] at hthrown
    cases hthrown

/-- No later stage refuses a configuration that was validated for another backend than the GPU. -/
theorem config_accepted [LawfulLiterals D] {config : InspectionConfig D}
    {options : ValidatedInspectionConfig D} (hvalid : validateConfig config = .ok options)
    (hbackend : config.execution.backend ≠ .gpu) (host : Host F D) (scheduler : Scheduler) :
    validateRegistrationParameters (toRegistrationParameters options.registration
        options.execution.threadCount) = .ok () ∧
      (∀ (surface : SurfaceView F) (normalized : OwnedSurface F),
        normalizeInPlace D surface = .ok normalized →
          checkPreparation normalized.view options.preprocess.normalRadiusMm
            options.preprocess.normalMinNeighbors options.preprocess.boundaryRadiusMm .none
            options.execution.threadCount = .ok ()) ∧
      (∀ (reference : SurfaceView F) (capacity : ℕ),
        RegistrationContext.create host scheduler reference (toRegistrationParameters
            options.registration options.execution.threadCount) capacity options.execution.backend ≠
          .error (contextError "requested registration backend is unavailable" .invalidArgument)) ∧
      ∀ (surface : SurfaceView F) (candidates : List ℕ) (e : Error),
        euclideanCluster host.pcl surface candidates options.detection.clusterToleranceMm =
            .error e →
          ∃ thrown, uniteNeighbors host.pcl (candidateCloud surface candidates)
            options.detection.clusterToleranceMm = .error thrown ∧ e = catchCluster thrown := by
  have hparameters := validateRegistrationParameters_accepted options.registration
    options.execution.threads
  have havailable : registrationBackendAvailable host options.execution.backend = true := by
    rw [validateConfig_backend hvalid]
    unfold registrationBackendAvailable
    cases hkind : config.execution.backend with
    | cpu => rfl
    | gpu => exact absurd hkind hbackend
    | automatic => rfl
  refine ⟨hparameters, fun surface normalized h => checkPreparation_accepted options h,
    fun reference capacity hcreate => ?_,
    fun surface candidates e h => euclideanCluster_accepted options host.pcl surface candidates h⟩
  exact RegistrationContext.create_code hparameters havailable hcreate rfl

end Accepted

/-- A host whose searches within a radius throw. -/
def throwingHost : Host (Exact ℚ) (Exact ℚ) :=
  { exactHost with
    pcl := { exactHost.pcl with radiusSearch := fun _ _ _ => .error (.exception "search failed") }
    mapOrder_perm := exactHost_order }

/-- The configuration of a plate. The clusters of such a host fail, for its searches. -/
theorem config_accepted_plate : ∃ options, validateConfig exactConfig = .ok options ∧
    validateRegistrationParameters (toRegistrationParameters options.registration
      options.execution.threadCount) = .ok () ∧
    (∃ normalized, normalizeInPlace (Exact ℚ) (exactGrid 3 2 4 true fun _ _ => 0) =
        .ok normalized ∧
      checkPreparation normalized.view options.preprocess.normalRadiusMm
        options.preprocess.normalMinNeighbors options.preprocess.boundaryRadiusMm .none
        options.execution.threadCount = .ok ()) ∧
    RegistrationContext.create throwingHost .sequential (exactGrid 3 2 4 true fun _ _ => 0)
        (toRegistrationParameters options.registration options.execution.threadCount) 6
        options.execution.backend ≠
      .error (contextError "requested registration backend is unavailable" .invalidArgument) ∧
    ∃ thrown, euclideanCluster throwingHost.pcl (exactGrid 3 2 4 true fun _ _ => 0) [0, 1]
        options.detection.clusterToleranceMm = .error (catchCluster thrown) := by
  obtain ⟨options, hoptions⟩ : ∃ options, validateConfig exactConfig = .ok options :=
    exists_ok (by decide +kernel)
  obtain ⟨normalized, hnormalized⟩ : ∃ normalized, normalizeInPlace (Exact ℚ)
      (exactGrid 3 2 4 true fun _ _ => 0) = .ok normalized := exists_ok (by decide +kernel)
  obtain ⟨hparameters, hpreparation, hcontext, hcluster⟩ :=
    config_accepted hoptions (by decide) throwingHost .sequential
  have herror : ∃ e, euclideanCluster throwingHost.pcl (exactGrid 3 2 4 true fun _ _ => 0) [0, 1]
      options.detection.clusterToleranceMm = .error e := by
    unfold euclideanCluster
    rw [if_neg options.detection.clusterTolerance.accepted]
    exact ⟨_, rfl⟩
  obtain ⟨e, he⟩ := herror
  obtain ⟨thrown, -, rfl⟩ := hcluster _ _ _ he
  exact ⟨options, hoptions, hparameters, ⟨normalized, hnormalized, hpreparation _ _ hnormalized⟩,
    hcontext _ 6, thrown, he⟩

end PointcloudAd
