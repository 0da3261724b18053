import PointcloudAd.Backends.Host
import PointcloudAd.Core.Surface

/-!
# The registration contract

What a registration is asked, the checks of its arguments, and the metrics it returns. Metrics
carry the ranges that their constructor checks.
-/

namespace PointcloudAd

open Library

variable {F D : Type} [FloatArith F] [FloatArith D]

def registrationError (field reason : String) : Error :=
  ⟨.invalidInput, .registration, "invalid registration contract",
    [("field", field), ("reason", reason)]⟩

structure RegistrationParameters (D : Type) [FloatArith D] where
  maxIterations : UInt32 := 0
  maxCorrespondenceDistanceMm : D := 0
  huberDeltaMm : D := 0
  translationEpsilonMm : D := 0
  rotationEpsilonRad : D := 0
  residualEpsilonMm : D := 0
  method : RegistrationMethod := .pointToPlane
  covarianceNeighbors : UInt32 := 12
  covarianceEpsilon : D := lit (1 / 1000)
  threadCount : UInt32 := 1
  cpuKernel : CpuKernel := .automatic

def RegistrationParameters.withThreads (parameters : RegistrationParameters D)
    (threadCount : UInt32) : RegistrationParameters D :=
  { parameters with threadCount := threadCount }

/-- The first field that fails its check is named. -/
def validateRegistrationParameters (parameters : RegistrationParameters D) : Result Unit :=
  if cpuKernelName parameters.cpuKernel = "unknown" then
    .error (registrationError "parameters.cpu_kernel" "unsupported CPU kernel")
  else if parameters.threadCount = 0 then
    .error (registrationError "parameters.thread_count" "must be positive")
  else if registrationMethodName parameters.method = "unknown" then
    .error (registrationError "parameters.method" "unsupported method")
  else if parameters.covarianceNeighbors < 3 ∨ 1024 < parameters.covarianceNeighbors ∨
      ¬ isFinite parameters.covarianceEpsilon ∨ parameters.covarianceEpsilon ≤ 0 ∨
      1 < parameters.covarianceEpsilon then
    .error (registrationError "parameters.covariance"
      "neighbors must be in [3, 1024] and epsilon in (0, 1]")
  else if parameters.maxIterations = 0 ∨ 1000 < parameters.maxIterations then
    .error (registrationError "parameters.max_iterations" "must be in [1, 1000]")
  else do
    let positive (field : String) (value : D) : Result Unit :=
      if ¬ isFinite value ∨ value ≤ 0 then
        .error (registrationError field "must be finite and positive")
      else .ok ()
    positive "parameters.max_correspondence_distance_mm" parameters.maxCorrespondenceDistanceMm
    positive "parameters.huber_delta_mm" parameters.huberDeltaMm
    positive "parameters.translation_epsilon_mm" parameters.translationEpsilonMm
    positive "parameters.rotation_epsilon_rad" parameters.rotationEpsilonRad
    positive "parameters.residual_epsilon_mm" parameters.residualEpsilonMm

/-- The checks of `RegistrationInput::create`. -/
def checkRegistrationInput (reference scan : SurfaceView F) (initial : RigidTransform D)
    (parameters : RegistrationParameters D) : Result Unit :=
  if reference.size = 0 then
    .error (registrationError "reference" "must contain at least one point")
  else if scan.size = 0 then
    .error (registrationError "scan" "must contain at least one point")
  else if reference.unit ≠ .millimeter then
    .error (registrationError "reference.unit" "must be normalized to millimetres")
  else if scan.unit ≠ .millimeter then
    .error (registrationError "scan.unit" "must be normalized to millimetres")
  else if initial.sourceFrame ≠ scan.frame ∨ initial.targetFrame ≠ reference.frame then
    .error (registrationError "initial_transform" "frame direction must match scan -> reference")
  else validateRegistrationParameters parameters

inductive RegistrationConvergence where
  | converged | notConverged | degenerateInput
  deriving DecidableEq, Repr

structure RegistrationMetrics (D : Type) [FloatArith D] where
  finalTransform : RigidTransform D
  convergence : RegistrationConvergence
  iterations : ℕ
  validPairs : ℕ
  fitness : D
  inlierRmseMm : D
  translationDeltaMm : D
  rotationDeltaDeg : D
  fitnessRange : inRange 0 1 fitness
  inlierRmse : nonnegativeFinite inlierRmseMm
  translationDelta : nonnegativeFinite translationDeltaMm
  rotationDelta : inRange 0 (lit 180) rotationDeltaDeg

def RegistrationMetrics.create (finalTransform : RigidTransform D)
    (convergence : RegistrationConvergence) (iterations validPairs : ℕ)
    (fitness inlierRmseMm translationDeltaMm rotationDeltaDeg : D) :
    Result (RegistrationMetrics D) :=
  if hf : inRange 0 1 fitness then
    if hi : nonnegativeFinite inlierRmseMm then
      if ht : nonnegativeFinite translationDeltaMm then
        if hr : inRange 0 (lit 180) rotationDeltaDeg then
          .ok ⟨finalTransform, convergence, iterations, validPairs, fitness, inlierRmseMm,
            translationDeltaMm, rotationDeltaDeg, hf, hi, ht, hr⟩
        else .error (registrationError "rotation_delta_deg" "must be in [0, 180]")
      else .error (registrationError "translation_delta_mm" "must be finite and non-negative")
    else .error (registrationError "inlier_rmse_mm" "must be finite and non-negative")
  else .error (registrationError "fitness" "must be in [0, 1]")

/-- Metrics that are returned are the ones that were asked for. -/
theorem RegistrationMetrics.eq_of_create {transform : RigidTransform D}
    {class' : RegistrationConvergence} {iterations pairs : ℕ}
    {fitness rmse translation rotation : D}
    {metrics : RegistrationMetrics D}
    (h : RegistrationMetrics.create transform class' iterations pairs fitness rmse translation
      rotation = .ok metrics) :
    metrics.finalTransform = transform ∧ metrics.convergence = class' ∧
      metrics.iterations = iterations ∧ metrics.validPairs = pairs ∧ metrics.fitness = fitness ∧
      metrics.inlierRmseMm = rmse ∧ metrics.translationDeltaMm = translation ∧
      metrics.rotationDeltaDeg = rotation := by
  unfold RegistrationMetrics.create at h
  split_ifs at h
  cases h
  exact ⟨rfl, rfl, rfl, rfl, rfl, rfl, rfl, rfl⟩

namespace Registration

inductive GateFailure where
  | none | notConverged | insufficientPairs | insufficientOverlap | excessiveResidual
  | translationPrior | rotationPrior
  deriving DecidableEq, Repr

structure RegistrationGateResult where
  passed : Bool
  failure : GateFailure
  message : String
  deriving DecidableEq, Repr

def rejected (failure : GateFailure) (message : String) : RegistrationGateResult :=
  ⟨false, failure, message⟩

/-- The first failing item is reported. -/
def evaluateGate (metrics : RegistrationMetrics D) (gate : ValidatedRegistrationGateConfig D) :
    RegistrationGateResult :=
  if metrics.convergence ≠ .converged then
    rejected .notConverged "registration did not converge"
  else if metrics.validPairs < gate.minValidPairs.toNat then
    rejected .insufficientPairs "valid correspondence count is below the minimum"
  else if metrics.fitness < gate.minOverlapRatio then
    rejected .insufficientOverlap "overlap ratio is below the minimum"
  else if gate.maxInlierRmseMm < metrics.inlierRmseMm then
    rejected .excessiveResidual "inlier RMS residual exceeds the maximum"
  else if gate.maxTranslationFromInitialMm < metrics.translationDeltaMm then
    rejected .translationPrior "translation from the initial pose exceeds the bound"
  else if gate.maxRotationFromInitialDeg < metrics.rotationDeltaDeg then
    rejected .rotationPrior "rotation from the initial pose exceeds the bound"
  else ⟨true, .none, ""⟩

end Registration
end PointcloudAd
