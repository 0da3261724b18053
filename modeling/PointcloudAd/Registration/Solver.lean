import PointcloudAd.Library.Action
import PointcloudAd.Registration.Motion
import PointcloudAd.Registration.Parameters

/-!
# The solver loop

The iterations of a registration over an evaluator, which computes the normal equations of a pose
on the processor or on a device. The loop emits the equations of every pass.
-/

namespace PointcloudAd.Registration

open Library

variable {F D : Type} [FloatArith F] [FloatArith D] [Floats F D]

/-- The two passes over a scan: the normal equations at a pose, and the sum of squared residuals
with the number of accepted pairs at the final pose. -/
structure Evaluator (σ D : Type) where
  equations : Matrix4 D → Action σ (Equations D) Exn (Equations D)
  metrics : Matrix4 D → Action σ (Equations D) Exn (D × ℕ)

/-- Only the loop emits equations. -/
structure Evaluator.Silent (E : Evaluator σ D) : Prop where
  equations : ∀ pose, (E.equations pose).Silent
  metrics : ∀ pose, (E.metrics pose).Silent

/-- The passes at every pose end with a value. -/
structure Evaluator.Returns (E : Evaluator σ D) : Prop where
  equations : ∀ pose, (E.equations pose).Returns
  metrics : ∀ pose, (E.metrics pose).Returns

structure SolverState (D : Type) where
  current : Matrix4 D
  completedIterations : ℕ
  converged : Bool
  degenerate : Bool
  previousMeanResidual : D

variable (F) in
/-- What one pass makes of its equations, and whether it leaves the loop. -/
def solverStep (eigen : Eigen D) (parameters : RegistrationParameters D) (iteration : ℕ)
    (state : SolverState D) (equations : Equations D) : SolverState D × Bool :=
  let plane := parameters.method = .pointToPlane
  if equations.count < 6 then ({ state with degenerate := true }, true)
  else if ¬ plane ∧ eigen.rank equations.matrix < 6 then ({ state with degenerate := true }, true)
  else
    let meanResidual := equations.residual / lit equations.count
    let improvement := state.previousMeanResidual - meanResidual
    if 0 < iteration ∧ isFinite improvement ∧ 0 ≤ improvement ∧
        improvement < parameters.residualEpsilonMm then
      ({ state with converged := true }, true)
    else
      let state := { state with previousMeanResidual := meanResidual }
      let twist := eigen.solve equations.matrix equations.gradient
      if ∃ entry, ¬ isFinite (twist entry) then ({ state with degenerate := true }, true)
      else
        let rotationDelta : Vec3 D := ⟨twist 0, twist 1, twist 2⟩
        let translationDelta : Vec3 D := ⟨twist 3, twist 4, twist 5⟩
        let state := { state with
          current := multiply (deltaFromTwist F rotationDelta translationDelta) state.current
          completedIterations := state.completedIterations + 1 }
        if norm rotationDelta < parameters.rotationEpsilonRad ∧
            norm translationDelta < parameters.translationEpsilonMm then
          ({ state with converged := true }, true)
        else (state, false)

variable {σ τ : Type}

variable (F) in
/-- The loop with `remaining` iterations left. -/
def solve (evaluator : Evaluator σ D) (eigen : Eigen D) (parameters : RegistrationParameters D)
    (iteration : ℕ) : ℕ → SolverState D → Action σ (Equations D) Exn (SolverState D)
  | 0, state => pure state
  | remaining + 1, state => do
    let equations ← evaluator.equations state.current
    Action.emit equations
    let next := solverStep F eigen parameters iteration state equations
    if next.2 then pure next.1
    else solve evaluator eigen parameters (iteration + 1) remaining next.1

def convergence (state : SolverState D) : RegistrationConvergence :=
  if state.degenerate then .degenerateInput
  else if state.converged then .converged else .notConverged

variable (F) in
/-- The solver from the initial pose to the metrics. A final pose that is not rigid is an error
that is returned; what the passes throw is not caught here. -/
def alignWith (evaluator : Evaluator σ D) (eigen : Eigen D)
    (parameters : RegistrationParameters D) (initial : RigidTransform D) (scanPoints : ℕ) :
    Action σ (Equations D) Exn (Result (RegistrationMetrics D)) := do
  let state ← solve F evaluator eigen parameters 0 parameters.maxIterations.toNat
    ⟨initial.matrix, 0, false, false, infinity⟩
  let finalTransform := orthonormalize state.current
  match RigidTransform.create finalTransform initial.sourceFrame initial.targetFrame
      (lit (1 / 10 ^ 6)) with
  | .error e => pure (.error e)
  | .ok validated =>
    let (squaredResidualSum, validPairs) ← evaluator.metrics finalTransform
    let fitness := lit validPairs / lit scanPoints
    let rmse := if validPairs = 0 then 0 else sqrt (squaredResidualSum / lit validPairs)
    let relative := multiply finalTransform (inverseRigid initial.matrix)
    let translationDelta := norm ⟨relative 3, relative 7, relative 11⟩
    let cosine := stdClamp ((relative 0 + relative 5 + relative 10 - 1) / lit 2) (-1) 1
    pure (RegistrationMetrics.create validated (convergence state) state.completedIterations
      validPairs fitness rmse translationDelta (Floats.acos F cosine * lit 180 / kPi))

theorem solve_withThreads (E : Evaluator σ D) (eigen : Eigen D)
    (parameters : RegistrationParameters D) (threadCount : UInt32) :
    ∀ (remaining iteration : ℕ) (state : SolverState D),
      solve F E eigen (parameters.withThreads threadCount) iteration remaining state =
        solve F E eigen parameters iteration remaining state
  | 0, _, _ => rfl
  | remaining + 1, iteration, state => by
    simp only [solve, solve_withThreads E eigen parameters threadCount remaining]
    rfl

theorem alignWith_withThreads (E : Evaluator σ D) (eigen : Eigen D)
    (parameters : RegistrationParameters D) (threadCount : UInt32) (initial : RigidTransform D)
    (scanPoints : ℕ) :
    alignWith F E eigen (parameters.withThreads threadCount) initial scanPoints =
      alignWith F E eigen parameters initial scanPoints := by
  unfold alignWith
  rw [solve_withThreads]
  rfl

/-- Evaluators whose passes end alike. -/
structure Evaluator.Related (E : Evaluator σ D) (E' : Evaluator τ D) : Prop where
  equations : ∀ pose, Action.Related Eq (E.equations pose) (E'.equations pose)
  metrics : ∀ pose, Action.Related Eq (E.metrics pose) (E'.metrics pose)

variable {E : Evaluator σ D} {E' : Evaluator τ D}

theorem solve_related (h : E.Related E') (eigen : Eigen D) (parameters : RegistrationParameters D) :
    ∀ (remaining iteration : ℕ) (state : SolverState D),
      Action.Related Eq (solve F E eigen parameters iteration remaining state)
        (solve F E' eigen parameters iteration remaining state)
  | 0, _, _ => .pure rfl
  | remaining + 1, iteration, state => by
    refine (h.equations state.current).bind ?_
    rintro equations _ rfl
    refine (Action.Related.emit equations).bind fun _ _ _ => ?_
    dsimp only
    split_ifs
    · exact .pure rfl
    · exact solve_related h eigen parameters remaining (iteration + 1) _

theorem alignWith_related (h : E.Related E') (eigen : Eigen D)
    (parameters : RegistrationParameters D) (initial : RigidTransform D) (scanPoints : ℕ) :
    Action.Related Eq (alignWith F E eigen parameters initial scanPoints)
      (alignWith F E' eigen parameters initial scanPoints) := by
  refine (solve_related h eigen parameters _ 0 _).bind ?_
  rintro state _ rfl
  dsimp only
  split
  · exact .pure rfl
  · refine (h.metrics _).bind ?_
    rintro ⟨sum, pairs⟩ _ rfl
    exact .pure rfl

end PointcloudAd.Registration
