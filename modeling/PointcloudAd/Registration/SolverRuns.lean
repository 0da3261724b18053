import PointcloudAd.Registration.Solver

/-!
# Runs of the solver

A run goes on while no rule stops it. What it reports in the end is told from the equations of its
passes: how many there were, which increments were applied, and whether the last pass stopped it.
-/

namespace PointcloudAd.Registration

open Library

variable {F D σ : Type} [FloatArith F] [FloatArith D] [Floats F D]

/-- Every entry of a list is related to those before it. -/
def AtEach {α : Type} (P : List α → α → Prop) (l : List α) : Prop :=
  ∀ before a after, l = before ++ a :: after → P before a

theorem AtEach.nil {α : Type} {P : List α → α → Prop} : AtEach P [] := by
  intro before a after h
  simp at h

theorem AtEach.concat {α : Type} {P : List α → α → Prop} {l : List α} {a : α} (h : AtEach P l)
    (ha : P l a) : AtEach P (l ++ [a]) := by
  intro before b after hl
  rcases List.eq_nil_or_concat after with rfl | ⟨after, c, rfl⟩
  · obtain ⟨rfl, hb⟩ := List.append_inj' hl rfl
    rw [← List.singleton_inj.mp hb]
    exact ha
  · rw [List.concat_eq_append, ← List.cons_append, ← List.append_assoc] at hl
    exact h before b after (List.append_inj' hl rfl).1

/-- The increment that the equations of a pass ask for. -/
def twistOf (eigen : Eigen D) (equations : Equations D) : Vec3 D × Vec3 D :=
  let twist := eigen.solve equations.matrix equations.gradient
  (⟨twist 0, twist 1, twist 2⟩, ⟨twist 3, twist 4, twist 5⟩)

variable (F) in
/-- The pose after a sequence of increments. -/
def posed (initial : Matrix4 D) (twists : List (Vec3 D × Vec3 D)) : Matrix4 D :=
  twists.foldl (fun current twist => multiply (deltaFromTwist F twist.1 twist.2) current) initial

theorem posed_append (initial : Matrix4 D) (twists : List (Vec3 D × Vec3 D))
    (twist : Vec3 D × Vec3 D) : posed F initial (twists ++ [twist]) =
      multiply (deltaFromTwist F twist.1 twist.2) (posed F initial twists) := by
  rw [posed, List.foldl_append]
  rfl

variable (F) in
/-- The distance and the angle between an initial and a final pose, as an alignment reports them. -/
def poseDeltas (initial final : Matrix4 D) : D × D :=
  let relative := multiply final (inverseRigid initial)
  let cosine := stdClamp ((relative 0 + relative 5 + relative 10 - 1) / lit 2) (-1) 1
  (norm ⟨relative 3, relative 7, relative 11⟩, Floats.acos F cosine * lit 180 / kPi)

def meanResidual (equations : Equations D) : D := equations.residual / lit equations.count

/-- The mean residual of the last pass, infinite before the first one. -/
def lastMeanResidual (passes : List (Equations D)) : D :=
  (passes.getLast?.map meanResidual).getD infinity

/-- There are too few pairs, or they do not determine an increment. -/
def Underdetermined (eigen : Eigen D) (parameters : RegistrationParameters D)
    (equations : Equations D) : Prop :=
  equations.count < 6 ∨ (parameters.method ≠ .pointToPlane ∧ eigen.rank equations.matrix < 6)

/-- The residual improved since the last pass, by less than its threshold. -/
def Settled (parameters : RegistrationParameters D) (passes : List (Equations D))
    (equations : Equations D) : Prop :=
  let improvement := lastMeanResidual passes - meanResidual equations
  0 < passes.length ∧ isFinite improvement = true ∧ 0 ≤ improvement ∧
    improvement < parameters.residualEpsilonMm

def Unusable (eigen : Eigen D) (equations : Equations D) : Prop :=
  ∃ entry, ¬ isFinite (eigen.solve equations.matrix equations.gradient entry) = true

/-- The increment is below both of its thresholds. -/
def SmallStep (eigen : Eigen D) (parameters : RegistrationParameters D) (equations : Equations D) :
    Prop :=
  norm (twistOf eigen equations).1 < parameters.rotationEpsilonRad ∧
    norm (twistOf eigen equations).2 < parameters.translationEpsilonMm

/-- A rule stops the run in the pass that follows the given ones. -/
def Stops (eigen : Eigen D) (parameters : RegistrationParameters D) (passes : List (Equations D))
    (equations : Equations D) : Prop :=
  Underdetermined eigen parameters equations ∨ Settled parameters passes equations ∨
    Unusable eigen equations ∨ SmallStep eigen parameters equations

variable (F) in
/-- The state of a run in which no pass stopped. -/
structure Going (eigen : Eigen D) (parameters : RegistrationParameters D) (initial : Matrix4 D)
    (passes : List (Equations D)) (state : SolverState D) : Prop where
  current : state.current = posed F initial (passes.map (twistOf eigen))
  completed : state.completedIterations = passes.length
  converged : state.converged = false
  degenerate : state.degenerate = false
  previous : state.previousMeanResidual = lastMeanResidual passes
  went : AtEach (fun before equations => ¬ Stops eigen parameters before equations) passes

variable (F) in
/-- The state of a run that its last pass stopped. -/
inductive Stopped (eigen : Eigen D) (parameters : RegistrationParameters D) (initial : Matrix4 D)
    (before : List (Equations D)) (equations : Equations D) (state : SolverState D) : Prop
  /-- The increment of the last pass was not applied. -/
  | degenerate (hdegenerate : state.degenerate = true)
      (hcurrent : state.current = posed F initial (before.map (twistOf eigen)))
      (hcompleted : state.completedIterations = before.length)
  | settled (hdegenerate : state.degenerate = false) (hconverged : state.converged = true)
      (hcurrent : state.current = posed F initial (before.map (twistOf eigen)))
      (hcompleted : state.completedIterations = before.length) (hpositive : 0 < before.length)
  | small (hdegenerate : state.degenerate = false) (hconverged : state.converged = true)
      (hcurrent : state.current = posed F initial ((before ++ [equations]).map (twistOf eigen)))
      (hcompleted : state.completedIterations = before.length + 1)

variable {eigen : Eigen D} {parameters : RegistrationParameters D} {initial : Matrix4 D}
  {passes : List (Equations D)} {state : SolverState D}

theorem Going.start : Going F eigen parameters initial [] ⟨initial, 0, false, false, infinity⟩ where
  current := rfl
  completed := rfl
  converged := rfl
  degenerate := rfl
  previous := rfl
  went := .nil

variable (F) in
/-- The state after the increment of a pass. -/
def SolverState.moved (state : SolverState D) (eigen : Eigen D) (equations : Equations D) :
    SolverState D :=
  { state with
    current := multiply (deltaFromTwist F (twistOf eigen equations).1 (twistOf eigen equations).2)
      state.current
    completedIterations := state.completedIterations + 1
    previousMeanResidual := meanResidual equations }

/-- A pass goes on, and applies its increment, or a rule stops it. -/
theorem Going.step (h : Going F eigen parameters initial passes state) (equations : Equations D) :
    let next := solverStep F eigen parameters passes.length state equations
    (next.2 = false ∧ Going F eigen parameters initial (passes ++ [equations]) next.1) ∨
      (next.2 = true ∧ Stops eigen parameters passes equations ∧
        Stopped F eigen parameters initial passes equations next.1) := by
  intro next
  by_cases hpairs : equations.count < 6
  · have hnext : next = ({ state with degenerate := true }, true) := if_pos hpairs
    rw [hnext]
    exact .inr ⟨rfl, .inl (.inl hpairs), .degenerate rfl h.current h.completed⟩
  by_cases hrank : ¬ parameters.method = .pointToPlane ∧ eigen.rank equations.matrix < 6
  · have hnext : next = ({ state with degenerate := true }, true) :=
      (if_neg hpairs).trans (if_pos hrank)
    rw [hnext]
    exact .inr ⟨rfl, .inl (.inr hrank), .degenerate rfl h.current h.completed⟩
  by_cases hsettled : Settled parameters passes equations
  · have hnext : next = ({ state with converged := true }, true) := by
      have hrule := hsettled
      unfold Settled at hrule
      rw [← h.previous] at hrule
      exact (if_neg hpairs).trans ((if_neg hrank).trans (if_pos hrule))
    rw [hnext]
    exact .inr ⟨rfl, .inr (.inl hsettled),
      .settled h.degenerate rfl h.current h.completed hsettled.1⟩
  have hrule := hsettled
  unfold Settled at hrule
  rw [← h.previous] at hrule
  by_cases hunusable : Unusable eigen equations
  · have hnext : next = ({ state with
        previousMeanResidual := meanResidual equations, degenerate := true }, true) :=
      (if_neg hpairs).trans ((if_neg hrank).trans ((if_neg hrule).trans (if_pos hunusable)))
    rw [hnext]
    exact .inr ⟨rfl, .inr (.inr (.inl hunusable)), .degenerate rfl h.current h.completed⟩
  have hcurrent : (state.moved F eigen equations).current =
      posed F initial ((passes ++ [equations]).map (twistOf eigen)) := by
    rw [SolverState.moved, h.current, List.map_append, List.map_singleton, posed_append]
  by_cases hsmall : SmallStep eigen parameters equations
  · have hnext : next = ({ state.moved F eigen equations with converged := true }, true) :=
      (if_neg hpairs).trans ((if_neg hrank).trans ((if_neg hrule).trans
        ((if_neg hunusable).trans (if_pos hsmall))))
    rw [hnext]
    exact .inr ⟨rfl, .inr (.inr (.inr hsmall)),
      .small h.degenerate rfl hcurrent (congrArg (· + 1) h.completed)⟩
  · have hnext : next = (state.moved F eigen equations, false) :=
      (if_neg hpairs).trans ((if_neg hrank).trans ((if_neg hrule).trans
        ((if_neg hunusable).trans (if_neg hsmall))))
    rw [hnext]
    refine .inl ⟨rfl, ?_⟩
    constructor
    · exact hcurrent
    · rw [List.length_append, List.length_singleton]
      exact congrArg (· + 1) h.completed
    · exact h.converged
    · exact h.degenerate
    · rw [lastMeanResidual, List.getLast?_concat]
      rfl
    · apply h.went.concat
      rintro ((hpairs' | hrank') | hsettled' | hunusable' | hsmall')
      · exact hpairs hpairs'
      · exact hrank hrank'
      · exact hsettled hsettled'
      · exact hunusable hunusable'
      · exact hsmall hsmall'

variable {E : Evaluator σ D}

variable (F) in
/-- Every pass evaluated the pose that the increments before it led to. -/
def Evaluated (E : Evaluator σ D) (eigen : Eigen D) (initial : Matrix4 D)
    (passes : List (Equations D)) : Prop :=
  AtEach (fun before equations =>
    ∃ s, (E.equations (posed F initial (before.map (twistOf eigen)))).outcome s = .ok equations)
    passes

variable (F) in
/-- How a run of at most `maximum` passes ends. -/
inductive Ended (eigen : Eigen D) (parameters : RegistrationParameters D) (initial : Matrix4 D)
    (maximum : ℕ) (passes : List (Equations D)) (state : SolverState D) : Prop
  | exhausted (hlength : passes.length = maximum)
      (hgoing : Going F eigen parameters initial passes state)
  | stopped (before : List (Equations D)) (equations : Equations D)
      (hpasses : passes = before ++ [equations]) (hlength : passes.length ≤ maximum)
      (hstops : Stops eigen parameters before equations)
      (hstopped : Stopped F eigen parameters initial before equations state)

/-- A run continues the passes before it, and emits the equations of its own. -/
theorem solve_ended : ∀ (remaining : ℕ) {passes : List (Equations D)} {state final : SolverState D}
    {s : σ}, Going F eigen parameters initial passes state → Evaluated F E eigen initial passes →
    (solve F E eigen parameters passes.length remaining state).outcome s = .ok final →
    ∃ later, Evaluated F E eigen initial (passes ++ later) ∧
      Ended F eigen parameters initial (passes.length + remaining) (passes ++ later) final ∧
      (E.Silent → (solve F E eigen parameters passes.length remaining state).log s = later)
  | 0, passes, state, final, s, hgoing, hevaluated, hrun => by
    cases hrun
    refine ⟨[], ?_, ?_, fun _ => rfl⟩
    · rwa [List.append_nil]
    · rw [List.append_nil]
      exact .exhausted rfl hgoing
  | remaining + 1, passes, state, final, s, hgoing, hevaluated, hrun => by
    obtain ⟨equations, s', hequations, hrun, hlog⟩ := Action.bind_inv hrun
    obtain ⟨_, s'', -, hrun, hlog'⟩ := Action.bind_inv hrun
    have hall : Evaluated F E eigen initial (passes ++ [equations]) := by
      apply hevaluated.concat
      rw [← hgoing.current]
      exact ⟨s, hequations⟩
    have hlength : (passes ++ [equations]).length = passes.length + 1 := by
      rw [List.length_append, List.length_singleton]
    dsimp only at hrun
    rcases hgoing.step equations with ⟨hnext, hgoing⟩ | ⟨hnext, hstops, hstopped⟩
    · have hgoes : ¬ (solverStep F eigen parameters passes.length state equations).2 = true := by
        rw [hnext]
        exact Bool.false_ne_true
      rw [if_neg hgoes, ← hlength] at hrun
      obtain ⟨later, hevaluated, hended, hlater⟩ := solve_ended remaining hgoing hall hrun
      rw [hlength, Nat.add_assoc, Nat.add_comm 1] at hended
      rw [List.append_assoc, List.singleton_append] at hevaluated hended
      refine ⟨equations :: later, hevaluated, hended, fun hsilent => ?_⟩
      refine hlog.trans ?_
      rw [hsilent.equations, hlog']
      dsimp only
      rw [if_neg hgoes, ← hlength, hlater hsilent]
      rfl
    · rw [if_pos hnext] at hrun
      cases hrun
      refine ⟨[equations], hall, .stopped passes equations rfl (by omega) hstops hstopped,
        fun hsilent => ?_⟩
      refine hlog.trans ?_
      rw [hsilent.equations, hlog']
      dsimp only
      rw [if_pos hnext]
      rfl

theorem solve_returns (hreturns : E.Returns) :
    ∀ (remaining iteration : ℕ) (state : SolverState D),
      (solve F E eigen parameters iteration remaining state).Returns
  | 0, _, state => Action.Returns.pure state
  | remaining + 1, iteration, state => by
    refine (hreturns.equations state.current).bind fun equations =>
      (Action.Returns.emit equations).bind fun _ => ?_
    dsimp only
    split_ifs
    · exact Action.Returns.pure _
    · exact solve_returns hreturns remaining (iteration + 1) _

variable {maximum : ℕ} {final : SolverState D}

/-- The pose is the one that the counted increments led to. -/
theorem Ended.current (h : Ended F eigen parameters initial maximum passes final) :
    final.current =
      posed F initial ((passes.take final.completedIterations).map (twistOf eigen)) := by
  cases h with
  | exhausted hlength hgoing =>
    rw [hgoing.completed, List.take_length, hgoing.current]
  | stopped before equations hpasses hlength hstops hstopped =>
    subst hpasses
    cases hstopped with
    | degenerate _ hcurrent hcompleted =>
      rw [hcompleted, List.take_left, hcurrent]
    | settled _ _ hcurrent hcompleted _ =>
      rw [hcompleted, List.take_left, hcurrent]
    | small _ _ hcurrent hcompleted =>
      have hlength : (before ++ [equations]).length = before.length + 1 := by
        rw [List.length_append, List.length_singleton]
      rw [hcompleted, ← hlength, List.take_length, hcurrent]

theorem Ended.bounded (h : Ended F eigen parameters initial maximum passes final) :
    passes.length ≤ maximum ∧ final.completedIterations ≤ passes.length := by
  cases h with
  | exhausted hlength hgoing => exact ⟨hlength.le, hgoing.completed.le⟩
  | stopped before equations hpasses hlength hstops hstopped =>
    subst hpasses
    refine ⟨hlength, ?_⟩
    rw [List.length_append, List.length_singleton]
    cases hstopped with
    | degenerate _ _ hcompleted => omega
    | settled _ _ _ hcompleted _ => omega
    | small _ _ _ hcompleted => omega

theorem Ended.converged (h : Ended F eigen parameters initial maximum passes final)
    (hconverged : convergence final = .converged) :
    final.degenerate = false ∧ 1 ≤ final.completedIterations := by
  unfold convergence at hconverged
  cases h with
  | exhausted _ hgoing =>
    rw [hgoing.degenerate, hgoing.converged] at hconverged
    cases hconverged
  | stopped before equations hpasses hlength hstops hstopped =>
    cases hstopped with
    | degenerate hdegenerate _ _ =>
      rw [hdegenerate] at hconverged
      cases hconverged
    | settled hdegenerate _ _ hcompleted hpositive =>
      exact ⟨hdegenerate, by omega⟩
    | small hdegenerate _ _ hcompleted =>
      exact ⟨hdegenerate, by omega⟩

/-- A run that no rule stopped, and only such a run, did not converge. -/
theorem Ended.notConverged_iff (h : Ended F eigen parameters initial maximum passes final) :
    convergence final = .notConverged ↔ final.completedIterations = maximum ∧
      AtEach (fun before equations => ¬ Stops eigen parameters before equations) passes := by
  cases h with
  | exhausted hlength hgoing =>
    have hclass : convergence final = .notConverged := by
      unfold convergence
      rw [hgoing.degenerate, hgoing.converged]
      rfl
    exact ⟨fun _ => ⟨hgoing.completed.trans hlength, hgoing.went⟩, fun _ => hclass⟩
  | stopped before equations hpasses hlength hstops hstopped =>
    constructor
    · intro hclass
      unfold convergence at hclass
      cases hstopped with
      | degenerate hdegenerate _ _ =>
        rw [hdegenerate] at hclass
        cases hclass
      | settled hdegenerate hconverged _ _ _ =>
        rw [hdegenerate, hconverged] at hclass
        cases hclass
      | small hdegenerate hconverged _ _ =>
        rw [hdegenerate, hconverged] at hclass
        cases hclass
    · rintro ⟨-, hwent⟩
      exact absurd hstops (hwent before equations [] hpasses)

/-- The pass that found the input degenerate did not move the pose, and all before it did. -/
theorem Ended.degenerate (h : Ended F eigen parameters initial maximum passes final)
    (hclass : convergence final = .degenerateInput) :
    passes.length = final.completedIterations + 1 := by
  unfold convergence at hclass
  cases h with
  | exhausted _ hgoing =>
    rw [hgoing.degenerate, hgoing.converged] at hclass
    cases hclass
  | stopped before equations hpasses hlength hstops hstopped =>
    subst hpasses
    rw [List.length_append, List.length_singleton]
    cases hstopped with
    | degenerate _ _ hcompleted => rw [hcompleted]
    | settled hdegenerate hconverged _ _ _ =>
      rw [hdegenerate, hconverged] at hclass
      cases hclass
    | small hdegenerate hconverged _ _ =>
      rw [hdegenerate, hconverged] at hclass
      cases hclass

variable (F) in
/-- The metrics of a final pose, given the two sums over its pairs. -/
def measured (initial : RigidTransform D) (state : SolverState D) (validated : RigidTransform D)
    (scanPoints : ℕ) (squaredResidualSum : D) (validPairs : ℕ) : Result (RegistrationMetrics D) :=
  let deltas := poseDeltas F initial.matrix (orthonormalize state.current)
  RegistrationMetrics.create validated (convergence state) state.completedIterations validPairs
    (lit validPairs / lit scanPoints)
    (if validPairs = 0 then 0 else sqrt (squaredResidualSum / lit validPairs)) deltas.1 deltas.2

/-- An alignment whose passes all end returns the error of a pose that is not rigid, or what the
final pose measures. -/
theorem alignWith_result {start : RigidTransform D} {scanPoints : ℕ} {s : σ}
    {result : Result (RegistrationMetrics D)}
    (h : (alignWith F E eigen parameters start scanPoints).outcome s = .ok result) :
    ∃ final, (solve F E eigen parameters 0 parameters.maxIterations.toNat
        ⟨start.matrix, 0, false, false, infinity⟩).outcome s = .ok final ∧
      ((∃ e, RigidTransform.create (orthonormalize final.current) start.sourceFrame
          start.targetFrame (lit (1 / 10 ^ 6)) = .error e ∧ result = .error e) ∨
        ∃ validated s' sum pairs, RigidTransform.create (orthonormalize final.current)
            start.sourceFrame start.targetFrame (lit (1 / 10 ^ 6)) = .ok validated ∧
          (E.metrics (orthonormalize final.current)).outcome s' = .ok (sum, pairs) ∧
          result = measured F start final validated scanPoints sum pairs) := by
  obtain ⟨final, s', hsolve, h⟩ := Action.outcome_bind_inv h
  refine ⟨final, hsolve, ?_⟩
  dsimp only at h
  cases hcreate : RigidTransform.create (orthonormalize final.current) start.sourceFrame
    start.targetFrame (lit (1 / 10 ^ 6)) with
  | error e =>
    rw [hcreate] at h
    cases h
    exact .inl ⟨e, rfl, rfl⟩
  | ok validated =>
    rw [hcreate] at h
    obtain ⟨⟨sum, pairs⟩, s'', hmetrics, h⟩ := Action.outcome_bind_inv h
    cases h
    exact .inr ⟨validated, s', sum, pairs, rfl, hmetrics, rfl⟩

theorem alignWith_log {start : RigidTransform D} {scanPoints : ℕ} {s : σ}
    {result : Result (RegistrationMetrics D)}
    (h : (alignWith F E eigen parameters start scanPoints).outcome s = .ok result)
    (hsilent : E.Silent) : (alignWith F E eigen parameters start scanPoints).log s =
      (solve F E eigen parameters 0 parameters.maxIterations.toNat
        ⟨start.matrix, 0, false, false, infinity⟩).log s := by
  obtain ⟨final, s', -, -, hlog⟩ := Action.bind_inv h
  refine hlog.trans ((congrArg _ ?_).trans (List.append_nil _))
  dsimp only
  cases RigidTransform.create (orthonormalize final.current) start.sourceFrame start.targetFrame
    (lit (1 / 10 ^ 6)) with
  | error e => rfl
  | ok validated =>
    exact ((hsilent.metrics _).bind fun sums => Action.Silent.pure _) s'

theorem alignWith_returns (hreturns : E.Returns) (start : RigidTransform D) (scanPoints : ℕ) :
    (alignWith F E eigen parameters start scanPoints).Returns := by
  refine (solve_returns hreturns _ _ _).bind fun final => ?_
  dsimp only
  cases RigidTransform.create (orthonormalize final.current) start.sourceFrame start.targetFrame
    (lit (1 / 10 ^ 6)) with
  | error e => exact Action.Returns.pure _
  | ok validated => exact (hreturns.metrics _).bind fun sums => Action.Returns.pure _

theorem alignWith_outcome {start validated : RigidTransform D} {scanPoints pairs : ℕ} {s : σ}
    {sum : D}
    (hsolve : (solve F E eigen parameters 0 parameters.maxIterations.toNat
      ⟨start.matrix, 0, false, false, infinity⟩).outcome s = .ok final)
    (hcreate : RigidTransform.create (orthonormalize final.current) start.sourceFrame
      start.targetFrame (lit (1 / 10 ^ 6)) = .ok validated)
    (hmetrics : ∀ s', (E.metrics (orthonormalize final.current)).outcome s' = .ok (sum, pairs)) :
    (alignWith F E eigen parameters start scanPoints).outcome s =
      .ok (measured F start final validated scanPoints sum pairs) := by
  unfold alignWith
  obtain ⟨s', hrest⟩ := Action.outcome_bind_ok hsolve
  rw [hrest]
  dsimp only
  rw [hcreate]
  obtain ⟨s'', hlast⟩ := Action.outcome_bind_ok (hmetrics s')
  exact hlast

variable (F) in
/-- What the end of a run says of its passes. -/
structure Classified (eigen : Eigen D) (parameters : RegistrationParameters D) (initial : Matrix4 D)
    (passes : List (Equations D)) (state : SolverState D) : Prop where
  passes_le : passes.length ≤ parameters.maxIterations.toNat
  completed_le : state.completedIterations ≤ parameters.maxIterations.toNat
  pose : state.current =
    posed F initial ((passes.take state.completedIterations).map (twistOf eigen))
  untouched : state.completedIterations = 0 → state.current = initial
  converged : convergence state = .converged →
    state.degenerate = false ∧ 1 ≤ state.completedIterations
  notConverged : convergence state = .notConverged ↔
    state.completedIterations = parameters.maxIterations.toNat ∧
      AtEach (fun before equations => ¬ Stops eigen parameters before equations) passes
  degenerate : convergence state = .degenerateInput →
    passes.length = state.completedIterations + 1

theorem Ended.classified
    (h : Ended F eigen parameters initial parameters.maxIterations.toNat passes final) :
    Classified F eigen parameters initial passes final where
  passes_le := h.bounded.1
  completed_le := h.bounded.2.trans h.bounded.1
  pose := h.current
  untouched hzero := by
    rw [h.current, hzero]
    rfl
  converged := h.converged
  notConverged := h.notConverged_iff
  degenerate := h.degenerate

variable (F) in
/-- Metrics report how their run ended, and what its final pose measures. -/
structure Reported (E : Evaluator σ D) (initial : RigidTransform D) (scanPoints : ℕ)
    (state : SolverState D) (metrics : RegistrationMetrics D) : Prop where
  convergence : metrics.convergence = convergence state
  iterations : metrics.iterations = state.completedIterations
  transform : metrics.finalTransform.matrix = orthonormalize state.current
  measured : ∃ s sum, (E.metrics metrics.finalTransform.matrix).outcome s =
      .ok (sum, metrics.validPairs) ∧
    metrics.fitness = lit metrics.validPairs / lit scanPoints ∧
    metrics.inlierRmseMm =
      if metrics.validPairs = 0 then 0 else sqrt (sum / lit metrics.validPairs)
  deltas : (metrics.translationDeltaMm, metrics.rotationDeltaDeg) =
    poseDeltas F initial.matrix metrics.finalTransform.matrix

/-- An alignment classifies its run, whatever its passes give, and emits their equations. -/
theorem alignWith_classified {start : RigidTransform D} {scanPoints : ℕ} {s : σ}
    {result : Result (RegistrationMetrics D)}
    (h : (alignWith F E eigen parameters start scanPoints).outcome s = .ok result) :
    ∃ passes state, Evaluated F E eigen start.matrix passes ∧
      (E.Silent → (alignWith F E eigen parameters start scanPoints).log s = passes) ∧
      Classified F eigen parameters start.matrix passes state ∧
      ∀ metrics, result = .ok metrics → Reported F E start scanPoints state metrics := by
  obtain ⟨final, hsolve, hresult⟩ := alignWith_result h
  have hstart : Evaluated F E eigen start.matrix [] := .nil
  obtain ⟨passes, hevaluated, hended, hlog⟩ := solve_ended _ .start hstart hsolve
  rw [List.length_nil, Nat.zero_add] at hended
  rw [List.nil_append] at hevaluated hended
  refine ⟨passes, final, hevaluated, fun hsilent => (alignWith_log h hsilent).trans (hlog hsilent),
    hended.classified, ?_⟩
  rintro metrics rfl
  rcases hresult with ⟨e, -, herror⟩ | ⟨validated, s', sum, pairs, hcreate, hmetrics, hmeasured⟩
  · cases herror
  · obtain ⟨htransform, hclass, hiterations, hpairs, hfitness, hrmse, htranslation, hrotation⟩ :=
      RegistrationMetrics.eq_of_create hmeasured.symm
    have hmatrix : metrics.finalTransform.matrix = orthonormalize final.current := by
      rw [htransform]
      exact (RigidTransform.eq_of_create hcreate).1
    refine ⟨hclass, hiterations, hmatrix, ⟨s', sum, ?_, ?_, ?_⟩, ?_⟩
    · rw [hmatrix, hpairs]
      exact hmetrics
    · rw [hfitness, hpairs]
    · rw [hrmse, hpairs]
    · rw [hmatrix, htranslation, hrotation]

end PointcloudAd.Registration
