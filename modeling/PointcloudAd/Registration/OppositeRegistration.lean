import PointcloudAd.Preprocess.OppositeNormals
import PointcloudAd.Registration.Context

/-!
# Registration with opposite normals

A correspondence adds products of pairs of normal components to the normal equations, and its
residual in absolute value or squared. Turning every normal over leaves the products, up to the
sign of a zero, which a sum that starts at zero forgets: the solver sees the same equations.
-/

namespace PointcloudAd

open Library Registration

variable {F D : Type} [FloatArith F] [FloatArith D] [Floats F D]

/-- The same points with opposite normals. -/
structure CloudsTurned (c d : ValidatedCloud D) : Prop where
  points : d.points = c.points
  normals : List.Forall₂ Opposed c.normals d.normals

section

variable [OppositeArithmetic D] {v w v' w' : Vec3 D}

open OppositeArithmetic

theorem Opposed.norm_eq (h : Opposed v w) : Registration.norm v = Registration.norm w := by
  unfold Registration.norm dot
  rw [square_opposite h.x, square_opposite h.y, square_opposite h.z]

theorem Opposed.scaled (h : Opposed v w) (scalar : D) :
    Opposed (scale scalar v) (scale scalar w) :=
  ⟨opposite_mul scalar h.x, opposite_mul scalar h.y, opposite_mul scalar h.z⟩

theorem Opposed.unit (h : Opposed v w) : Opposed (normalized v) (normalized w) := by
  unfold normalized
  rw [← h.norm_eq]
  dsimp only
  split_ifs
  · exact h.scaled _
  · exact opposed_default

theorem Opposed.applied (h : Opposed v w) (pose : Matrix4 D) :
    Opposed (applyDirection pose v) (applyDirection pose w) :=
  ⟨opposite_add (opposite_add (opposite_mul _ h.x) (opposite_mul _ h.y)) (opposite_mul _ h.z),
    opposite_add (opposite_add (opposite_mul _ h.x) (opposite_mul _ h.y)) (opposite_mul _ h.z),
    opposite_add (opposite_add (opposite_mul _ h.x) (opposite_mul _ h.y)) (opposite_mul _ h.z)⟩

theorem Opposed.dot_right (h : Opposed v w) (u : Vec3 D) : Opposite (dot u v) (dot u w) :=
  opposite_add (opposite_add (opposite_mul _ h.x) (opposite_mul _ h.y)) (opposite_mul _ h.z)

theorem Opposed.dot_left (h : Opposed v w) (u : Vec3 D) : Opposite (dot v u) (dot w u) :=
  opposite_add (opposite_add (h.x.mul_right _) (h.y.mul_right _)) (h.z.mul_right _)

theorem Opposed.dot_same (h : Opposed v w) (h' : Opposed v' w') :
    SameValue (dot v v') (dot w w') :=
  same_add (same_add (mul_opposite h.x h'.x) (mul_opposite h.y h'.y)) (mul_opposite h.z h'.z)

end

section

variable [OppositeArithmetic F] [OppositeArithmetic D] [OppositeConversions F D]
  {s t : SurfaceView F}

theorem extractValid_turned (h : Turned s t) :
    CloudsTurned (extractValid D s) (extractValid D t) := by
  obtain ⟨normals, rfl, hn⟩ := h.exists
  refine ⟨rfl, ?_⟩
  unfold extractValid
  dsimp only
  have hempty := opposed_nil_iff hn
  by_cases hs : s.normals = []
  · rw [if_pos hs, if_pos (hempty.mpr hs)]
    exact .nil
  · rw [if_neg hs, if_neg (fun he => hs (hempty.mp he)), List.forall₂_map_left_iff,
      List.forall₂_map_right_iff]
    exact List.forall₂_same.mpr fun i _ => (forall₂_getD hn opposed_default i).widen.unit

end

section

variable [OppositeArithmetic D]

open OppositeArithmetic

/-- Contributions that a sum from zero cannot tell apart. -/
structure ContributionsAlike (a b : ObjectiveContribution D) : Prop where
  matrix : ∀ row col, SameValue (a.matrix row col) (b.matrix row col)
  gradient : ∀ row, SameValue (a.gradient row) (b.gradient row)
  residual : b.absoluteResidual = a.absoluteResidual

/-- The Jacobian of a plane residual. -/
def planeJacobian (p n : Vec3 D) : Vec6 D :=
  ![p.y * n.z - p.z * n.y, p.z * n.x - p.x * n.z, p.x * n.y - p.y * n.x, n.x, n.y, n.z]

theorem planeJacobian_turned {n n' : Vec3 D} (h : Opposed n n') (p : Vec3 D) (row : Fin 6) :
    Opposite (planeJacobian p n row) (planeJacobian p n' row) := by
  fin_cases row
  · exact opposite_sub (opposite_mul _ h.z) (opposite_mul _ h.y)
  · exact opposite_sub (opposite_mul _ h.x) (opposite_mul _ h.z)
  · exact opposite_sub (opposite_mul _ h.y) (opposite_mul _ h.x)
  · exact h.x
  · exact h.y
  · exact h.z

theorem objective_turned (input : ObjectiveInput D) {normal : Vec3 D}
    (h : Opposed input.normal normal) :
    ContributionsAlike (objective scalarOperations input)
      (objective scalarOperations { input with normal := normal }) := by
  obtain ⟨p, reference, n, information, huber, plane, generalized⟩ := input
  have hresidual := Opposed.dot_right h (sub p reference)
  have habs := abs_opposite hresidual
  have hjacobian := planeJacobian_turned h p
  dsimp only at hresidual habs hjacobian
  cases plane with
  | false => exact ⟨fun _ _ => .refl _, fun _ => .refl _, rfl⟩
  | true =>
    refine ⟨fun row col => ?_, fun row => ?_, habs.symm⟩
    · change SameValue
        ((if abs (dot (sub p reference) n) ≤ huber then 1
          else huber / abs (dot (sub p reference) n)) * planeJacobian p n row *
            planeJacobian p n col)
        ((if abs (dot (sub p reference) normal) ≤ huber then 1
          else huber / abs (dot (sub p reference) normal)) * planeJacobian p normal row *
            planeJacobian p normal col)
      rw [habs]
      exact mul_opposite (opposite_mul _ (hjacobian row)) (hjacobian col)
    · change SameValue
        ((if abs (dot (sub p reference) n) ≤ huber then 1
          else huber / abs (dot (sub p reference) n)) * -dot (sub p reference) n *
            planeJacobian p n row)
        ((if abs (dot (sub p reference) normal) ≤ huber then 1
          else huber / abs (dot (sub p reference) normal)) * -dot (sub p reference) normal *
            planeJacobian p normal row)
      rw [habs]
      exact mul_opposite (opposite_mul _ hresidual.neg) (hjacobian row)

/-- Equations that a zero can be added to, whatever its sign. -/
structure SteadyEquations (e : Equations D) : Prop where
  matrix : ∀ row col, Steady (e.matrix row col)
  gradient : ∀ row, Steady (e.gradient row)

theorem steadyEquations_zero : SteadyEquations (0 : Equations D) :=
  ⟨fun _ _ => zero_steady, fun _ => zero_steady⟩

theorem SteadyEquations.add {cell : Equations D} (h : SteadyEquations cell) (e : Equations D) :
    SteadyEquations (addEquations cell e) :=
  ⟨fun row col => add_steady _ (h.matrix row col), fun row => add_steady _ (h.gradient row)⟩

theorem addEquations_turned {cell : Equations D} (h : SteadyEquations cell)
    {a b : ObjectiveContribution D} (hab : ContributionsAlike a b) (count : ℕ) :
    addEquations cell ⟨b.matrix, b.gradient, b.absoluteResidual, count⟩ =
      addEquations cell ⟨a.matrix, a.gradient, a.absoluteResidual, count⟩ := by
  unfold addEquations
  have hmatrix : (fun row col => cell.matrix row col + b.matrix row col) =
      fun row col => cell.matrix row col + a.matrix row col :=
    funext fun row => funext fun col => (steady_add (h.matrix row col) (hab.matrix row col)).symm
  have hgradient : (fun row => cell.gradient row + b.gradient row) =
      fun row => cell.gradient row + a.gradient row :=
    funext fun row => (steady_add (h.gradient row) (hab.gradient row)).symm
  rw [hab.residual]
  dsimp only
  rw [hmatrix, hgradient]

variable {reference reference' scan scan' : ValidatedCloud D}

theorem accepted_turned (hr : CloudsTurned reference reference') (hs : CloudsTurned scan scan')
    (source target : ℕ) (pose : Matrix4 D) :
    accepted reference' scan' source target pose ↔ accepted reference scan source target pose := by
  have hsource := forall₂_getD hs.normals opposed_default source
  have htarget := forall₂_getD hr.normals opposed_default target
  have hdot := (hsource.applied pose).dot_same htarget
  unfold accepted
  rw [hdot.le_iff]
  simp only [ne_eq, opposed_nil_iff hr.normals, opposed_nil_iff hs.normals]

variable (eigen : Eigen D) (parameters : RegistrationParameters D)
  (referenceCovariances scanCovariances : List (Mat3 D)) (pose : Matrix4 D)
  (transformed : List (Vec3 D)) (neighbors : List ℤ)

theorem accumulatePoint_turned (hr : CloudsTurned reference reference')
    (hs : CloudsTurned scan scan') (i : ℕ) {cell : Equations D} (hcell : SteadyEquations cell) :
    accumulatePoint eigen (objective scalarOperations) parameters reference' scan'
        referenceCovariances scanCovariances pose transformed neighbors i cell =
      accumulatePoint eigen (objective scalarOperations) parameters reference scan
        referenceCovariances scanCovariances pose transformed neighbors i cell ∧
    SteadyEquations (accumulatePoint eigen (objective scalarOperations) parameters reference scan
      referenceCovariances scanCovariances pose transformed neighbors i cell) := by
  have haccepted := accepted_turned hr hs i (neighbors.getD i 0).toNat pose
  have hnormal : Opposed
      (if decide (parameters.method = .pointToPlane) = true then
        reference.normals.getD (neighbors.getD i 0).toNat default else default)
      (if decide (parameters.method = .pointToPlane) = true then
        reference'.normals.getD (neighbors.getD i 0).toNat default else default) := by
    split_ifs
    · exact forall₂_getD hr.normals opposed_default _
    · exact opposed_default
  have hcontribution := objective_turned
    { point := transformed.getD i default
      reference := reference.points.getD (neighbors.getD i 0).toNat default
      normal := if decide (parameters.method = .pointToPlane) = true then
        reference.normals.getD (neighbors.getD i 0).toNat default else default
      information :=
        if decide (parameters.method = .gicp) = true then
          informationMatrix eigen pose
            (referenceCovariances.getD (neighbors.getD i 0).toNat default)
            (scanCovariances.getD i default)
        else ![1, 0, 0, 0, 1, 0, 0, 0, 1]
      huberDelta := parameters.huberDeltaMm
      plane := parameters.method = .pointToPlane
      generalized := parameters.method = .gicp } hnormal
  unfold accumulatePoint
  dsimp only
  rw [hr.points]
  by_cases hmissing : neighbors.getD i 0 < 0
  · rw [if_pos hmissing, if_pos hmissing]
    exact ⟨rfl, hcell⟩
  · rw [if_neg hmissing, if_neg hmissing]
    by_cases hfacing : accepted reference scan i (neighbors.getD i 0).toNat pose
    · rw [if_neg (not_not.mpr hfacing), if_neg (not_not.mpr (haccepted.mpr hfacing))]
      exact ⟨addEquations_turned hcell hcontribution 1, hcell.add _⟩
    · rw [if_pos hfacing, if_pos fun h => hfacing (haccepted.mp h)]
      exact ⟨rfl, hcell⟩

theorem measurePoint_turned (hr : CloudsTurned reference reference')
    (hs : CloudsTurned scan scan') (i : ℕ) (cell : Equations D) :
    measurePoint parameters reference' scan' pose transformed neighbors i cell =
      measurePoint parameters reference scan pose transformed neighbors i cell := by
  have haccepted := accepted_turned hr hs i (neighbors.getD i 0).toNat pose
  have hnormal := forall₂_getD hr.normals opposed_default (neighbors.getD i 0).toNat
  have hsquare := square_opposite (hnormal.dot_left (sub (transformed.getD i default)
    (reference.points.getD (neighbors.getD i 0).toNat default)))
  unfold measurePoint
  dsimp only
  simp only [haccepted, hr.points]
  by_cases hplane : parameters.method = .pointToPlane
  · simp only [hplane, if_true, hsquare]
  · simp only [hplane, if_false]

end

omit [FloatArith F] [Floats F D] in
theorem reduceBlocks_log (executor : CpuExecutor) (scheduler : Scheduler) (points : ℕ)
    (step : ℕ → Equations D → Equations D) (buffers : Buffers F D) :
    (reduceBlocks executor scheduler points step).log buffers = [] := by
  unfold Action.log reduceBlocks
  dsimp only
  cases (executor.run scheduler buffers.executor points (reductionJob step)
    (List.replicate (CpuExecutor.blocks points) 0) [()]).thrown <;> rfl

section

variable [OppositeArithmetic D]

omit [FloatArith F] [Floats F D] in
theorem reduceBlocks_turned {step step' : ℕ → Equations D → Equations D}
    (h : ∀ i cell, SteadyEquations cell →
      step' i cell = step i cell ∧ SteadyEquations (step i cell))
    (executor : CpuExecutor) (scheduler : Scheduler) (points : ℕ) :
    Action.Related Eq (reduceBlocks (F := F) executor scheduler points step)
      (reduceBlocks (F := F) executor scheduler points step') := by
  have hfold : ∀ (l : List ℕ) (cell : Equations D), SteadyEquations cell →
      l.foldl (fun cell i => step' i cell) cell = l.foldl (fun cell i => step i cell) cell := by
    intro l
    induction l with
    | nil => exact fun _ _ => rfl
    | cons i l ih =>
      intro cell hcell
      obtain ⟨hsame, hsteady⟩ := h i cell hcell
      rw [List.foldl_cons, List.foldl_cons, hsame, ih _ hsteady]
  refine ⟨fun s t => ?_, fun s t => ?_⟩
  · rw [reduceBlocks_eq, reduceBlocks_eq]
    refine .ok (List.map_congr_left fun block _ => ?_)
    exact (hfold _ 0 steadyEquations_zero).symm
  · rw [reduceBlocks_log, reduceBlocks_log]

end

section

variable {P : Prepared F D} {cloud scan scan' : ValidatedCloud D} (host : Host F D)
  (fit : List (Vec3 F) → List ℤ → Option (Vec3 F)) (scheduler : Scheduler)

theorem searchPass_turned (hs : CloudsTurned scan scan') (pose : Matrix4 D) :
    searchPass (host.withFit fit) scheduler { P with referenceCloud := cloud } scan' pose =
      searchPass host scheduler P scan pose := by
  obtain ⟨points, normals⟩ := scan
  obtain ⟨points', normals'⟩ := scan'
  obtain rfl : points' = points := hs.points
  rfl

theorem cpuEvaluator_turned [OppositeArithmetic D] (hr : CloudsTurned P.referenceCloud cloud)
    (hs : CloudsTurned scan scan') (covariances : List (Mat3 D)) :
    (cpuEvaluator host scheduler P scan covariances).Related
      (cpuEvaluator (host.withFit fit) scheduler { P with referenceCloud := cloud } scan'
        covariances) := by
  have hkernel : ∀ Q : Prepared F D, Q.objectiveKernel = objective scalarOperations :=
    fun Q => objectiveKernel_eq _
  have halike : P.Alike P := ⟨rfl, rfl, rfl, rfl, rfl⟩
  have hsearch := searchPass_related halike host scheduler scheduler scan
  refine ⟨fun pose => ?_, fun pose => ?_⟩
  · unfold cpuEvaluator
    dsimp only
    rw [searchPass_turned host fit scheduler hs, hkernel, hkernel]
    refine (hsearch pose).bind ?_
    rintro ⟨transformed, neighbors⟩ _ rfl
    refine (reduceBlocks_turned (fun i cell hcell => accumulatePoint_turned host.eigen P.parameters
      P.referenceCovariances covariances pose transformed neighbors hr hs i hcell)
        P.executor scheduler
      transformed.length).bind ?_
    rintro blocks _ rfl
    exact .pure rfl
  · unfold cpuEvaluator
    dsimp only
    have hstep : measurePoint P.parameters cloud scan' pose =
        measurePoint P.parameters P.referenceCloud scan pose :=
      funext fun transformed => funext fun neighbors => funext fun i => funext fun cell =>
        measurePoint_turned P.parameters pose transformed neighbors hr hs i cell
    rw [searchPass_turned host fit scheduler hs, hstep]
    refine (hsearch pose).bind ?_
    rintro ⟨transformed, neighbors⟩ _ rfl
    refine (reduceBlocks_related P.executor P.executor scheduler scheduler
      transformed.length _).bind ?_
    rintro blocks _ rfl
    exact .pure rfl

/-- A device that sees no signs: its passes are those of the normals turned over. -/
structure Device.SignBlind (device : Device D) : Prop where
  prepare {cloud cloud' : ValidatedCloud D} :
    CloudsTurned cloud cloud' → ∀ method neighbors epsilon,
    device.prepare cloud' method neighbors epsilon = device.prepare cloud method neighbors epsilon
  evaluate (pass : DevicePass D) {reference scan : ValidatedCloud D} :
    CloudsTurned pass.reference reference → CloudsTurned pass.scan scan →
      device.evaluate { pass with reference := reference, scan := scan } = device.evaluate pass

omit [FloatArith F] [Floats F D] in
theorem deviceEvaluator_turned {device : Device D} (hdevice : device.SignBlind)
    (hr : CloudsTurned P.referenceCloud cloud) (hs : CloudsTurned scan scan') :
    (deviceEvaluator device P scan).Related
      (deviceEvaluator device { P with referenceCloud := cloud } scan') := by
  have hpass : ∀ finalMetrics pose, device.evaluate
        { reference := cloud
          scan := scan'
          method := P.parameters.method
          covarianceNeighbors := P.parameters.covarianceNeighbors
          covarianceEpsilon := P.parameters.covarianceEpsilon
          pose := pose
          bound := P.parameters.maxCorrespondenceDistanceMm
          huberDelta := P.parameters.huberDeltaMm
          finalMetrics := finalMetrics } =
      device.evaluate
        { reference := P.referenceCloud
          scan := scan
          method := P.parameters.method
          covarianceNeighbors := P.parameters.covarianceNeighbors
          covarianceEpsilon := P.parameters.covarianceEpsilon
          pose := pose
          bound := P.parameters.maxCorrespondenceDistanceMm
          huberDelta := P.parameters.huberDeltaMm
          finalMetrics := finalMetrics } :=
    fun finalMetrics pose => hdevice.evaluate ⟨_, _, _, _, _, _, _, _, _⟩ hr hs
  unfold deviceEvaluator
  dsimp only
  simp only [hpass]
  refine ⟨fun pose => .lift (Outcome.eq_iff.mpr rfl), fun pose => ?_⟩
  refine (Action.Related.lift (Outcome.eq_iff.mpr rfl)).bind ?_
  rintro equations _ rfl
  exact .pure rfl

end

/-- A host whose device, if any, sees no signs. -/
def Host.SignBlind (host : Host F D) : Prop :=
  ∀ device, host.device = some device → device.SignBlind

/-- Preparations of one reference with opposite normals. -/
structure PreparationsTurned (P P' : Prepared F D) : Prop where
  same : P' = { P with referenceCloud := P'.referenceCloud }
  cloud : CloudsTurned P.referenceCloud P'.referenceCloud
  device : ∀ device, P.device = some device → device.SignBlind

section

variable {host : Host F D} {cloud cloud' : ValidatedCloud D}

omit [FloatArith F] [FloatArith D] [Floats F D] in
theorem searchDevice_eq {device : Option (Device D)} {backend : ComputeBackend}
    {found : Device D} (h : searchDevice device backend = .ok (some found)) :
    device = some found := by
  unfold searchDevice at h
  split_ifs at h
  · cases Except.ok.inj h
  · cases device with
    | none => cases h
    | some device => exact Except.ok.inj h

omit [FloatArith F] [Floats F D] in
theorem checkedReference_turned [OppositeArithmetic D] (h : CloudsTurned cloud cloud')
    (parameters : RegistrationParameters D) :
    checkedReference cloud' parameters = checkedReference cloud parameters := by
  have hshort : (∃ normal ∈ cloud'.normals, Registration.norm normal < lit (1 / 2)) ↔
      ∃ normal ∈ cloud.normals, Registration.norm normal < lit (1 / 2) := by
    have hnormals := h.normals
    revert hnormals
    generalize cloud.normals = normals
    generalize cloud'.normals = normals'
    intro hnormals
    induction hnormals with
    | nil => rfl
    | cons hvw _ ih => simp only [List.exists_mem_cons_iff, hvw.norm_eq, ih]
  unfold checkedReference
  simp only [h.points, opposed_nil_iff h.normals, hshort]

omit [FloatArith F] [Floats F D] in
theorem prepareDevice_turned (h : CloudsTurned cloud cloud') {device : Option (Device D)}
    (hdevice : ∀ found, device = some found → found.SignBlind)
    (parameters : RegistrationParameters D) :
    prepareDevice device cloud' parameters = prepareDevice device cloud parameters := by
  cases device with
  | none => rfl
  | some device => exact (hdevice device rfl).prepare h ..

theorem prepareCovariances_turned (h : CloudsTurned cloud cloud')
    (fit : List (Vec3 F) → List ℤ → Option (Vec3 F)) (scheduler : Scheduler)
    (executor : CpuExecutor) (parameters : RegistrationParameters D) (backend : ComputeBackend) :
    prepareCovariances (host.withFit fit) scheduler executor cloud' parameters backend =
      prepareCovariances host scheduler executor cloud parameters backend := by
  obtain ⟨points, normals⟩ := cloud
  obtain ⟨points', normals'⟩ := cloud'
  obtain rfl : points' = points := h.points
  rfl

end

section

variable [OppositeArithmetic F] [OppositeArithmetic D] [OppositeConversions F D]
  {s t : SurfaceView F} {host : Host F D}
  (fit : List (Vec3 F) → List ℤ → Option (Vec3 F)) (scheduler : Scheduler)

theorem prepared_create_turned (hblind : host.SignBlind) (h : Turned s t)
    (parameters : RegistrationParameters D)
    (maxScanPoints : ℕ) (backend : ComputeBackend) :
    Outcome (fun a b => PreparationsTurned a.1 b.1)
      (Prepared.create host scheduler s parameters maxScanPoints backend)
      (Prepared.create (host.withFit fit) scheduler t parameters maxScanPoints backend) := by
  have hcloud := extractValid_turned (D := D) h
  have hsize : t.size = s.size := by rw [h.surface]; rfl
  unfold Prepared.create
  dsimp only
  rw [hsize, checkedReference_turned hcloud]
  refine (Outcome.eq_iff.mpr rfl).bind ?_
  rintro kernel _ rfl
  refine (Outcome.eq_iff.mpr rfl).bind ?_
  rintro executor _ rfl
  refine (Outcome.eq_iff.mpr rfl).bind ?_
  rintro _ _ rfl
  refine (Outcome.eq_iff.mpr (rfl : searchDevice host.device backend = _)).bind_of_eq ?_
  rintro device _ hdevice _ rfl
  have hfound : ∀ found, device = some found → found.SignBlind := by
    rintro found rfl
    exact hblind found (searchDevice_eq hdevice)
  rw [prepareDevice_turned hcloud hfound, prepareCovariances_turned hcloud]
  refine (Outcome.eq_iff.mpr rfl).bind ?_
  rintro _ _ rfl
  refine (Outcome.eq_iff.mpr rfl).bind ?_
  rintro covariances _ rfl
  refine .ok ⟨?_, hcloud, hfound⟩
  have hpoints : searchPoints (F := F) (extractValid D t) = searchPoints (extractValid D s) := by
    unfold searchPoints
    rw [hcloud.points]
  dsimp only
  rw [hpoints]

variable {P P' : Prepared F D}

omit [OppositeArithmetic F] [OppositeArithmetic D] [OppositeConversions F D] in
theorem scanCovariances_turned (h : PreparationsTurned P P') {scan scan' : ValidatedCloud D}
    (hs : CloudsTurned scan scan') :
    scanCovariances (host.withFit fit) scheduler P' scan' =
      scanCovariances host scheduler P scan := by
  obtain ⟨points, normals⟩ := scan
  obtain ⟨points', normals'⟩ := scan'
  obtain rfl : points' = points := hs.points
  rw [h.same]
  rfl

theorem alignImpl_turned (h : PreparationsTurned P P') (hs : Turned s t)
    (initial : RigidTransform D) :
    Action.Related Eq (P.alignImpl host scheduler s initial)
      (P'.alignImpl (host.withFit fit) scheduler t initial) := by
  have hcloud := extractValid_turned (D := D) hs
  have halike : P.Alike P := ⟨rfl, rfl, rfl, rfl, rfl⟩
  unfold Prepared.alignImpl
  dsimp only
  rw [scanCovariances_turned fit scheduler h hcloud, hcloud.points]
  split_ifs
  · exact .throw _
  · refine (scanCovariances_related halike host scheduler scheduler _).bind ?_
    rintro covariances _ rfl
    rw [h.same]
    dsimp only
    cases hdevice : P.device with
    | none =>
      exact alignWith_related (cpuEvaluator_turned host fit scheduler h.cloud hcloud covariances)
        host.eigen P.parameters initial _
    | some device =>
      exact alignWith_related (deviceEvaluator_turned (h.device device hdevice) h.cloud hcloud)
        host.eigen P.parameters initial _

end

/-- Contexts over one reference with opposite normals. -/
structure ContextsTurned (c d : RegistrationContext F D) : Prop where
  prepared : PreparationsTurned c.prepared d.prepared
  reference : Turned c.reference.view d.reference.view
  capacity : d.capacity = c.capacity
  backend : d.backend = c.backend
  parameters : d.parameters = c.parameters

section

variable [OppositeArithmetic F] [OppositeArithmetic D] [OppositeConversions F D]
  {s t : SurfaceView F} {host : Host F D}
  (fit : List (Vec3 F) → List ℤ → Option (Vec3 F)) (scheduler : Scheduler)

theorem context_create_turned (hblind : host.SignBlind) (h : Turned s t)
    (parameters : RegistrationParameters D) (maxScanPoints : ℕ) (backend : ComputeBackend) :
    Outcome ContextsTurned
      (RegistrationContext.create host scheduler s parameters maxScanPoints backend)
      (RegistrationContext.create
        (host.withFit fit) scheduler t parameters maxScanPoints backend) := by
  obtain ⟨normals, rfl, hn⟩ := h.exists
  unfold RegistrationContext.create
  refine (Outcome.eq_iff.mpr rfl).bind fun _ _ _ => ?_
  refine (Outcome.eq_iff.mpr rfl).bind fun _ _ _ => ?_
  refine (Outcome.eq_iff.mpr rfl).bind fun _ _ _ => ?_
  refine (OwnedSurface.create_turned hn s.unit s.frame).bind fun snapshot snapshot' hsnapshot => ?_
  have hprepared : Outcome (fun a b => PreparationsTurned a.1 b.1)
      (prepareRegistration host scheduler snapshot.view parameters maxScanPoints
        (contextBackend host backend s.size maxScanPoints))
      (prepareRegistration (host.withFit fit) scheduler snapshot'.view parameters maxScanPoints
        (contextBackend host backend s.size maxScanPoints)) := by
    unfold prepareRegistration
    split_ifs
    · exact .error _
    · exact prepared_create_turned fit scheduler hblind hsnapshot parameters maxScanPoints _
  exact (hprepared.mapError catchContext).bind fun a b hab => .ok ⟨hab, hsnapshot, rfl, rfl, rfl⟩

omit [Floats F D] [OppositeArithmetic D] [OppositeConversions F D] in
theorem checkScan_turned {c d : RegistrationContext F D} (h : ContextsTurned c d) (hs : Turned s t)
    (initial : RigidTransform D) : d.checkScan t initial = c.checkScan s initial := by
  obtain ⟨normals, rfl, hn⟩ := hs.exists
  have hcreate : (SurfaceView.create s.points normals s.valid s.grid s.unit s.frame).map
        (fun _ => ()) =
      (SurfaceView.create s.points s.normals s.valid s.grid s.unit s.frame).map fun _ => () := by
    unfold SurfaceView.create
    rw [validateSurfaceData_turned hn]
    cases validateSurfaceData s.points s.normals s.valid s.grid <;> rfl
  have hinput : checkRegistrationInput d.reference.view { s with normals := normals } initial
      c.parameters = checkRegistrationInput c.reference.view s initial c.parameters := by
    rw [h.reference.surface]
    rfl
  unfold RegistrationContext.checkScan
  rw [h.capacity, h.parameters, hinput, hcreate]
  rfl

theorem context_align_turned {c d : RegistrationContext F D} (h : ContextsTurned c d)
    (hs : Turned s t) (initial : RigidTransform D) :
    (d.align (host.withFit fit) scheduler t initial).1 = (c.align host scheduler s initial).1 := by
  unfold RegistrationContext.align
  rw [checkScan_turned h hs]
  cases c.checkScan s initial with
  | error e => rfl
  | ok u =>
    have hended : Action.Related Eq (c.prepared.alignImpl host scheduler s initial)
        (d.prepared.alignImpl (host.withFit fit) scheduler t initial) :=
      alignImpl_turned fit scheduler h.prepared hs initial
    exact congrArg (caught catchBackend) (hended.outcome_eq c.buffers d.buffers).symm

end

end PointcloudAd
