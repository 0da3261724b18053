import PointcloudAd.Cuda.DeviceRuns
import PointcloudAd.Registration.SolverAgreement

/-!
# Alignment over a resident search

A reference that is prepared on a device, and alignments that upload their scan to its search and
evaluate their passes there. Each call of the search may fail at any of its device calls, and the
next alignment starts from the search that is left.
-/

namespace PointcloudAd.Registration

open Library Library.Faulty

section

variable {F D σ ω α : Type}

/-- Calls of the search, as a step of an alignment. -/
def cudaAction (m : Cuda D σ α) : Action (DeviceState D σ) ω Exn α := fun s =>
  let ended := outcome m s
  (ended.1, ended.2, [])

end

section

variable {F D : Type} [FloatArith F] [FloatArith D] [Floats F D]

def passArguments (parameters : RegistrationParameters D) (pose : Matrix4 D)
    (finalMetrics : Bool) : EvaluateArguments D where
  matrix := pose
  radius := parameters.maxCorrespondenceDistanceMm
  huber := parameters.huberDeltaMm
  plane := parameters.method = .pointToPlane
  finalMetrics

/-- The passes of an alignment over the search of its reference. -/
def residentEvaluator (kernels : CudaKernels F D) (current : ℤ)
    (parameters : RegistrationParameters D) : Evaluator (DeviceState D (Search F D)) D where
  equations pose := do
    let values ← cudaAction (evaluate kernels current (passArguments parameters pose false))
    return Cuda.equationsOf F values
  metrics pose := do
    let values ← cudaAction (evaluate kernels current (passArguments parameters pose true))
    return (values 42, Cuda.truncated F (values 43))

/-- `Prepared::align` with a search on the device, without its exception handlers. -/
def residentAlign (kernels : CudaKernels F D) (current : ℤ) (eigen : Eigen D)
    (parameters : RegistrationParameters D) (scan : SurfaceView F) (initial : RigidTransform D) :
    Action (DeviceState D (Search F D)) (Equations D) Exn (Result (RegistrationMetrics D)) := do
  let cloud := extractValid D scan
  if cloud.points = [] then
    Action.throw (.invalidArgument "registration requires valid scan points")
  else
    cudaAction (uploadScan kernels current cloud.points cloud.normals)
    alignWith F (residentEvaluator kernels current parameters) eigen parameters initial
      cloud.points.length

/-- The search of the constructor of `Prepared`, prepared for its reference. -/
def prepareSearch {σ : Type} (kernels : CudaKernels F D) (current : ℤ) (cloud : ValidatedCloud D)
    (parameters : RegistrationParameters D) (maxScanPoints : ℕ) : Cuda D σ (Search F D) := do
  Faulty.ofExcept (checkedReference cloud parameters)
  let created ← createSearch current (searchPoints cloud) maxScanPoints .indexed
  let resident ← withObject created (prepareResident cloud.normals)
  if parameters.method = .gicp then
    let prepared ← withObject resident
      (prepareGicp kernels parameters.covarianceNeighbors parameters.covarianceEpsilon)
    return ⟨prepared, none⟩
  else return ⟨resident, none⟩

/-- An alignment that came before, and what it met: the current device and the replies. -/
structure EarlierAlignment (F D : Type) [FloatArith D] where
  scan : SurfaceView F
  initial : RigidTransform D
  environment : Environment

/-- The search that an alignment leaves. -/
def searchAfter (kernels : CudaKernels F D) (eigen : Eigen D)
    (parameters : RegistrationParameters D) (search : Search F D)
    (earlier : EarlierAlignment F D) : Search F D :=
  (residentAlign kernels earlier.environment.current eigen parameters earlier.scan earlier.initial
    ⟨search, earlier.environment.replies, []⟩).2.1.object

end

section

variable {F D σ ω α : Type} {P : σ → Prop}

theorem cudaAction_silent (m : Cuda D σ α) :
    Action.Silent (cudaAction m : Action (DeviceState D σ) ω Exn α) := fun _ => rfl

theorem cudaAction_keeps {m : Cuda D σ α} (h : KeepsObject P m) :
    Action.Keeps (fun s : DeviceState D σ => P s.object)
      (cudaAction m : Action (DeviceState D σ) ω Exn α) := h

/-- A state of the device whose object is known, and whose device calls succeed. -/
def Responsive (o : σ) (s : DeviceState D σ) : Prop :=
  s.object = o ∧ ∀ reply ∈ s.replies, reply = none

theorem cudaAction_bind {β : Type} {m : Cuda D σ α} {o o' : σ} {a : α} (h : Runs o m a o')
    {s : DeviceState D σ} (hs : Responsive o s) (f : α → Action (DeviceState D σ) ω Exn β) :
    ∃ s', Responsive o' s' ∧ (cudaAction m >>= f) s = f a s' := by
  obtain ⟨s', hrun, hs', hreplies⟩ := h s hs.1 hs.2
  refine ⟨s', ⟨hs', hreplies⟩, ?_⟩
  change Action.bind (cudaAction m) f s = _
  unfold Action.bind cudaAction
  rw [hrun]
  rfl

end

section

variable {F D : Type} [FloatArith F] [FloatArith D] [Floats F D]

/-- An alignment keeps what each of its calls keeps. -/
theorem residentAlign_keeps {P : Search F D → Prop} {kernels : CudaKernels F D}
    {current : ℤ} (hupload : ∀ points normals, Keeps P (uploadScan kernels current points normals))
    (eigen : Eigen D) (parameters : RegistrationParameters D) (scan : SurfaceView F)
    (initial : RigidTransform D) :
    Action.Keeps (fun s : DeviceState D (Search F D) => P s.object)
      (residentAlign kernels current eigen parameters scan initial) := by
  have hevaluate : ∀ arguments, Action.Keeps (fun s : DeviceState D (Search F D) => P s.object)
      (cudaAction (evaluate kernels current arguments) :
        Action (DeviceState D (Search F D)) (Equations D) Exn _) := fun arguments =>
    cudaAction_keeps (evaluate_keepsObject kernels current arguments)
  have hsolve : ∀ (remaining iteration : ℕ) (state : SolverState D),
      Action.Keeps (fun s : DeviceState D (Search F D) => P s.object)
        (solve F (residentEvaluator kernels current parameters) eigen parameters iteration
          remaining state) := by
    intro remaining
    induction remaining with
    | zero => exact fun _ _ => .pure _
    | succ remaining ih =>
      intro iteration state
      refine ((hevaluate _).bind fun _ => .pure _).bind fun equations =>
        (Action.Keeps.emit equations).bind fun _ => ?_
      dsimp only
      split_ifs
      · exact .pure _
      · exact ih _ _
  unfold residentAlign
  dsimp only
  split_ifs
  · exact .throw _
  · refine (cudaAction_keeps (hupload _ _).object).bind fun _ => (hsolve _ _ _).bind fun state => ?_
    dsimp only
    split
    · exact .pure _
    · exact ((hevaluate _).bind fun _ => .pure _).bind fun _ => .pure _

theorem searchAfter_serves (kernels : CudaKernels F D) (eigen : Eigen D)
    (parameters : RegistrationParameters D) {reference : List (Vec3 F)} {normals : List (Vec3 D)}
    {capacity : ℕ} {device : ℤ} (earlier : List (EarlierAlignment F D)) {search : Search F D}
    (hsearch : ServesAlone reference normals capacity device search) :
    ServesAlone reference normals capacity device
      (earlier.foldl (searchAfter kernels eigen parameters) search) := by
  induction earlier generalizing search with
  | nil => exact hsearch
  | cons call earlier ih =>
    exact ih (residentAlign_keeps (fun points scanNormals =>
      uploadScan_serves kernels call.environment.current points scanNormals) eigen parameters
        call.scan call.initial ⟨search, call.environment.replies, []⟩ hsearch)

/-- What a successful preparation shows of its reference, and leaves. -/
structure PreparedFor (cloud : ValidatedCloud D) (parameters : RegistrationParameters D)
    (capacity : ℕ) (device : ℤ) (search : Search F D) : Prop where
  checked : checkedReference cloud parameters = .ok ()
  bounded : cloud.points.length ≤ 2 ^ 31 - 1
  finite : ∀ point ∈ (searchPoints cloud : List (Vec3 F)), point.finite = true
  serves : ServesAlone (searchPoints cloud) cloud.normals capacity device search

theorem ofExcept_ok {ε σ α β : Type} {x : Except ε α} {f : α → Faulty ε σ β} {s s' : σ} {b : β}
    (h : outcome (Faulty.ofExcept x >>= f) s = (.ok b, s')) :
    ∃ a, x = .ok a ∧ outcome (f a) s = (.ok b, s') := by
  rw [outcome_bind] at h
  cases x with
  | error e => cases h
  | ok a => exact ⟨a, rfl, h⟩

omit [Floats F D] in
theorem createSearch_checked {σ : Type} (launches : List (Launch D)) (current : ℤ)
    (reference : List (Vec3 F)) (queryCapacity : ℕ) (strategy : SearchStrategy) :
    Triple (At (fun _ : σ => True) launches)
      (createSearch (D := D) current reference queryCapacity strategy)
      (fun members => At (fun _ => (reference.length ≤ 2 ^ 31 - 1 ∧
        ∀ point ∈ reference, point.finite = true) ∧
          members = .created strategy reference queryCapacity current) launches)
      (fun _ => True) := by
  unfold createSearch
  refine Triple.require_bind (fun _ _ => trivial) fun hsize => ?_
  refine Triple.require_bind (fun _ _ => trivial) fun hfinite => ?_
  have hcalls : Keeps (D := D) (fun _ : σ => True)
      (forM (constructorCalls strategy) deviceCall) :=
    .forM fun operation _ => .deviceCall operation
  refine ((hcalls launches).weaken (fun _ h => h) (fun _ _ h => h) fun _ _ => trivial).bind
    fun _ => .pure fun s hs => ⟨⟨⟨hsize.2.2.1, hfinite⟩, rfl⟩, hs.2⟩

theorem prepareSearch_ok {σ : Type} {kernels : CudaKernels F D} {device : ℤ}
    {cloud : ValidatedCloud D} {parameters : RegistrationParameters D} {capacity : ℕ}
    (hmethod : parameters.method ≠ .gicp) {s s' : DeviceState D σ} {search : Search F D}
    (h : outcome (prepareSearch kernels device cloud parameters capacity) s = (.ok search, s')) :
    PreparedFor cloud parameters capacity device search := by
  unfold prepareSearch at h
  obtain ⟨⟨⟩, hchecked, h⟩ := ofExcept_ok h
  simp only [if_neg hmethod] at h
  let Checked : Prop := (searchPoints cloud : List (Vec3 F)).length ≤ 2 ^ 31 - 1 ∧
    ∀ point ∈ (searchPoints cloud : List (Vec3 F)), point.finite = true
  have hsearch : Triple (At (fun _ : σ => True) s.launches)
      (createSearch device (searchPoints cloud) capacity .indexed >>= fun created =>
        withObject created (prepareResident cloud.normals) >>= fun resident =>
          pure (⟨resident, none⟩ : Search F D))
      (fun search _ => Checked ∧
        ServesAlone (searchPoints cloud) cloud.normals capacity device search)
      (fun _ => True) := by
    refine (createSearch_checked s.launches device _ capacity .indexed).bind fun created => ?_
    rintro t ⟨⟨hsize, rfl⟩, hlaunches⟩
    have hcreated : AsCreated (D := D) (searchPoints cloud : List (Vec3 F)) capacity device
        (.created .indexed (searchPoints cloud) capacity device) := ⟨rfl, rfl, rfl, rfl⟩
    refine ((withObject_spec (P := fun _ : σ => Checked)
      (prepareResident_serves s.launches hcreated cloud.normals)).weaken
        (fun _ h => h) (fun _ _ h => h) fun _ _ => trivial).bind (fun resident =>
          .pure fun u hu => ⟨hu.1.1, hu.1.2, rfl⟩) t ⟨hsize, hlaunches⟩
  obtain ⟨⟨hbounded, hfinite⟩, hserves⟩ := hsearch.ok ⟨trivial, rfl⟩ h
  refine ⟨hchecked, ?_, hfinite, hserves⟩
  rwa [searchPoints, List.length_map] at hbounded

end

end PointcloudAd.Registration
