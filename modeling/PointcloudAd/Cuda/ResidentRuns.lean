import PointcloudAd.Cuda.ResidentCalls

/-!
# Runs of the resident search

Any sequence of calls, with any replies of the device. An evaluation launches its kernels with the
most recent scan. Its covariances are those of that scan unless the reference's were prepared after
the scan was uploaded: then the scan has none, and the kernels are launched all the same.
-/

namespace PointcloudAd

open Library Library.Faulty

inductive Call (F D : Type) where
  | prepareResident (normals : List (Vec3 D))
  | prepareGicp (k : UInt32) (epsilon : D)
  | uploadScan (points normals : List (Vec3 D))
  | queryInto (points : List (Vec3 F)) (maxDistanceMm : D)
  | evaluate (arguments : EvaluateArguments D)

/-- The device that is current during a call, and the replies of the call's device calls. -/
structure Environment where
  current : ℤ
  replies : List (Option String)

/-- The points and normals of a successful upload. -/
abbrev Upload (D : Type) : Type := List (Vec3 D) × List (Vec3 D)

/-- A call of `evaluate`: the search before it, the most recent upload, whether covariances of the
reference were prepared since, and what the call did. -/
structure Evaluation (F D : Type) where
  impl : Search F D
  environment : Environment
  arguments : EvaluateArguments D
  lastUpload : Option (Upload D)
  gicpSinceUpload : Bool
  launches : List (Launch D)
  result : Except Exn (Fin 45 → D)

/-- A search, and its history. -/
structure SearchRun (F D : Type) where
  impl : Search F D
  lastUpload : Option (Upload D) := none
  gicpSinceUpload : Bool := false
  evaluations : List (Evaluation F D) := []

section

variable {F D α : Type}

def perform (impl : Search F D) (environment : Environment) (m : Cuda D (Search F D) α) :
    Except Exn α × DeviceState D (Search F D) :=
  outcome m ⟨impl, environment.replies, []⟩

/-- What a call without a record leaves. -/
def SearchRun.kept (run : SearchRun F D) : Except Exn α × DeviceState D (Search F D) → SearchRun F D
  | (_, s) => { run with impl := s.object }

def SearchRun.gicpPrepared (run : SearchRun F D) :
    Except Exn Unit × DeviceState D (Search F D) → SearchRun F D
  | (.ok _, s) => { run with impl := s.object, gicpSinceUpload := true }
  | (.error _, s) => { run with impl := s.object }

def SearchRun.scanUploaded (run : SearchRun F D) (upload : Upload D) :
    Except Exn Unit × DeviceState D (Search F D) → SearchRun F D
  | (.ok _, s) => { run with impl := s.object, lastUpload := some upload, gicpSinceUpload := false }
  | (.error _, s) => { run with impl := s.object }

def SearchRun.evaluated (run : SearchRun F D) (environment : Environment)
    (arguments : EvaluateArguments D) :
    Except Exn (Fin 45 → D) × DeviceState D (Search F D) → SearchRun F D
  | (result, s) =>
    { run with
      impl := s.object
      evaluations := run.evaluations ++ [{
        impl := run.impl, environment, arguments, lastUpload := run.lastUpload,
        gicpSinceUpload := run.gicpSinceUpload, launches := s.launches, result }] }

end

section

variable {F D : Type} [FloatArith F] [FloatArith D] [Floats F D]

def SearchRun.next (kernels : CudaKernels F D) (run : SearchRun F D) :
    Call F D × Environment → SearchRun F D
  | (.prepareResident normals, environment) =>
    run.kept (perform run.impl environment (onMembers (prepareResident normals)))
  | (.prepareGicp k epsilon, environment) =>
    run.gicpPrepared (perform run.impl environment (onMembers (prepareGicp kernels k epsilon)))
  | (.uploadScan points normals, environment) =>
    run.scanUploaded (points, normals)
      (perform run.impl environment (uploadScan kernels environment.current points normals))
  | (.queryInto points maxDistanceMm, environment) =>
    run.kept (perform run.impl environment
      (queryInto kernels environment.current points maxDistanceMm))
  | (.evaluate arguments, environment) =>
    run.evaluated environment arguments
      (perform run.impl environment (evaluate kernels environment.current arguments))

/-- The calls in their order, on a new search. -/
def runCalls (kernels : CudaKernels F D) (members : SearchMembers F D)
    (calls : List (Call F D × Environment)) : SearchRun F D :=
  calls.foldl (SearchRun.next kernels) { impl := ⟨members, none⟩ }

/-- The kernels get the points of one scan, its normals if it has some, and with covariances of the
reference those of the scan under the same settings. -/
structure Launch.Uses (kernels : CudaKernels F D) (reference : List (Vec3 F)) (upload : Upload D)
    (launch : Launch D) : Prop where
  points : launch.points = .allocated (some upload.1)
  count : launch.count = upload.1.length
  normals : launch.normals = if upload.2 = [] then .null else .allocated (some upload.2)
  covariances : launch.referenceCovariances ≠ .null → ∃ k epsilon values scanValues,
    kernels.covariances reference k epsilon = some values ∧
      launch.referenceCovariances = .allocated (some values) ∧
      kernels.covariances (packedScan upload.1) k epsilon = some scanValues ∧
      launch.scanCovariances = .allocated (some scanValues)

/-- An evaluation launches its kernels with the data of the most recent upload, or throws. -/
structure Evaluation.Proper (kernels : CudaKernels F D) (reference : List (Vec3 F))
    (evaluation : Evaluation F D) : Prop where
  uses : ∀ launch ∈ evaluation.launches, ∃ upload, evaluation.lastUpload = some upload ∧
    launch.Uses kernels reference upload
  throws : evaluation.launches = [] → ∃ error, evaluation.result = .error error

/-- The evaluation's checks pass although covariances were prepared after the scan's upload. -/
def Evaluation.Outdated (evaluation : Evaluation F D) : Prop :=
  evaluation.gicpSinceUpload = true ∧ Accepts evaluation.impl evaluation.environment.current
    evaluation.environment.replies evaluation.arguments

structure HoldsScan (impl : Search F D) (upload : Upload D) : Prop where
  scan : impl.scan = .allocated (some upload.1)
  scanCount : impl.scanCount = upload.1.length
  hasScanNormals : impl.hasScanNormals = decide (upload.2 ≠ [])
  scanNormals : upload.2 ≠ [] → impl.scanNormals = .allocated (some upload.2)

structure Consistent (kernels : CudaKernels F D) (reference : List (Vec3 F)) (run : SearchRun F D) :
    Prop where
  sameReference : run.impl.reference = reference
  resident : run.impl.scanCount ≠ 0 → run.impl.resident = true
  unprepared : run.impl.covarianceNeighbors = 0 →
    run.impl.scanSearch = none ∧ run.gicpSinceUpload = false
  prepared : run.impl.covarianceNeighbors ≠ 0 → ∃ values,
    kernels.covariances reference run.impl.covarianceNeighbors run.impl.covarianceEpsilon =
      some values ∧ run.impl.covariances = .allocated (some values)
  scan : run.impl.scanCount ≠ 0 → ∃ upload, run.lastUpload = some upload ∧
    HoldsScan run.impl upload ∧ (run.impl.covarianceNeighbors ≠ 0 →
      if run.gicpSinceUpload then run.impl.scanSearch = none
      else HasScanCovariances kernels run.impl upload.1 run.impl.scanSearch)

variable {kernels : CudaKernels F D} {reference : List (Vec3 F)} {run : SearchRun F D}

theorem consistent_created (strategy : SearchStrategy) (capacity : ℕ) (device : ℤ) :
    Consistent kernels reference
      { impl := ⟨.created strategy reference capacity device, none⟩ } where
  sameReference := rfl
  resident h := absurd rfl h
  unprepared _ := ⟨rfl, rfl⟩
  prepared h := absurd rfl h
  scan h := absurd rfl h

theorem Consistent.of_evaluations (h : Consistent kernels reference run)
    (evaluations : List (Evaluation F D)) :
    Consistent kernels reference { run with evaluations } :=
  ⟨h.sameReference, h.resident, h.unprepared, h.prepared, h.scan⟩

theorem Consistent.prepareResident (h : Consistent kernels reference run)
    {impl : Search F D} (hsearch : impl.scanSearch = run.impl.scanSearch)
    (hfresh : run.impl.resident = false)
    (hkeep : KeepsCovariances run.impl.toSearchMembers impl.toSearchMembers) :
    Consistent kernels reference { run with impl } := by
  have hcount : run.impl.scanCount = 0 := by
    by_contra hne
    rw [h.resident hne] at hfresh
    cases hfresh
  have hcount' : impl.scanCount = 0 := hkeep.scanCount.trans hcount
  refine ⟨hkeep.reference.trans h.sameReference, fun hne => absurd hcount' hne, fun hnone => ?_,
    fun hsome => ?_, fun hne => absurd hcount' hne⟩
  · rw [hkeep.covarianceNeighbors] at hnone
    rw [hsearch]
    exact h.unprepared hnone
  · rw [hkeep.covarianceNeighbors] at hsome
    rw [hkeep.covarianceNeighbors, hkeep.covarianceEpsilon, hkeep.covariances]
    exact h.prepared hsome

omit [FloatArith F] [FloatArith D] [Floats F D] in
theorem HoldsScan.of_keeps {impl impl' : Search F D} {upload : Upload D}
    (h : HoldsScan impl upload) (hkeep : KeepsScan impl.toSearchMembers impl'.toSearchMembers) :
    HoldsScan impl' upload where
  scan := hkeep.scan.trans h.scan
  scanCount := hkeep.scanCount.trans h.scanCount
  hasScanNormals := hkeep.hasScanNormals.trans h.hasScanNormals
  scanNormals hnormals := hkeep.scanNormals.trans (h.scanNormals hnormals)

theorem Consistent.prepareGicp_failed (h : Consistent kernels reference run)
    {impl : Search F D} (hsearch : impl.scanSearch = run.impl.scanSearch)
    (hnone : run.impl.covarianceNeighbors = 0)
    (hkeep : KeepsScan run.impl.toSearchMembers impl.toSearchMembers)
    (hnone' : impl.covarianceNeighbors = 0) : Consistent kernels reference { run with impl } := by
  refine ⟨hkeep.reference.trans h.sameReference, fun hne => ?_, fun _ => ?_, fun hsome => ?_,
    fun hne => ?_⟩
  · rw [hkeep.scanCount] at hne
    exact hkeep.resident.trans (h.resident hne)
  · rw [hsearch]
    exact h.unprepared hnone
  · exact absurd hnone' hsome
  · rw [hkeep.scanCount] at hne
    obtain ⟨upload, hupload, hholds, -⟩ := h.scan hne
    exact ⟨upload, hupload, hholds.of_keeps hkeep, fun hsome => absurd hnone' hsome⟩

/-- A preparation of covariances that succeeds: an uploaded scan has none. -/
theorem Consistent.prepareGicp (h : Consistent kernels reference run)
    {impl : Search F D} {k : UInt32} {epsilon : D} {values : List (Covariance D)}
    (hsearch : impl.scanSearch = run.impl.scanSearch) (hnone : run.impl.covarianceNeighbors = 0)
    (hkeep : KeepsScan run.impl.toSearchMembers impl.toSearchMembers)
    (hk : impl.covarianceNeighbors = k) (hne : k ≠ 0) (hepsilon : impl.covarianceEpsilon = epsilon)
    (hvalues : kernels.covariances run.impl.reference k epsilon = some values)
    (harray : impl.covariances = .allocated (some values)) :
    Consistent kernels reference { run with impl, gicpSinceUpload := true } := by
  have hscanSearch : impl.scanSearch = none := hsearch.trans (h.unprepared hnone).1
  refine ⟨hkeep.reference.trans h.sameReference, fun hcount => ?_, fun hzero => ?_, fun _ => ?_,
    fun hcount => ?_⟩
  · rw [hkeep.scanCount] at hcount
    exact hkeep.resident.trans (h.resident hcount)
  · exact absurd (hk.symm.trans hzero) hne
  · rw [hk, hepsilon, ← h.sameReference]
    exact ⟨values, hvalues, harray⟩
  · rw [hkeep.scanCount] at hcount
    obtain ⟨upload, hupload, hholds, -⟩ := h.scan hcount
    exact ⟨upload, hupload, hholds.of_keeps hkeep, fun _ => hscanSearch⟩

theorem Consistent.dropped (h : Consistent kernels reference run) {impl : Search F D}
    (hdropped : Dropped run.impl impl) : Consistent kernels reference { run with impl } := by
  obtain ⟨hcount, hkeep, hsearch⟩ := hdropped
  refine ⟨hkeep.reference.trans h.sameReference, fun hne => absurd hcount hne, fun hnone => ?_,
    fun hsome => ?_, fun hne => absurd hcount hne⟩
  · rw [hkeep.covarianceNeighbors] at hnone
    rw [hsearch]
    exact h.unprepared hnone
  · rw [hkeep.covarianceNeighbors] at hsome
    rw [hkeep.covarianceNeighbors, hkeep.covarianceEpsilon, hkeep.covariances]
    exact h.prepared hsome

theorem Consistent.uploaded (h : Consistent kernels reference run) {impl : Search F D}
    {points normals : List (Vec3 D)} (hup : Uploaded kernels run.impl points normals impl) :
    Consistent kernels reference
      { run with impl, lastUpload := some (points, normals), gicpSinceUpload := false } := by
  have hkeep := hup.settings
  have hsearch := hup.search
  unfold ScanSearched HasScanCovariances at hsearch
  refine ⟨hkeep.reference.trans h.sameReference, fun _ => hkeep.resident.trans hup.ready,
    fun hnone => ?_, fun hsome => ?_, fun _ => ?_⟩
  · rw [hkeep.covarianceNeighbors] at hnone
    rw [if_pos hnone] at hsearch
    exact ⟨hsearch.trans (h.unprepared hnone).1, rfl⟩
  · rw [hkeep.covarianceNeighbors] at hsome
    rw [hkeep.covarianceNeighbors, hkeep.covarianceEpsilon, hkeep.covariances]
    exact h.prepared hsome
  · refine ⟨(points, normals), rfl, ⟨hup.scan, hup.scanCount, hup.hasScanNormals,
      hup.scanNormals⟩, fun hsome => ?_⟩
    rw [hkeep.covarianceNeighbors] at hsome
    rw [if_neg hsome] at hsearch
    unfold HasScanCovariances
    rw [hkeep.covarianceNeighbors, hkeep.covarianceEpsilon]
    exact hsearch

omit [FloatArith F] [FloatArith D] [Floats F D] in
theorem search_ext {impl impl' : Search F D} (hsearch : impl.scanSearch = impl'.scanSearch)
    (hmembers : impl.toSearchMembers = impl'.toSearchMembers) : impl = impl' := by
  cases impl
  cases impl'
  cases hsearch
  cases hmembers
  rfl

theorem next_prepareResident (h : Consistent kernels reference run) (normals : List (Vec3 D))
    (environment : Environment) :
    Consistent kernels reference (run.next kernels (.prepareResident normals, environment)) := by
  have hcall := onMembers_spec (prepareResident_spec [] run.impl.toSearchMembers
    normals) ⟨run.impl, environment.replies, []⟩ ⟨rfl, rfl⟩
  have hnext : run.next kernels (.prepareResident normals, environment) = run.kept
    (outcome (onMembers (prepareResident normals)) ⟨run.impl, environment.replies, []⟩) := rfl
  rw [hnext]
  rcases hrun : outcome (onMembers (prepareResident normals)) ⟨run.impl, environment.replies, []⟩
    with ⟨_ | _, s⟩ <;> rw [hrun] at hcall
  · obtain ⟨⟨hsearch, hsame | ⟨hfresh, hkeep⟩⟩, -⟩ := hcall
    · rw [SearchRun.kept, search_ext hsearch hsame]
      exact h
    · exact h.prepareResident hsearch hfresh hkeep
  · obtain ⟨⟨hsearch, hfresh, hkeep, -⟩, -⟩ := hcall
    exact h.prepareResident hsearch hfresh hkeep

theorem next_prepareGicp (h : Consistent kernels reference run) (k : UInt32) (epsilon : D)
    (environment : Environment) :
    Consistent kernels reference (run.next kernels (.prepareGicp k epsilon, environment)) := by
  have hcall := onMembers_spec (prepareGicp_spec [] kernels run.impl.toSearchMembers
    k epsilon) ⟨run.impl, environment.replies, []⟩ ⟨rfl, rfl⟩
  have hnext : run.next kernels (.prepareGicp k epsilon, environment) = run.gicpPrepared
    (outcome (onMembers (prepareGicp kernels k epsilon)) ⟨run.impl, environment.replies, []⟩) := rfl
  rw [hnext]
  rcases hrun : outcome (onMembers (prepareGicp kernels k epsilon))
    ⟨run.impl, environment.replies, []⟩ with ⟨_ | _, s⟩ <;> rw [hrun] at hcall
  · obtain ⟨⟨hsearch, hsame | ⟨hnone, hkeep, hnone'⟩⟩, -⟩ := hcall
    · rw [SearchRun.gicpPrepared, search_ext hsearch hsame]
      exact h
    · exact h.prepareGicp_failed hsearch hnone hkeep hnone'
  · obtain ⟨⟨hsearch, hnone, hkeep, hk, hne, hepsilon, values, hvalues, harray⟩, -⟩ := hcall
    exact h.prepareGicp hsearch hnone hkeep hk hne hepsilon hvalues harray

theorem next_uploadScan (h : Consistent kernels reference run) (points normals : List (Vec3 D))
    (environment : Environment) :
    Consistent kernels reference (run.next kernels (.uploadScan points normals, environment)) := by
  have hcall := uploadScan_spec [] kernels environment.current run.impl points normals
    ⟨run.impl, environment.replies, []⟩ ⟨rfl, rfl⟩
  have hnext : run.next kernels (.uploadScan points normals, environment) =
    run.scanUploaded (points, normals) (outcome (uploadScan kernels environment.current points
      normals) ⟨run.impl, environment.replies, []⟩) := rfl
  rw [hnext]
  rcases hrun : outcome (uploadScan kernels environment.current points normals)
    ⟨run.impl, environment.replies, []⟩ with ⟨_ | _, s⟩ <;> rw [hrun] at hcall
  · obtain ⟨hsame | hdropped, -⟩ := hcall
    · rw [SearchRun.scanUploaded, hsame]
      exact h
    · exact h.dropped hdropped
  · exact h.uploaded hcall.1

theorem next_queryInto (h : Consistent kernels reference run) (points : List (Vec3 F))
    (maxDistanceMm : D) (environment : Environment) :
    Consistent kernels reference
      (run.next kernels (.queryInto points maxDistanceMm, environment)) := by
  have hcall := queryInto_keeps (P := (· = run.impl)) kernels environment.current points
    maxDistanceMm [] ⟨run.impl, environment.replies, []⟩ ⟨rfl, rfl⟩
  have hnext : run.next kernels (.queryInto points maxDistanceMm, environment) =
    run.kept (outcome (queryInto kernels environment.current points maxDistanceMm)
      ⟨run.impl, environment.replies, []⟩) := rfl
  rw [hnext]
  rcases hrun : outcome (queryInto kernels environment.current points maxDistanceMm)
    ⟨run.impl, environment.replies, []⟩ with ⟨_ | _, s⟩ <;> rw [hrun] at hcall <;>
    rw [SearchRun.kept, hcall.1] <;> exact h

/-- What an evaluation does to a run: it is recorded, and the search stays. -/
theorem next_evaluate (run : SearchRun F D) (kernels : CudaKernels F D)
    (arguments : EvaluateArguments D) (environment : Environment) : ∃ launches result,
    run.next kernels (.evaluate arguments, environment) =
      { run with
        evaluations := run.evaluations ++ [⟨run.impl, environment, arguments, run.lastUpload,
          run.gicpSinceUpload, launches, result⟩] } ∧
      ((Accepts run.impl environment.current environment.replies arguments ∧
        launches = [run.impl.launch arguments]) ∨
      (¬ Accepts run.impl environment.current environment.replies arguments ∧ launches = [] ∧
        ∃ error, result = .error error)) := by
  have hcall := evaluate_spec [] kernels environment.current arguments run.impl
    environment.replies ⟨run.impl, environment.replies, []⟩ ⟨⟨rfl, rfl⟩, rfl⟩
  have hnext : run.next kernels (.evaluate arguments, environment) =
      run.evaluated environment arguments (outcome (evaluate kernels environment.current arguments)
        ⟨run.impl, environment.replies, []⟩) := rfl
  rw [hnext]
  rcases hrun : outcome (evaluate kernels environment.current arguments)
    ⟨run.impl, environment.replies, []⟩ with ⟨error | values, s⟩ <;> rw [hrun] at hcall
  · refine ⟨s.launches, .error error, ?_, ?_⟩
    · rcases hcall with ⟨-, hobject, -⟩ | ⟨-, hobject, -⟩ <;> rw [SearchRun.evaluated, hobject]
    · rcases hcall with ⟨haccepts, -, hlaunches⟩ | ⟨hrejects, -, hlaunches⟩
      · exact .inl ⟨haccepts, hlaunches⟩
      · exact .inr ⟨hrejects, hlaunches, error, rfl⟩
  · obtain ⟨haccepts, hobject, hlaunches⟩ := hcall
    exact ⟨s.launches, .ok values, by rw [SearchRun.evaluated, hobject], .inl ⟨haccepts, hlaunches⟩⟩

theorem next_consistent (h : Consistent kernels reference run)
    (call : Call F D × Environment) : Consistent kernels reference (run.next kernels call) := by
  obtain ⟨call, environment⟩ := call
  cases call with
  | prepareResident normals => exact next_prepareResident h normals environment
  | prepareGicp k epsilon => exact next_prepareGicp h k epsilon environment
  | uploadScan points normals => exact next_uploadScan h points normals environment
  | queryInto points maxDistanceMm => exact next_queryInto h points maxDistanceMm environment
  | evaluate arguments =>
    obtain ⟨launches, result, hnext, -⟩ := next_evaluate run kernels arguments environment
    rw [hnext]
    exact h.of_evaluations _

/-- The launch of an accepted evaluation, when no covariances were prepared since the upload. -/
theorem launch_uses (h : Consistent kernels reference run) {environment : Environment}
    {arguments : EvaluateArguments D}
    (haccepts : Accepts run.impl environment.current environment.replies arguments)
    (hfresh : run.gicpSinceUpload = false) : ∃ upload, run.lastUpload = some upload ∧
      (run.impl.launch arguments).Uses kernels reference upload := by
  obtain ⟨-, hcount, -⟩ := haccepts.ready
  obtain ⟨upload, hupload, hholds, hsearch⟩ := h.scan hcount
  refine ⟨upload, hupload, hholds.scan, hholds.scanCount, ?_, fun hreference => ?_⟩
  · rw [Search.launch, hholds.hasScanNormals]
    by_cases hnormals : upload.2 = []
    · simp [hnormals]
    · simp [hnormals, hholds.scanNormals hnormals]
  · have hsome : run.impl.covarianceNeighbors ≠ 0 := by
      intro hnone
      simp [Search.launch, hnone] at hreference
    obtain ⟨values, hvalues, harray⟩ := h.prepared hsome
    have hscan := hsearch hsome
    rw [hfresh] at hscan
    obtain ⟨search, scanValues, hsearch, hscanValues, hscanArray⟩ := hscan
    refine ⟨_, _, values, scanValues, hvalues, ?_, hscanValues, ?_⟩
    · simp [Search.launch, hsome, harray]
    · simp [Search.launch, hsearch, hscanArray]

theorem launch_outdated (h : Consistent kernels reference run) {environment : Environment}
    {arguments : EvaluateArguments D}
    (haccepts : Accepts run.impl environment.current environment.replies arguments)
    (hgicp : run.gicpSinceUpload = true) :
    (run.impl.launch arguments).referenceCovariances ≠ .null ∧
      (run.impl.launch arguments).scanCovariances = .null := by
  obtain ⟨-, hcount, -⟩ := haccepts.ready
  obtain ⟨upload, -, -, hsearch⟩ := h.scan hcount
  have hsome : run.impl.covarianceNeighbors ≠ 0 := by
    intro hnone
    rw [(h.unprepared hnone).2] at hgicp
    cases hgicp
  obtain ⟨values, -, harray⟩ := h.prepared hsome
  have hscan := hsearch hsome
  rw [hgicp, if_pos rfl] at hscan
  constructor
  · simp [Search.launch, hsome, harray]
  · simp [Search.launch, hscan]

/-- The evaluation that a step records. -/
theorem evaluation_proper_iff (h : Consistent kernels reference run) {environment : Environment}
    {arguments : EvaluateArguments D} {launches : List (Launch D)}
    {result : Except Exn (Fin 45 → D)}
    (hcall : (Accepts run.impl environment.current environment.replies arguments ∧
        launches = [run.impl.launch arguments]) ∨
      (¬ Accepts run.impl environment.current environment.replies arguments ∧ launches = [] ∧
        ∃ error, result = .error error)) :
    (Evaluation.mk run.impl environment arguments run.lastUpload run.gicpSinceUpload launches
        result).Proper kernels reference ↔
      ¬ (Evaluation.mk run.impl environment arguments run.lastUpload run.gicpSinceUpload launches
        result).Outdated := by
  rcases hcall with ⟨haccepts, rfl⟩ | ⟨hrejects, rfl, herror⟩
  · cases hgicp : run.gicpSinceUpload with
    | false =>
      refine iff_of_true ⟨fun launch hlaunch => ?_, fun hnone => ?_⟩ fun hout => ?_
      · rw [List.mem_singleton.mp hlaunch]
        exact launch_uses h haccepts hgicp
      · cases hnone
      · cases hout.1
    | true =>
      obtain ⟨hreference, hscan⟩ := launch_outdated h haccepts hgicp
      refine iff_of_false (fun hproper => ?_) fun hcurrent => hcurrent ⟨rfl, haccepts⟩
      obtain ⟨upload, -, huses⟩ := hproper.uses _ (List.mem_singleton_self _)
      obtain ⟨_, _, _, scanValues, -, -, -, hscan'⟩ := huses.covariances hreference
      rw [hscan] at hscan'
      cases hscan'
  · refine iff_of_true ⟨fun launch hlaunch => ?_, fun _ => herror⟩ fun hout => hrejects hout.2
    cases hlaunch

/-- The evaluations of a run so far are proper unless they are outdated. -/
def Recorded (kernels : CudaKernels F D) (reference : List (Vec3 F)) (run : SearchRun F D) : Prop :=
  ∀ evaluation ∈ run.evaluations, evaluation.Proper kernels reference ↔ ¬ evaluation.Outdated

theorem next_recorded (h : Consistent kernels reference run)
    (hrecorded : Recorded kernels reference run) (call : Call F D × Environment) :
    Recorded kernels reference (run.next kernels call) := by
  obtain ⟨call, environment⟩ := call
  cases call with
  | prepareResident normals => exact hrecorded
  | prepareGicp k epsilon =>
    change Recorded _ _ (run.gicpPrepared _)
    rcases perform run.impl environment
      (onMembers (prepareGicp kernels k epsilon)) with ⟨_ | _, s⟩ <;>
      exact hrecorded
  | uploadScan points normals =>
    change Recorded _ _ (run.scanUploaded _ _)
    rcases perform run.impl environment (uploadScan kernels environment.current points normals)
      with ⟨_ | _, s⟩ <;> exact hrecorded
  | queryInto points maxDistanceMm => exact hrecorded
  | evaluate arguments =>
    obtain ⟨launches, result, hnext, hcall⟩ := next_evaluate run kernels arguments environment
    rw [hnext]
    intro evaluation hmem
    rcases List.mem_append.mp hmem with hold | hnew
    · exact hrecorded evaluation hold
    · rw [List.mem_singleton.mp hnew]
      exact evaluation_proper_iff h hcall

theorem runCalls_consistent (kernels : CudaKernels F D) (reference : List (Vec3 F))
    (strategy : SearchStrategy) (capacity : ℕ) (device : ℤ)
    (calls : List (Call F D × Environment)) :
    Consistent kernels reference
        (runCalls kernels (.created strategy reference capacity device) calls) ∧
      Recorded kernels reference
        (runCalls kernels (.created strategy reference capacity device) calls) := by
  unfold runCalls
  induction calls using List.reverseRecOn with
  | nil => exact ⟨consistent_created strategy capacity device, fun _ h => by cases h⟩
  | append_singleton calls call ih =>
    rw [List.foldl_append]
    exact ⟨next_consistent ih.1 call, next_recorded ih.1 ih.2 call⟩

/-- In every run, the evaluations are proper exactly when none of them is outdated: no evaluation
passes its checks after covariances were prepared since the most recent upload. -/
theorem evaluations_proper_iff (kernels : CudaKernels F D) (strategy : SearchStrategy)
    (reference : List (Vec3 F)) (capacity : ℕ) (device : ℤ)
    (calls : List (Call F D × Environment)) :
    (∀ evaluation ∈
        (runCalls kernels (.created strategy reference capacity device) calls).evaluations,
      evaluation.Proper kernels reference) ↔
    ∀ evaluation ∈
        (runCalls kernels (.created strategy reference capacity device) calls).evaluations,
      ¬ evaluation.Outdated := by
  have hrecorded := (runCalls_consistent kernels reference strategy
    capacity device calls).2
  constructor
  · intro h evaluation hmem
    exact (hrecorded evaluation hmem).mp (h evaluation hmem)
  · intro h evaluation hmem
    exact (hrecorded evaluation hmem).mpr (h evaluation hmem)

end

/-- In a plane of constant height, the covariances differ from one in the last axis only. -/
def planeKernels : CudaKernels (Exact ℚ) (Exact ℚ) where
  nearest _ _ queries _ := queries.map fun _ => 0
  covariances points _ epsilon :=
    some (points.map fun _ i => if i = 8 then epsilon else if i.val % 4 = 0 then 1 else 0)
  equation _ _ _ := 0

def planePoints : List (Vec3 (Exact ℚ)) := [⟨0, 0, 0⟩, ⟨1, 0, 0⟩, ⟨0, 1, 0⟩]

def planeArguments : EvaluateArguments (Exact ℚ) where
  matrix i := if i.val % 5 = 0 then 1 else 0
  radius := 1
  huber := 1
  plane := false
  finalMetrics := false

/-- The covariances of the reference are prepared after the scan is uploaded. -/
def lateCalls : List (Call (Exact ℚ) (Exact ℚ) × Environment) :=
  [.prepareResident [], .uploadScan planePoints [], .prepareGicp 3 1, .evaluate planeArguments].map
    fun call => (call, ⟨0, []⟩)

/-- The kernels are launched with the covariances of the reference and none of the scan. -/
theorem evaluations_late_improper : ∃ evaluation ∈
    (runCalls planeKernels (.created .indexed planePoints 3 0) lateCalls).evaluations,
    ¬ evaluation.Proper planeKernels planePoints := by
  have hlaunched : (runCalls planeKernels (.created .indexed planePoints 3 0)
      lateCalls).evaluations.any (fun evaluation => evaluation.launches.any fun launch =>
        launch.scanCovariances.isNull && !launch.referenceCovariances.isNull) := by
    decide +kernel
  obtain ⟨evaluation, hmem, hlaunches⟩ := List.any_eq_true.mp hlaunched
  obtain ⟨launch, hlaunch, hnull⟩ := List.any_eq_true.mp hlaunches
  refine ⟨evaluation, hmem, fun hproper => ?_⟩
  obtain ⟨upload, -, huses⟩ := hproper.uses launch hlaunch
  cases hreference : launch.referenceCovariances with
  | null => simp [hreference] at hnull
  | allocated contents =>
    obtain ⟨_, _, _, _, -, -, -, hscan⟩ := huses.covariances (by simp [hreference])
    simp [hscan] at hnull

end PointcloudAd
