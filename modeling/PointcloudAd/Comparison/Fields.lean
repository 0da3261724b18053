import PointcloudAd.Backends.PclComparison

/-!
# Deviation and coverage fields

The signed distance of every scan sample from the reference, and the reference samples that the
scan covers, each with the reason why a sample counts or not. Fields span the storage of their
surface; a slot that no loop visits keeps its default.
-/

namespace PointcloudAd

open Library Registration

variable {F D : Type} [FloatArith F] [FloatArith D] [Floats F D]

inductive DeviationReason where
  | valid | inputInvalid | noNeighbor | normalMissing | normalMismatch | referenceBoundary
  deriving DecidableEq, Repr

structure DeviationSample (D : Type) where
  euclideanMm : D
  signedMm : D
  normalAngleDeg : D
  reason : DeviationReason
  deriving DecidableEq

instance : Inhabited (DeviationSample D) := ⟨⟨0, 0, 0, .inputInvalid⟩⟩

structure DeviationField (D : Type) where
  samples : List (DeviationSample D)
  validCount : ℕ

def deviationError (code : ErrorCode) (field reason : String) : Error :=
  ⟨code, .compare, "deviation field computation failed", [("field", field), ("reason", reason)]⟩

/-- The cosine between a reference normal and the scan's, unless the scan has none there. -/
def normalCosine (referenceNormal : Vec3 F) (scanNormals : List (Vec3 F)) (index : ℕ) :
    Option D :=
  let scanNormal := scanNormals.getD index default
  let scanLength : D := vectorLength scanNormal
  if scanNormals ≠ [] ∧ 0 < scanLength then
    some (stdClamp (dotFloat referenceNormal scanNormal /
      (vectorLength referenceNormal * scanLength))
      (-1) 1)
  else none

variable (F) in
def angleDeg (cosine : Option D) : D :=
  match cosine with
  | some cosine => Floats.acos F cosine * lit 180 / kPi
  | none => 0

variable (F) in
def maxNormalCosine (config : ValidatedComparisonConfig D) : D :=
  Floats.cos F (config.maxNormalAngleDeg * kPi / lit 180)

/-- The sample of a scan index whose neighbour is in the reference. -/
def neighborDeviation (reference : SurfaceView F) (referenceBoundary : List UInt8)
    (scan : SurfaceView F) (config : ValidatedComparisonConfig D) (distance : D) (index : ℕ)
    (neighbor : ℕ) : DeviationSample D :=
  let referenceNormal := reference.normals.getD neighbor default
  let referenceLength : D := vectorLength referenceNormal
  if ¬ 0 < referenceLength ∨ ¬ isFinite referenceLength then ⟨0, 0, 0, .normalMissing⟩
  else
    let delta := subFloat (scan.points.getD index default) (reference.points.getD neighbor default)
    let cosine : Option D := normalCosine referenceNormal scan.normals index
    let angle := angleDeg F cosine
    if ∃ c ∈ cosine, c < maxNormalCosine F config then ⟨distance, 0, angle, .normalMismatch⟩
    else if referenceBoundary ≠ [] ∧ referenceBoundary.getD neighbor 0 ≠ 0 then
      ⟨distance, 0, angle, .referenceBoundary⟩
    else ⟨distance, dotFloat referenceNormal delta / referenceLength, angle, .valid⟩

def deviationSample (reference : SurfaceView F) (referenceBoundary : List UInt8)
    (scan : SurfaceView F) (config : ValidatedComparisonConfig D)
    (nearest : NearestNeighborResult F) (index : ℕ) : DeviationSample D :=
  if ¬ scan.isValidIndex index then ⟨0, 0, 0, .inputInvalid⟩
  else
    let neighbor := nearest.neighborIndex.getD index (-1)
    if neighbor < 0 then ⟨0, 0, 0, .noNeighbor⟩
    else
      neighborDeviation reference referenceBoundary scan config
        (widen (nearest.distanceMm.getD index 0)) index neighbor.toNat

def fillDeviation (indices : List ℕ) (storageSize : ℕ) (sample : ℕ → DeviationSample D) :
    DeviationField D :=
  indices.foldl
    (fun field index => ⟨field.samples.set index (sample index),
      if (sample index).reason = .valid then field.validCount + 1 else field.validCount⟩)
    ⟨List.replicate storageSize default, 0⟩

def checkDeviation (reference : SurfaceView F) (referenceBoundary : List UInt8)
    (scan : SurfaceView F) : Result Unit :=
  if reference.unit ≠ .millimeter then
    .error (deviationError .invalidInput "reference.unit" "must be normalized to millimetres")
  else if scan.unit ≠ .millimeter then
    .error (deviationError .invalidInput "aligned_scan.unit" "must be normalized to millimetres")
  else if reference.normals = [] then
    .error (deviationError .invalidInput "reference.normals"
      "are required to compute signed deviation")
  else if referenceBoundary ≠ [] ∧ referenceBoundary.length ≠ reference.storageSize then
    .error (deviationError .invalidInput "reference_boundary"
      "must span the reference storage layout")
  else .ok ()

def computeDeviationField (host : Host F D) (scheduler : Scheduler) (reference : SurfaceView F)
    (referenceBoundary : List UInt8) (scan : SurfaceView F) (config : ValidatedComparisonConfig D)
    (threads : UInt32) : Result (DeviationField D) := do
  checkDeviation reference referenceBoundary scan
  let nearest ← nearestNeighbors host scheduler reference scan config.maxSearchDistanceMm threads
  return fillDeviation scan.indices scan.storageSize
    (deviationSample reference referenceBoundary scan config nearest)

inductive CoverageReason where
  | covered | inputInvalid | noNeighbor | scanBoundary
  deriving DecidableEq, Repr

structure CoverageSample (D : Type) where
  distanceMm : D
  reason : CoverageReason
  deriving DecidableEq

instance : Inhabited (CoverageSample D) := ⟨⟨0, .inputInvalid⟩⟩

structure CoverageField (D : Type) where
  samples : List (CoverageSample D)
  coveredCount : ℕ
  validCount : ℕ

def CoverageField.coverageRatio (field : CoverageField D) : D :=
  if field.validCount = 0 then 0 else lit field.coveredCount / lit field.validCount

def coverageError (code : ErrorCode) (field reason : String) : Error :=
  ⟨code, .compare, "coverage field computation failed", [("field", field), ("reason", reason)]⟩

def coverageSample (reference : SurfaceView F) (scanBoundary : List UInt8)
    (nearest : NearestNeighborResult F) (index : ℕ) : CoverageSample D :=
  if ¬ reference.isValidIndex index then ⟨0, .inputInvalid⟩
  else
    let neighbor := nearest.neighborIndex.getD index (-1)
    if neighbor < 0 then ⟨0, .noNeighbor⟩
    else
      let distance : D := widen (nearest.distanceMm.getD index 0)
      if scanBoundary ≠ [] ∧ scanBoundary.getD neighbor.toNat 0 ≠ 0 then ⟨distance, .scanBoundary⟩
      else ⟨distance, .covered⟩

def fillCoverage (indices : List ℕ) (storageSize : ℕ) (sample : ℕ → CoverageSample D) :
    CoverageField D :=
  indices.foldl
    (fun field index => ⟨field.samples.set index (sample index),
      if (sample index).reason = .covered then field.coveredCount + 1 else field.coveredCount,
      if (sample index).reason = .inputInvalid then field.validCount else field.validCount + 1⟩)
    ⟨List.replicate storageSize default, 0, 0⟩

def checkCoverage (reference scan : SurfaceView F) (scanBoundary : List UInt8) : Result Unit :=
  if reference.unit ≠ .millimeter then
    .error (coverageError .invalidInput "reference.unit" "must be normalized to millimetres")
  else if scan.unit ≠ .millimeter then
    .error (coverageError .invalidInput "aligned_scan.unit" "must be normalized to millimetres")
  else if scanBoundary ≠ [] ∧ scanBoundary.length ≠ scan.storageSize then
    .error (coverageError .invalidInput "scan_boundary" "must span the aligned scan storage layout")
  else .ok ()

/-- The roles of the search are swapped: reference samples look for scan samples. -/
def computeCoverageField (host : Host F D) (scheduler : Scheduler) (reference scan : SurfaceView F)
    (scanBoundary : List UInt8) (config : ValidatedComparisonConfig D) (threads : UInt32) :
    Result (CoverageField D) := do
  checkCoverage reference scan scanBoundary
  let nearest ← nearestNeighbors host scheduler scan reference config.maxSearchDistanceMm threads
  return fillCoverage reference.indices reference.storageSize
    (coverageSample reference scanBoundary nearest)

section Slots

variable {indices : List ℕ} {storageSize : ℕ}

omit [FloatArith F] [Floats F D] in
theorem fillDeviation_getElem? (hn : indices.Nodup) (sample : ℕ → DeviationSample D) (w : ℕ) :
    (fillDeviation indices storageSize sample).samples[w]? =
      if w < storageSize then some (if w ∈ indices then sample w else default) else none := by
  unfold fillDeviation
  rw [getElem?_foldl_cells DeviationField.samples (fun i _ => sample i)
    (fun field i w => getElem?_set_map field.samples i w (sample i)) hn, List.getElem?_replicate]
  split_ifs <;> rfl

omit [FloatArith F] [Floats F D] in
theorem fillCoverage_getElem? (hn : indices.Nodup) (sample : ℕ → CoverageSample D) (w : ℕ) :
    (fillCoverage indices storageSize sample).samples[w]? =
      if w < storageSize then some (if w ∈ indices then sample w else default) else none := by
  unfold fillCoverage
  rw [getElem?_foldl_cells CoverageField.samples (fun i _ => sample i)
    (fun field i w => getElem?_set_map field.samples i w (sample i)) hn, List.getElem?_replicate]
  split_ifs <;> rfl

omit [FloatArith F] [Floats F D] in
theorem fillDeviation_length (sample : ℕ → DeviationSample D) :
    (fillDeviation indices storageSize sample).samples.length = storageSize := by
  refine List.foldlRecOn (motive := fun field : DeviationField D =>
    field.samples.length = storageSize) _ _ List.length_replicate fun field h i _ => ?_
  exact (List.length_set ..).trans h

omit [FloatArith F] [Floats F D] in
theorem fillCoverage_length (sample : ℕ → CoverageSample D) :
    (fillCoverage indices storageSize sample).samples.length = storageSize := by
  refine List.foldlRecOn (motive := fun field : CoverageField D =>
    field.samples.length = storageSize) _ _ List.length_replicate fun field h i _ => ?_
  exact (List.length_set ..).trans h

omit [FloatArith F] [FloatArith D] [Floats F D] in
theorem foldl_deviation (sample : ℕ → DeviationSample D) :
    ∀ (indices : List ℕ) (field : DeviationField D),
      indices.foldl (fun field index => ⟨field.samples.set index (sample index),
          if (sample index).reason = .valid then field.validCount + 1
            else field.validCount⟩) field =
        ⟨indices.foldl (fun samples index => samples.set index (sample index)) field.samples,
          field.validCount + indices.countP fun index => (sample index).reason = .valid⟩
  | [], field => rfl
  | i :: indices, field => by
    rw [List.foldl_cons, foldl_deviation sample indices, List.foldl_cons, List.countP_cons]
    by_cases h : (sample i).reason = .valid <;> simp [h, Nat.add_assoc, Nat.add_comm]

omit [FloatArith F] [FloatArith D] [Floats F D] in
theorem foldl_coverage (sample : ℕ → CoverageSample D) :
    ∀ (indices : List ℕ) (field : CoverageField D),
      indices.foldl (fun field index => ⟨field.samples.set index (sample index),
          if (sample index).reason = .covered then field.coveredCount + 1 else field.coveredCount,
          if (sample index).reason = .inputInvalid then field.validCount
            else field.validCount + 1⟩) field =
        ⟨indices.foldl (fun samples index => samples.set index (sample index)) field.samples,
          field.coveredCount + indices.countP fun index => (sample index).reason = .covered,
          field.validCount + indices.countP fun index => (sample index).reason ≠ .inputInvalid⟩
  | [], field => rfl
  | i :: indices, field => by
    rw [List.foldl_cons, foldl_coverage sample indices, List.foldl_cons, List.countP_cons,
      List.countP_cons]
    cases h : (sample i).reason <;> simp [Nat.add_assoc, Nat.add_comm]

omit [FloatArith F] [Floats F D] in
theorem fillDeviation_validCount (hn : indices.Nodup) (hlt : ∀ i ∈ indices, i < storageSize)
    (sample : ℕ → DeviationSample D) :
    (fillDeviation indices storageSize sample).validCount =
      (fillDeviation indices storageSize sample).samples.countP fun sample =>
        sample.reason = .valid := by
  unfold fillDeviation
  rw [foldl_deviation, countP_foldl_set _ _ hn (by simpa using hlt)]
  · simp [List.countP_replicate, default]
  · intro i _ c hc
    rw [List.eq_of_mem_replicate (List.mem_of_getElem? hc)]
    rfl

omit [FloatArith F] [Floats F D] in
theorem fillCoverage_coveredCount (hn : indices.Nodup) (hlt : ∀ i ∈ indices, i < storageSize)
    (sample : ℕ → CoverageSample D) :
    (fillCoverage indices storageSize sample).coveredCount =
      (fillCoverage indices storageSize sample).samples.countP fun sample =>
        sample.reason = .covered := by
  unfold fillCoverage
  rw [foldl_coverage, countP_foldl_set _ _ hn (by simpa using hlt)]
  · simp [List.countP_replicate, default]
  · intro i _ c hc
    rw [List.eq_of_mem_replicate (List.mem_of_getElem? hc)]
    rfl

end Slots

theorem computeDeviationField_validCount {host : Host F D} {scheduler : Scheduler}
    {reference scan : SurfaceView F} (h : scan.Shaped) {boundary : List UInt8}
    {config : ValidatedComparisonConfig D} {threads : UInt32} {field : DeviationField D}
    (hf : computeDeviationField host scheduler reference boundary scan config threads = .ok field) :
    field.validCount = field.samples.countP fun sample => sample.reason = .valid := by
  unfold computeDeviationField at hf
  simp only [bind_ok_iff, pure, Except.pure, Except.ok.injEq] at hf
  obtain ⟨_, -, nearest, -, rfl⟩ := hf
  exact fillDeviation_validCount h.nodup (fun i hi => h.lt hi) _

theorem computeCoverageField_coveredCount {host : Host F D} {scheduler : Scheduler}
    {reference scan : SurfaceView F} (h : reference.Shaped) {boundary : List UInt8}
    {config : ValidatedComparisonConfig D} {threads : UInt32} {field : CoverageField D}
    (hf : computeCoverageField host scheduler reference scan boundary config threads = .ok field) :
    field.coveredCount = field.samples.countP fun sample => sample.reason = .covered := by
  unfold computeCoverageField at hf
  simp only [bind_ok_iff, pure, Except.pure, Except.ok.injEq] at hf
  obtain ⟨_, -, nearest, -, rfl⟩ := hf
  exact fillCoverage_coveredCount h.nodup (fun i hi => h.lt hi) _

theorem computeDeviationField_slots {host : Host F D} {scheduler : Scheduler}
    {reference scan : SurfaceView F} (h : scan.Shaped) {boundary : List UInt8}
    {config : ValidatedComparisonConfig D} {threads : UInt32} {field : DeviationField D}
    (hf : computeDeviationField host scheduler reference boundary scan config threads = .ok field) :
    field.samples.length = scan.storageSize ∧ ∀ i,
      (field.samples.getD i default).reason ≠ .inputInvalid →
        i ∈ scan.indices ∧ scan.isValidIndex i = true := by
  unfold computeDeviationField at hf
  simp only [bind_ok_iff, pure, Except.pure, Except.ok.injEq] at hf
  obtain ⟨_, -, nearest, -, rfl⟩ := hf
  refine ⟨fillDeviation_length _, fun i hi => ?_⟩
  rw [List.getD_eq_getElem?_getD, fillDeviation_getElem? h.nodup] at hi
  split_ifs at hi with hlt hmem
  · refine ⟨hmem, ?_⟩
    by_contra hv
    exact hi (by rw [Option.getD_some, deviationSample, if_pos hv])
  all_goals exact absurd rfl hi

theorem computeCoverageField_slots {host : Host F D} {scheduler : Scheduler}
    {reference scan : SurfaceView F} (h : reference.Shaped) {boundary : List UInt8}
    {config : ValidatedComparisonConfig D} {threads : UInt32} {field : CoverageField D}
    (hf : computeCoverageField host scheduler reference scan boundary config threads = .ok field) :
    field.samples.length = reference.storageSize ∧ ∀ i,
      (field.samples.getD i default).reason ≠ .inputInvalid →
        i ∈ reference.indices ∧ reference.isValidIndex i = true := by
  unfold computeCoverageField at hf
  simp only [bind_ok_iff, pure, Except.pure, Except.ok.injEq] at hf
  obtain ⟨_, -, nearest, -, rfl⟩ := hf
  refine ⟨fillCoverage_length _, fun i hi => ?_⟩
  rw [List.getD_eq_getElem?_getD, fillCoverage_getElem? h.nodup] at hi
  split_ifs at hi with hlt hmem
  · refine ⟨hmem, ?_⟩
    by_contra hv
    exact hi (by rw [Option.getD_some, coverageSample, if_pos hv])
  all_goals exact absurd rfl hi

variable {r r' q q' : SurfaceView F}

theorem fillDeviation_congr {indices : List ℕ} {storageSize : ℕ} {f g : ℕ → DeviationSample D}
    (h : ∀ i ∈ indices, f i = g i) :
    fillDeviation indices storageSize f = fillDeviation indices storageSize g :=
  List.foldl_ext _ _ _ fun field i hi => by rw [h i hi]

theorem fillCoverage_congr {indices : List ℕ} {storageSize : ℕ} {f g : ℕ → CoverageSample D}
    (h : ∀ i ∈ indices, f i = g i) :
    fillCoverage indices storageSize f = fillCoverage indices storageSize g :=
  List.foldl_ext _ _ _ fun field i hi => by rw [h i hi]

theorem computeDeviationField_workers (hq : q.Shaped) (host : Host F D)
    (scheduler scheduler' : Scheduler) (reference : SurfaceView F) (boundary : List UInt8)
    (config : ValidatedComparisonConfig D) {threads threads' : UInt32}
    (hthreads : threads = 0 ↔ threads' = 0) :
    computeDeviationField host scheduler reference boundary q config threads =
      computeDeviationField host scheduler' reference boundary q config threads' := by
  unfold computeDeviationField
  rw [nearestNeighbors_workers hq host scheduler scheduler' reference _ hthreads]

theorem computeCoverageField_workers (hr : r.Shaped) (host : Host F D)
    (scheduler scheduler' : Scheduler) (scan : SurfaceView F) (boundary : List UInt8)
    (config : ValidatedComparisonConfig D) {threads threads' : UInt32}
    (hthreads : threads = 0 ↔ threads' = 0) :
    computeCoverageField host scheduler r scan boundary config threads =
      computeCoverageField host scheduler' r scan boundary config threads' := by
  unfold computeCoverageField
  rw [nearestNeighbors_workers hr host scheduler scheduler' scan _ hthreads]

/-- The sample of a valid scan index does not show what is stored under a mask. -/
theorem neighborDeviation_eq (hr : Corresponds r r') (hlr : SameLayout r r')
    (hn : SlotsAgree r r' r.normals r'.normals) (hm : r.NormalsMasked D) (hq : Corresponds q q')
    (hlq : SameLayout q q') (boundary : List UInt8) (config : ValidatedComparisonConfig D)
    (distance : D) {i : ℕ} (hi : i ∈ q.indices) (hv : q.isValidIndex i = true) (neighbor : ℕ) :
    neighborDeviation r boundary q config distance i neighbor =
      neighborDeviation r' boundary q' config distance i neighbor := by
  have hpair : Paired q.indices q'.indices i i := by
    rw [← hlq.indices]
    exact .refl hi
  unfold neighborDeviation
  dsimp only
  rw [← hn.same hlr]
  by_cases hlength : ¬ (0 : D) < vectorLength (r.normals.getD neighbor default) ∨
      ¬ isFinite (vectorLength (r.normals.getD neighbor default) : D)
  · rw [if_pos hlength, if_pos hlength]
  · rw [if_neg hlength, if_neg hlength]
    -- the neighbour has a normal, so it is a valid sample of both references
    obtain ⟨hmem, hvalid⟩ := hm neighbor (by tauto)
    have hneighbor : Paired r.indices r'.indices neighbor neighbor := by
      rw [← hlr.indices]
      exact .refl hmem
    have hcosine : normalCosine (D := D) (r.normals.getD neighbor default) q.normals i =
        normalCosine (r.normals.getD neighbor default) q'.normals i := by
      unfold normalCosine
      simp only [hq.normals.getD hpair hv default, ne_eq, hq.hasNormals]
    rw [hq.points.getD hpair hv, hr.points.getD hneighbor hvalid, hcosine]

/-- Deviation fields of corresponding surfaces fail alike, and agree when the layouts do. -/
theorem computeDeviationField_related (hr : Corresponds r r')
    (hn : SlotsAgree r r' r.normals r'.normals) (hm : r.NormalsMasked D)
    {boundary boundary' : List UInt8} (hb : SlotsAgree r r' boundary boundary')
    (hq : Corresponds q q') (host : Host F D) (scheduler scheduler' : Scheduler)
    (config : ValidatedComparisonConfig D) {threads threads' : UInt32}
    (hthreads : threads = 0 ↔ threads' = 0) :
    Outcome (fun a b => SameLayout r r' → SameLayout q q' → a = b)
      (computeDeviationField host scheduler r boundary q config threads)
      (computeDeviationField host scheduler' r' boundary' q' config threads') := by
  have hcheck : checkDeviation r boundary q = checkDeviation r' boundary' q' := by
    unfold checkDeviation
    simp only [hr.unit, hq.unit, hr.hasNormals, hb.left, hb.right, ne_eq, not_true_eq_false,
      and_false]
  unfold computeDeviationField
  rw [hcheck]
  refine (Outcome.eq_iff.mpr rfl).bind fun _ _ _ => ?_
  refine (nearestNeighbors_related hr hq host scheduler scheduler' _ hthreads).bind
    fun nearest nearest' hnearest => .ok fun hlr hlq => ?_
  rw [← hnearest hlr hlq, ← hlq.indices, ← hlq.storage, ← hb.same hlr]
  refine fillDeviation_congr fun i hi => ?_
  unfold deviationSample
  rw [← hq.isValidIndex_eq hlq hi]
  by_cases hv : q.isValidIndex i = true
  · rw [if_neg (not_not.mpr hv), if_neg (not_not.mpr hv)]
    dsimp only
    rw [neighborDeviation_eq hr hlr hn hm hq hlq boundary config _ hi hv]
  · rw [if_pos hv, if_pos hv]

theorem computeCoverageField_related (hr : Corresponds r r') (hq : Corresponds q q')
    {boundary boundary' : List UInt8} (hb : SlotsAgree q q' boundary boundary') (host : Host F D)
    (scheduler scheduler' : Scheduler) (config : ValidatedComparisonConfig D)
    {threads threads' : UInt32} (hthreads : threads = 0 ↔ threads' = 0) :
    Outcome (fun a b => SameLayout r r' → SameLayout q q' → a = b)
      (computeCoverageField host scheduler r q boundary config threads)
      (computeCoverageField host scheduler' r' q' boundary' config threads') := by
  have hcheck : checkCoverage r q boundary = checkCoverage r' q' boundary' := by
    unfold checkCoverage
    simp only [hr.unit, hq.unit, hb.left, hb.right, ne_eq, not_true_eq_false, and_false]
  unfold computeCoverageField
  rw [hcheck]
  refine (Outcome.eq_iff.mpr rfl).bind fun _ _ _ => ?_
  refine (nearestNeighbors_related hq hr host scheduler scheduler' _ hthreads).bind
    fun nearest nearest' hnearest => .ok fun hlr hlq => ?_
  rw [← hnearest hlq hlr, ← hlr.indices, ← hlr.storage, ← hb.same hlq]
  refine fillCoverage_congr fun i hi => ?_
  unfold coverageSample
  rw [← hr.isValidIndex_eq hlr hi]

end PointcloudAd
