import PointcloudAd.Cuda.ResidentSearch

/-!
# The calls of a resident search

What each call may change, whichever of its device calls fails, and what it leaves when it succeeds.
-/

namespace PointcloudAd

open Library Library.Faulty

section

variable {D σ τ α β : Type} {P Q R : σ → Prop} {launches : List (Launch D)}

/-- A state of the device whose object has `P`, after some launches. -/
def At (P : σ → Prop) (launches : List (Launch D)) (s : DeviceState D σ) : Prop :=
  P s.object ∧ s.launches = launches

/-- A call keeps a property of its object, whether it fails or not, and launches nothing. -/
def Keeps (P : σ → Prop) (m : Cuda D σ α) : Prop :=
  ∀ launches : List (Launch D), Triple (At P launches) m (fun _ => At P launches) (At P launches)

theorem Keeps.pure (a : α) : Keeps (D := D) P (pure a) := fun _ => .pure fun _ h => h

theorem Keeps.bind {m : Cuda D σ α} {f : α → Cuda D σ β} (hm : Keeps P m)
    (hf : ∀ a, Keeps P (f a)) : Keeps P (m >>= f) :=
  fun launches => (hm launches).bind fun a => hf a launches

theorem Keeps.ite {p : Prop} [Decidable p] {m n : Cuda D σ α} (hm : Keeps P m) (hn : Keeps P n) :
    Keeps P (if p then m else n) := by
  split_ifs
  · exact hm
  · exact hn

theorem Keeps.forM {f : α → Cuda D σ PUnit} {l : List α} (h : ∀ a ∈ l, Keeps P (f a)) :
    Keeps P (forM l f) := fun launches => .forM fun a ha => h a ha launches

theorem Keeps.require {p : Prop} [Decidable p] {e : Exn} :
    Keeps (D := D) P (Faulty.require p e) :=
  fun _ => (Triple.require fun _ h => h).weaken (fun _ h => h) (fun _ _ h => h.1) fun _ h => h

theorem deviceCall_outcome (operation : String) (s : DeviceState D σ) :
    outcome (deviceCall operation) s =
      (match s.replies.head?.join with
        | none => .ok ()
        | some reason => .error (.exception (operation ++ ": " ++ reason)),
        { s with replies := s.replies.tail }) := by
  unfold deviceCall
  rw [outcome_bind]
  change outcome (set _ >>= _) s = _
  rw [outcome_bind]
  change outcome (match s.replies.head?.join with
    | none => _
    | some reason => _) _ = _
  cases s.replies.head?.join <;> rfl

theorem Keeps.deviceCall (operation : String) : Keeps (D := D) P (deviceCall operation) := by
  intro launches s hs
  rw [deviceCall_outcome]
  cases s.replies.head?.join <;> exact hs

theorem triple_deviceCall {operation : String} {replies : List (Option String)}
    {f : Unit → Cuda D σ α} {Q : α → DeviceState D σ → Prop} {E : DeviceState D σ → Prop}
    (hfailed : replies.head?.join ≠ none → ∀ s, At P launches s → E s)
    (h : replies.head?.join = none → Triple (At P launches) (f ()) Q E) :
    Triple (fun s => At P launches s ∧ s.replies = replies) (deviceCall operation >>= f) Q E := by
  rintro s ⟨hs, hreplies⟩
  rw [outcome_bind, deviceCall_outcome, hreplies]
  cases hreply : replies.head?.join with
  | none => exact h hreply _ hs
  | some reason => exact hfailed (by simp [hreply]) _ hs

theorem Keeps.updateObject {f : σ → σ} (h : ∀ o, P o → P (f o)) :
    Keeps (D := D) P (updateObject f) := fun _ => .modify fun s hs => ⟨h s.object hs.1, hs.2⟩

theorem Keeps.deviceCalls {calls : List (String × (σ → σ))}
    (h : ∀ call ∈ calls, ∀ o, P o → P (call.2 o)) : Keeps (D := D) P (deviceCalls calls) :=
  .forM fun call hcall => (Keeps.deviceCall call.1).bind fun _ => .updateObject (h call hcall)

theorem Keeps.readObject : Keeps (D := D) P readObject := fun _ _ hs => hs

theorem triple_of_object {m : Cuda D σ α} {Q : α → DeviceState D σ → Prop}
    {E : DeviceState D σ → Prop}
    (h : ∀ o, P o → Triple (At (· = o) launches) m Q E) : Triple (At P launches) m Q E :=
  fun s hs => h s.object hs.1 s ⟨rfl, hs.2⟩

theorem triple_read {o : σ} {f : σ → Cuda D σ α} {P : DeviceState D σ → Prop}
    {Q : α → DeviceState D σ → Prop} {E : DeviceState D σ → Prop}
    (hobject : ∀ s, P s → s.object = o)
    (h : Triple P (f o) Q E) : Triple P (readObject >>= f) Q E := by
  intro s hs
  have hs' := h s hs
  have hread : outcome (readObject (D := D) (σ := σ)) s = (.ok s.object, s) := rfl
  rw [outcome_bind, hread]
  dsimp only
  rw [hobject s hs]
  exact hs'

end

section

variable {D σ τ : Type} {P : σ → Prop} {launches : List (Launch D)}

theorem withObject_spec {object : τ} {m : Cuda D τ Unit} {Q E : τ → Prop}
    (h : Triple (At (· = object) launches) m (fun _ => At Q launches) (At E launches)) :
    Triple (At P launches) (withObject object m) (fun o => At (fun x => P x ∧ Q o) launches)
      (At P launches) := by
  intro s hs
  have hm := h ⟨object, s.replies, s.launches⟩ ⟨rfl, hs.2⟩
  have hrun : outcome (withObject object m) s =
      let ended := outcome m ⟨object, s.replies, s.launches⟩
      (ended.1.map fun _ => ended.2.object,
        { s with replies := ended.2.replies, launches := ended.2.launches }) := rfl
  rw [hrun]
  rcases hout : outcome m ⟨object, s.replies, s.launches⟩ with ⟨_ | _, t⟩
  · rw [hout] at hm
    exact ⟨hs.1, hm.2⟩
  · rw [hout] at hm
    exact ⟨⟨hs.1, hm.1⟩, hm.2⟩

end

section

variable {F D α : Type} {launches : List (Launch D)}

theorem onMembers_spec {impl : Search F D} {m : Cuda D (SearchMembers F D) α}
    {Q : α → SearchMembers F D → Prop} {E : SearchMembers F D → Prop}
    (h : Triple (At (· = impl.toSearchMembers) launches) m (fun a => At (Q a) launches)
      (At E launches)) :
    Triple (At (· = impl) launches) (onMembers m)
      (fun a => At (fun o => o.scanSearch = impl.scanSearch ∧ Q a o.toSearchMembers) launches)
      (At (fun o => o.scanSearch = impl.scanSearch ∧ E o.toSearchMembers) launches) := by
  rintro s ⟨rfl, hlaunches⟩
  have hm := h ⟨s.object.toSearchMembers, s.replies, s.launches⟩ ⟨rfl, hlaunches⟩
  have hrun : outcome (onMembers m) s =
      let ended := outcome m ⟨s.object.toSearchMembers, s.replies, s.launches⟩
      (ended.1, ⟨{ s.object with toSearchMembers := ended.2.object }, ended.2.replies,
        ended.2.launches⟩) := rfl
  rw [hrun]
  rcases hout : outcome m ⟨s.object.toSearchMembers, s.replies, s.launches⟩ with ⟨_ | _, t⟩ <;>
    rw [hout] at hm <;> exact ⟨⟨rfl, hm.1⟩, hm.2⟩

end

section

variable {F D : Type} {launches : List (Launch D)}

/-- The members that the preparation of the workspace leaves alone. -/
structure KeepsCovariances (before after : SearchMembers F D) : Prop where
  reference : after.reference = before.reference
  scanCount : after.scanCount = before.scanCount
  hasScanNormals : after.hasScanNormals = before.hasScanNormals
  covarianceNeighbors : after.covarianceNeighbors = before.covarianceNeighbors
  covarianceEpsilon : after.covarianceEpsilon = before.covarianceEpsilon
  covariances : after.covariances = before.covariances

theorem KeepsCovariances.refl (members : SearchMembers F D) : KeepsCovariances members members :=
  ⟨rfl, rfl, rfl, rfl, rfl, rfl⟩

theorem KeepsCovariances.trans {a b c : SearchMembers F D} (hab : KeepsCovariances a b)
    (hbc : KeepsCovariances b c) : KeepsCovariances a c where
  reference := hbc.reference.trans hab.reference
  scanCount := hbc.scanCount.trans hab.scanCount
  hasScanNormals := hbc.hasScanNormals.trans hab.hasScanNormals
  covarianceNeighbors := hbc.covarianceNeighbors.trans hab.covarianceNeighbors
  covarianceEpsilon := hbc.covarianceEpsilon.trans hab.covarianceEpsilon
  covariances := hbc.covariances.trans hab.covariances

/-- The members that the preparation of covariances leaves alone. -/
structure KeepsScan (before after : SearchMembers F D) : Prop where
  reference : after.reference = before.reference
  resident : after.resident = before.resident
  scan : after.scan = before.scan
  scanNormals : after.scanNormals = before.scanNormals
  scanCount : after.scanCount = before.scanCount
  hasScanNormals : after.hasScanNormals = before.hasScanNormals

theorem KeepsScan.refl (members : SearchMembers F D) : KeepsScan members members :=
  ⟨rfl, rfl, rfl, rfl, rfl, rfl⟩

theorem KeepsScan.trans {a b c : SearchMembers F D} (hab : KeepsScan a b) (hbc : KeepsScan b c) :
    KeepsScan a c where
  reference := hbc.reference.trans hab.reference
  resident := hbc.resident.trans hab.resident
  scan := hbc.scan.trans hab.scan
  scanNormals := hbc.scanNormals.trans hab.scanNormals
  scanCount := hbc.scanCount.trans hab.scanCount
  hasScanNormals := hbc.hasScanNormals.trans hab.hasScanNormals

theorem residentSteps_keep (strategy : SearchStrategy) (normals : List (Vec3 D)) :
    ∀ step ∈ residentSteps (F := F) strategy normals, ∀ o, KeepsCovariances o (step.2 o) := by
  intro step hstep o
  unfold residentSteps at hstep
  simp only [List.mem_append, List.mem_cons, List.not_mem_nil, or_false] at hstep
  rcases hstep with ((rfl | rfl) | hnormals) | rfl | rfl | rfl | rfl | rfl | rfl
  case inl.inr =>
    split_ifs at hnormals
    · cases hnormals
    · simp only [List.mem_cons, List.not_mem_nil, or_false] at hnormals
      rcases hnormals with rfl | rfl <;> exact ⟨rfl, rfl, rfl, rfl, rfl, rfl⟩
  all_goals exact ⟨rfl, rfl, rfl, rfl, rfl, rfl⟩

/-- A workspace is prepared once; a preparation that fails before its first step changes nothing. -/
theorem prepareResident_spec (launches : List (Launch D)) (impl : SearchMembers F D)
    (normals : List (Vec3 D)) :
    Triple (At (· = impl) launches) (prepareResident normals)
      (fun _ => At (fun o => impl.resident = false ∧ KeepsCovariances impl o ∧
        o.resident = true) launches)
      (At (fun o => o = impl ∨ impl.resident = false ∧ KeepsCovariances impl o) launches) := by
  unfold prepareResident
  apply triple_read fun _ h => h.1
  refine Triple.require_bind (fun s hs => ⟨.inl hs.1, hs.2⟩) fun hfresh => ?_
  refine Triple.require_bind (fun s hs => ⟨.inl hs.1, hs.2⟩) fun _ => ?_
  have hresident : impl.resident = false := by simpa using hfresh.1
  have hcalls : Keeps (D := D) (KeepsCovariances impl)
      (deviceCalls (residentSteps impl.strategy normals)) :=
    .deviceCalls fun step hstep o ho => ho.trans (residentSteps_keep _ _ step hstep o)
  refine ((hcalls launches).weaken (fun s hs => ⟨?_, hs.2⟩) (fun _ _ h => h)
    fun s hs => ⟨.inr ⟨hresident, hs.1⟩, hs.2⟩).bind fun _ => .modify fun s hs => ⟨?_, hs.2⟩
  · rw [hs.1]
    exact .refl impl
  · obtain ⟨hr, hs, hn, hk, he, hc⟩ := hs.1
    exact ⟨hresident, ⟨hr, hs, hn, hk, he, hc⟩, rfl⟩

theorem prepareKnn_keeps {P : SearchMembers F D → Prop} (k : UInt32)
    (h : ∀ o knnIndices knnDistances knnCapacity, P o →
      P { o with knnIndices, knnDistances, knnCapacity }) :
    Keeps (D := D) P (prepareKnn k) := by
  unfold prepareKnn
  refine Keeps.readObject.bind fun impl => Keeps.require.bind fun _ => ?_
  refine .ite (.pure ()) (.deviceCalls fun step hstep o ho => ?_)
  simp only [List.mem_cons, List.not_mem_nil, or_false] at hstep
  rcases hstep with rfl | rfl | rfl | rfl <;> exact h o _ _ _ ho

theorem gicpSteps_keep (impl : SearchMembers F D) : ∀ step ∈ gicpSteps impl, ∀ o,
    KeepsScan o (step.2 o) ∧ (step.2 o).covarianceNeighbors = o.covarianceNeighbors := by
  intro step hstep o
  unfold gicpSteps at hstep
  simp only [List.mem_append, List.mem_flatten, List.mem_replicate, List.mem_cons,
    List.not_mem_nil, or_false] at hstep
  rcases hstep with (((hcovariances | hflag) | rfl) | ⟨chunk, ⟨-, rfl⟩, hchunk⟩) | rfl | rfl
  case inl.inl.inl.inl =>
    split_ifs at hcovariances
    · rw [List.mem_singleton.mp hcovariances]
      exact ⟨⟨rfl, rfl, rfl, rfl, rfl, rfl⟩, rfl⟩
    · cases hcovariances
  case inl.inl.inl.inr =>
    split_ifs at hflag
    · cases hflag
    · rw [List.mem_singleton.mp hflag]
      exact ⟨⟨rfl, rfl, rfl, rfl, rfl, rfl⟩, rfl⟩
  case inl.inr =>
    simp only [List.mem_cons, List.not_mem_nil, or_false] at hchunk
    rcases hchunk with rfl | rfl <;> exact ⟨⟨rfl, rfl, rfl, rfl, rfl, rfl⟩, rfl⟩
  all_goals exact ⟨⟨rfl, rfl, rfl, rfl, rfl, rfl⟩, rfl⟩

variable [FloatArith D]

/-- Covariances are prepared once, and are known only then. -/
theorem prepareGicp_spec (launches : List (Launch D)) (kernels : CudaKernels F D)
    (impl : SearchMembers F D) (k : UInt32) (epsilon : D) :
    Triple (At (· = impl) launches) (prepareGicp kernels k epsilon)
      (fun _ => At (fun o => impl.covarianceNeighbors = 0 ∧ KeepsScan impl o ∧
        o.covarianceNeighbors = k ∧ k ≠ 0 ∧ o.covarianceEpsilon = epsilon ∧ ∃ values,
          kernels.covariances impl.reference k epsilon = some values ∧
            o.covariances = .allocated (some values)) launches)
      (At (fun o => o = impl ∨ impl.covarianceNeighbors = 0 ∧ KeepsScan impl o ∧
        o.covarianceNeighbors = 0) launches) := by
  unfold prepareGicp
  apply triple_read fun _ h => h.1
  refine Triple.require_bind (fun s hs => ⟨.inl hs.1, hs.2⟩) fun hsettings => ?_
  obtain ⟨hk, -, -, -, hnone⟩ := hsettings
  have hstart : ∀ s, At (· = impl) launches s →
      At (fun o => KeepsScan impl o ∧ o.covarianceNeighbors = 0) launches s := by
    rintro s ⟨rfl, hlaunches⟩
    exact ⟨⟨.refl _, hnone⟩, hlaunches⟩
  have hfail : ∀ s, At (fun o => KeepsScan impl o ∧ o.covarianceNeighbors = 0) launches s →
      At (fun o => o = impl ∨ impl.covarianceNeighbors = 0 ∧ KeepsScan impl o ∧
        o.covarianceNeighbors = 0) launches s :=
    fun s hs => ⟨.inr ⟨hnone, hs.1⟩, hs.2⟩
  have hknn : Keeps (D := D) (fun o => KeepsScan impl o ∧ o.covarianceNeighbors = 0)
      (prepareKnn k) :=
    prepareKnn_keeps k fun o _ _ _ ho =>
      ⟨ho.1.trans ⟨rfl, rfl, rfl, rfl, rfl, rfl⟩, ho.2⟩
  have hcalls : Keeps (D := D) (fun o => KeepsScan impl o ∧ o.covarianceNeighbors = 0)
      (deviceCalls (gicpSteps impl)) := by
    refine .deviceCalls fun step hstep o ho => ?_
    obtain ⟨hkeep, hneighbors⟩ := gicpSteps_keep impl step hstep o
    exact ⟨ho.1.trans hkeep, hneighbors.trans ho.2⟩
  refine ((hknn launches).weaken hstart (fun _ _ h => h) hfail).bind fun _ =>
    ((hcalls launches).weaken (fun _ h => h) (fun _ _ h => h) hfail).bind fun _ => ?_
  have hne : k ≠ 0 := by
    rintro rfl
    exact absurd hk (by decide)
  cases hvalues : kernels.covariances impl.reference k epsilon with
  | none => exact .throw hfail
  | some values =>
    refine .modify fun s hs => ⟨⟨hnone, ?_, rfl, hne, rfl, values, rfl, rfl⟩, hs.2⟩
    exact hs.1.1.trans ⟨rfl, rfl, rfl, rfl, rfl, rfl⟩

end

section

variable {F D : Type} [FloatArith F] [FloatArith D] [Floats F D] {launches : List (Launch D)}

omit [Floats F D] in
theorem createSearch_spec {σ : Type} {P : σ → Prop} (current : ℤ) (reference : List (Vec3 F))
    (queryCapacity : ℕ) (strategy : SearchStrategy) :
    Triple (At P launches) (createSearch (D := D) current reference queryCapacity strategy)
      (fun members => At (fun o => P o ∧
        members = .created strategy reference queryCapacity current) launches)
      (At P launches) := by
  unfold createSearch
  refine Triple.require_bind (fun _ h => h) fun _ => Triple.require_bind (fun _ h => h) fun _ => ?_
  have hcalls : Keeps (D := D) P (forM (constructorCalls strategy) deviceCall) :=
    .forM fun operation _ => .deviceCall operation
  exact (hcalls launches).bind fun _ => .pure fun s hs => ⟨⟨hs.1, rfl⟩, hs.2⟩

/-- The search of a scan holds the scan's covariances, under the settings of the reference's. -/
def HasScanCovariances (kernels : CudaKernels F D) (impl : Search F D) (points : List (Vec3 D))
    (scanSearch : Option (SearchMembers F D)) : Prop :=
  ∃ search values, scanSearch = some search ∧
    kernels.covariances (packedScan points) impl.covarianceNeighbors impl.covarianceEpsilon =
      some values ∧ search.covariances = .allocated (some values)

/-- What the upload leaves of the search of a scan. -/
def ScanSearched (kernels : CudaKernels F D) (before : Search F D) (points : List (Vec3 D))
    (scanSearch : Option (SearchMembers F D)) : Prop :=
  if before.covarianceNeighbors = 0 then scanSearch = before.scanSearch
  else HasScanCovariances kernels before points scanSearch

theorem prepareScanSearch_spec (kernels : CudaKernels F D) (current : ℤ) (impl : Search F D)
    (points : List (Vec3 D)) :
    Triple (At (· = impl) launches) (prepareScanSearch kernels current points)
      (fun _ => At (fun o => ∃ scanSearch, ScanSearched kernels impl points scanSearch ∧
        o = { impl with scanSearch }) launches)
      (At (· = impl) launches) := by
  unfold prepareScanSearch
  apply triple_read fun _ h => h.1
  by_cases hnone : impl.covarianceNeighbors = 0
  · rw [if_pos hnone]
    refine .pure fun s hs => ⟨⟨impl.scanSearch, ?_, hs.1⟩, hs.2⟩
    unfold ScanSearched
    rw [if_pos hnone]
  rw [if_neg hnone]
  refine Triple.require_bind (fun _ h => h) fun _ => ?_
  refine (createSearch_spec current (packedScan points) 1 .indexed).bind fun created => ?_
  refine ((withObject_spec (prepareResident_spec launches created [])).weaken (fun _ h => h)
    (fun _ _ h => h)
    fun _ h => ⟨h.1.1, h.2⟩).bind fun resident => ?_
  refine ((withObject_spec (prepareGicp_spec launches kernels resident impl.covarianceNeighbors
    impl.covarianceEpsilon)).weaken (fun _ h => h) (fun _ _ h => h)
      fun _ h => ⟨h.1.1.1, h.2⟩).bind fun prepared => .modify fun s hs => ⟨?_, hs.2⟩
  obtain ⟨⟨⟨⟨hobject, hcreated⟩, -, hresident, -⟩, -, -, -, -, -, values, hvalues, harray⟩, -⟩ := hs
  rw [hresident.reference, hcreated] at hvalues
  refine ⟨some prepared, ?_, ?_⟩
  · unfold ScanSearched
    rw [if_neg hnone]
    exact ⟨prepared, values, rfl, hvalues, harray⟩
  · rw [hobject]

/-- The members that an upload leaves alone until it has the scan's covariances. -/
structure KeepsSettings (before after : Search F D) : Prop where
  reference : after.reference = before.reference
  resident : after.resident = before.resident
  covarianceNeighbors : after.covarianceNeighbors = before.covarianceNeighbors
  covarianceEpsilon : after.covarianceEpsilon = before.covarianceEpsilon
  covariances : after.covariances = before.covariances

/-- What a successful upload leaves: the scan, and its covariances if the reference has some. -/
structure Uploaded (kernels : CudaKernels F D) (before : Search F D)
    (points normals : List (Vec3 D))
    (after : Search F D) : Prop where
  ready : before.resident = true
  nonempty : points ≠ []
  settings : KeepsSettings before after
  scan : after.scan = .allocated (some points)
  scanNormals : normals ≠ [] → after.scanNormals = .allocated (some normals)
  hasScanNormals : after.hasScanNormals = decide (normals ≠ [])
  scanCount : after.scanCount = points.length
  search : ScanSearched kernels before points after.scanSearch

/-- What an upload leaves that fails after its first step: no scan. -/
def Dropped (before after : Search F D) : Prop :=
  after.scanCount = 0 ∧ KeepsSettings before after ∧ after.scanSearch = before.scanSearch

omit [FloatArith F] [Floats F D] [FloatArith D] in
theorem Dropped.of_scan {before after : Search F D} (h : Dropped before after)
    (scan scanNormals : DeviceArray (List (Vec3 D))) :
    Dropped before { after with scan, scanNormals } :=
  ⟨h.1, ⟨h.2.1.1, h.2.1.2, h.2.1.3, h.2.1.4, h.2.1.5⟩, h.2.2⟩

omit [FloatArith F] [Floats F D] [FloatArith D] in
theorem scanSteps_keep (before : Search F D) (normals : List (Vec3 D)) :
    ∀ step ∈ scanSteps (F := F) normals, ∀ o, Dropped before o → Dropped before (step.2 o) := by
  intro step hstep o ho
  unfold scanSteps at hstep
  simp only [List.mem_append, List.mem_singleton] at hstep
  rcases hstep with rfl | hnormals
  · exact ho.of_scan o.scan _
  · split_ifs at hnormals
    · cases hnormals
    · rw [List.mem_singleton.mp hnormals]
      exact ho

theorem uploadScan_spec (launches : List (Launch D)) (kernels : CudaKernels F D) (current : ℤ)
    (impl : Search F D) (points normals : List (Vec3 D)) :
    Triple (At (· = impl) launches) (uploadScan kernels current points normals)
      (fun _ => At (Uploaded kernels impl points normals) launches)
      (At (fun o => o = impl ∨ Dropped impl o) launches) := by
  have hkept : ∀ s, At (· = impl) launches s →
      At (fun o => o = impl ∨ Dropped impl o) launches s := fun s hs => ⟨.inl hs.1, hs.2⟩
  have hdropped : ∀ s, At (Dropped impl) launches s →
      At (fun o => o = impl ∨ Dropped impl o) launches s := fun s hs => ⟨.inr hs.1, hs.2⟩
  unfold uploadScan
  refine triple_read (fun _ h => h.1) (Triple.require_bind hkept fun hscan => ?_)
  obtain ⟨hresident, hnonempty, -, -⟩ := hscan
  refine Triple.require_bind hkept fun _ => ?_
  refine ((Keeps.deviceCall _ launches).weaken (fun _ h => h) (fun _ _ h => h) hkept).bind
    fun _ => Triple.require_bind hkept fun _ => ?_
  refine Triple.bind (Q := fun _ => At (Dropped impl) launches) (.modify fun s hs => ?_) fun _ => ?_
  · rw [At, hs.1]
    exact ⟨⟨rfl, ⟨rfl, rfl, rfl, rfl, rfl⟩, rfl⟩, hs.2⟩
  have hcalls : Keeps (D := D) (Dropped impl) (deviceCalls (scanSteps normals)) :=
    .deviceCalls fun step hstep o => scanSteps_keep impl normals step hstep o
  refine ((hcalls launches).weaken (fun _ h => h) (fun _ _ h => h) hdropped).bind fun _ => ?_
  refine ((Keeps.deviceCall _ launches).weaken (fun _ h => h) (fun _ _ h => h) hdropped).bind
    fun _ => ?_
  let Copied : Search F D → Prop := fun o => Dropped impl o ∧ o.scan = .allocated (some points) ∧
    (normals ≠ [] → o.scanNormals = .allocated (some normals))
  refine Triple.bind (Q := fun _ => At Copied launches) (.modify fun s hs => ⟨?_, hs.2⟩) fun _ => ?_
  · refine ⟨hs.1.of_scan _ _, rfl, fun hnormals => ?_⟩
    exact if_neg hnormals
  refine triple_of_object fun o ho => ?_
  obtain ⟨⟨hcount, hsettings, hsearch⟩, hcopied, hnormals⟩ := ho
  refine ((prepareScanSearch_spec kernels current o points).weaken (fun _ h => h)
    (fun _ _ h => h) fun s hs => hdropped s ⟨?_, hs.2⟩).bind fun _ => .modify fun s hs => ⟨?_, hs.2⟩
  · rw [hs.1]
    exact ⟨hcount, hsettings, hsearch⟩
  obtain ⟨⟨scanSearch, hsearched, hobject⟩, -⟩ := hs
  rw [hobject]
  refine ⟨by simpa using hresident, hnonempty, ⟨hsettings.1, hsettings.2, hsettings.3,
    hsettings.4, hsettings.5⟩, hcopied, hnormals, rfl, rfl, ?_⟩
  unfold ScanSearched HasScanCovariances at hsearched ⊢
  rwa [hsettings.covarianceNeighbors, hsettings.covarianceEpsilon, hsearch] at hsearched

omit [Floats F D] in
theorem queryInto_keeps {P : Search F D → Prop} (kernels : CudaKernels F D) (current : ℤ)
    (points : List (Vec3 F)) (maxDistanceMm : D) :
    Keeps P (queryInto kernels current points maxDistanceMm) := by
  unfold queryInto
  refine Keeps.readObject.bind fun impl => Keeps.require.bind fun _ => Keeps.require.bind fun _ =>
    Keeps.require.bind fun _ => (Keeps.deviceCall _).bind fun _ => Keeps.require.bind fun _ => ?_
  refine .ite (.pure []) ?_
  exact (Keeps.forM fun operation _ => .deviceCall operation).bind fun _ => .pure _

/-- An evaluation's checks pass. -/
structure Accepts (impl : Search F D) (current : ℤ) (replies : List (Option String))
    (arguments : EvaluateArguments D) : Prop where
  ready : impl.resident ∧ impl.scanCount ≠ 0 ∧
    ¬ (arguments.plane ∧ impl.referenceNormals.isNull) ∧ isFinite arguments.radius ∧
    ¬ arguments.radius ≤ 0 ∧ isFinite arguments.huber ∧ ¬ arguments.huber ≤ 0
  matrix : ∀ i, isFinite (arguments.matrix i)
  reply : replies.head?.join = none
  device : current = impl.device

omit [FloatArith F] [Floats F D] in
/-- An evaluation keeps the search. It launches its kernels when its checks pass, and fails
without launching otherwise. -/
theorem evaluate_spec (launches : List (Launch D)) (kernels : CudaKernels F D) (current : ℤ)
    (arguments : EvaluateArguments D) (impl : Search F D) (replies : List (Option String)) :
    Triple (fun s => At (· = impl) launches s ∧ s.replies = replies)
      (evaluate kernels current arguments)
      (fun _ s => Accepts impl current replies arguments ∧
        At (· = impl) (launches ++ [impl.launch arguments]) s)
      (fun s => (Accepts impl current replies arguments ∧
          At (· = impl) (launches ++ [impl.launch arguments]) s) ∨
        (¬ Accepts impl current replies arguments ∧ At (· = impl) launches s)) := by
  unfold evaluate
  apply triple_read fun _ h => h.1.1
  refine .require_split (fun h s hs => .inr ⟨fun ha => h ha.ready, hs.1⟩) fun hready => ?_
  refine .require_split (fun h s hs => .inr ⟨fun ha => h ha.matrix, hs.1⟩) fun hmatrix => ?_
  refine triple_deviceCall (fun h s hs => .inr ⟨fun ha => h ha.reply, hs⟩) fun hreply => ?_
  refine .require_split (fun h s hs => .inr ⟨fun ha => h ha.device, hs⟩) fun hdevice => ?_
  have haccepts : Accepts impl current replies arguments := ⟨hready, hmatrix, hreply, hdevice⟩
  refine Triple.bind (Q := fun _ => At (· = impl) (launches ++ [impl.launch arguments]))
    (.modify fun s hs => ⟨hs.1, by rw [← hs.2]⟩) fun _ => ?_
  have hcalls : Keeps (D := D) (· = impl) (forM ["resident transform launch",
      "resident nearest launch", "resident objective launch", "resident merge launch",
      "compact equation download", "resident objective completion"] deviceCall) :=
    .forM fun operation _ => .deviceCall operation
  refine ((hcalls _).weaken (fun _ h => h) (fun _ _ h => h)
    fun s hs => .inl ⟨haccepts, hs⟩).bind fun _ => ?_
  refine .require_bind (fun s hs => .inl ⟨haccepts, hs⟩) fun _ => ?_
  exact .pure fun s hs => ⟨haccepts, hs⟩

end

end PointcloudAd
