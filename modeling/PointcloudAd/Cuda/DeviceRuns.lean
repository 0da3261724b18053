import PointcloudAd.Cuda.DeviceKernels

/-!
# A search that serves a reference

What the preparation of a search for a reference leaves, and what every later upload or evaluation
keeps of it, whichever device calls fail. As long as none fails, an upload leaves its scan and an
evaluation returns what its kernels compute.
-/

namespace PointcloudAd

open Library Library.Faulty

section

variable {D σ α β : Type}

/-- While no device call fails, the call returns a value and leaves an object. -/
def Runs (o : σ) (m : Cuda D σ α) (a : α) (o' : σ) : Prop :=
  ∀ s : DeviceState D σ, s.object = o → (∀ reply ∈ s.replies, reply = none) →
    ∃ s', outcome m s = (.ok a, s') ∧ s'.object = o' ∧ ∀ reply ∈ s'.replies, reply = none

variable {o o' o'' : σ} {a : α} {b : β}

theorem Runs.pure (o : σ) (a : α) : Runs (D := D) o (pure a) a o :=
  fun s hs hreplies => ⟨s, rfl, hs, hreplies⟩

theorem Runs.bind {m : Cuda D σ α} {f : α → Cuda D σ β} (hm : Runs o m a o')
    (hf : Runs o' (f a) b o'') : Runs o (m >>= f) b o'' := by
  intro s hs hreplies
  obtain ⟨s', hrun, hs', hreplies'⟩ := hm s hs hreplies
  obtain ⟨s'', hrun', hs'', hreplies''⟩ := hf s' hs' hreplies'
  refine ⟨s'', ?_, hs'', hreplies''⟩
  rw [outcome_bind, hrun]
  exact hrun'

theorem Runs.readObject : Runs (D := D) o readObject o o := by
  rintro s rfl hreplies
  exact ⟨s, rfl, rfl, hreplies⟩

theorem Runs.updateObject (f : σ → σ) : Runs (D := D) o (updateObject f) () (f o) := by
  rintro s rfl hreplies
  exact ⟨_, rfl, rfl, hreplies⟩

theorem Runs.recordLaunch (launch : Launch D) : Runs o (recordLaunch launch) () o := by
  rintro s rfl hreplies
  exact ⟨_, rfl, rfl, hreplies⟩

theorem Runs.require {p : Prop} [Decidable p] (hp : p) (e : Exn) :
    Runs (D := D) o (Faulty.require p e) () o := by
  rw [Faulty.require, if_pos hp]
  exact .pure o ()

theorem Runs.deviceCall (operation : String) : Runs (D := D) o (deviceCall operation) () o := by
  rintro s rfl hreplies
  have hnone : s.replies.head?.join = none := by
    cases hlist : s.replies with
    | nil => rfl
    | cons reply rest => simp [hreplies reply (by simp [hlist])]
  rw [deviceCall_outcome, hnone]
  exact ⟨_, rfl, rfl, fun reply hreply => hreplies reply (List.mem_of_mem_tail hreply)⟩

theorem Runs.deviceCallList (operations : List String) :
    Runs (D := D) o (forM operations PointcloudAd.deviceCall) () o := by
  induction operations with
  | nil => exact .pure o ()
  | cons operation operations ih =>
    rw [List.forM_cons]
    exact (Runs.deviceCall operation).bind ih

theorem Runs.deviceCalls (calls : List (DeviceStep σ)) :
    Runs (D := D) o (deviceCalls calls) () (calls.foldl (fun o call => call.2 o) o) := by
  induction calls generalizing o with
  | nil => exact .pure o ()
  | cons call calls ih =>
    unfold PointcloudAd.deviceCalls at ih ⊢
    rw [List.forM_cons]
    exact ((Runs.deviceCall call.1).bind (.updateObject call.2)).bind ih

/-- A call leaves an object with the property where it found one, whether it fails or not. -/
def KeepsObject (P : σ → Prop) (m : Cuda D σ α) : Prop :=
  ∀ s, P s.object → P (outcome m s).2.object

theorem Keeps.object {P : σ → Prop} {m : Cuda D σ α} (h : Keeps P m) : KeepsObject P m := by
  intro s hs
  have hm := h s.launches s ⟨hs, rfl⟩
  rcases hrun : outcome m s with ⟨_ | _, s'⟩ <;> rw [hrun] at hm <;> exact hm.1

end

section

variable {F D : Type} [FloatArith F] [FloatArith D] [Floats F D]

/-- A search that was prepared for a reference, and has no covariances. -/
structure Serves (reference : List (Vec3 F)) (normals : List (Vec3 D)) (capacity : ℕ) (device : ℤ)
    (impl : SearchMembers F D) : Prop where
  reference : impl.reference = reference
  referenceNormals : impl.referenceNormals =
    if normals = [] then .null else .allocated (some normals)
  resident : impl.resident = true
  capacity : impl.capacity = capacity
  device : impl.device = device
  uncovered : impl.covarianceNeighbors = 0

/-- The members that the preparation of the workspace leaves as they were created. -/
structure AsCreated (reference : List (Vec3 F)) (capacity : ℕ) (device : ℤ)
    (impl : SearchMembers F D) : Prop where
  reference : impl.reference = reference
  capacity : impl.capacity = capacity
  device : impl.device = device
  uncovered : impl.covarianceNeighbors = 0

omit [FloatArith F] [FloatArith D] [Floats F D] in
theorem residentSteps_created {reference : List (Vec3 F)} {capacity : ℕ} {device : ℤ}
    (strategy : SearchStrategy) (normals : List (Vec3 D)) :
    ∀ step ∈ residentSteps (F := F) strategy normals, ∀ o,
      AsCreated reference capacity device o → AsCreated reference capacity device (step.2 o) := by
  intro step hstep o ho
  unfold residentSteps at hstep
  simp only [List.mem_append, List.mem_cons, List.not_mem_nil, or_false] at hstep
  rcases hstep with ((rfl | rfl) | hnormals) | rfl | rfl | rfl | rfl | rfl | rfl
  case inl.inr =>
    split_ifs at hnormals
    · cases hnormals
    · simp only [List.mem_cons, List.not_mem_nil, or_false] at hnormals
      rcases hnormals with rfl | rfl <;> exact ⟨ho.1, ho.2, ho.3, ho.4⟩
  all_goals exact ⟨ho.1, ho.2, ho.3, ho.4⟩

/-- The step that knows what was copied. -/
def preparedStep (normals : List (Vec3 D)) : DeviceStep (SearchMembers F D) :=
  ("resident preparation", fun impl => { impl with
    referenceNormals := if normals = [] then .null else .allocated (some normals) })

omit [FloatArith F] [FloatArith D] [Floats F D] in
theorem residentSteps_last (strategy : SearchStrategy) (normals : List (Vec3 D)) :
    residentSteps (F := F) strategy normals =
      (residentSteps strategy normals).dropLast ++ [preparedStep normals] := by
  by_cases hnormals : normals = [] <;> simp [residentSteps, preparedStep, hnormals]

omit [FloatArith F] [FloatArith D] [Floats F D] in
theorem prepareResident_serves (launches : List (Launch D)) {reference : List (Vec3 F)}
    {capacity : ℕ} {device : ℤ} {impl : SearchMembers F D}
    (himpl : AsCreated reference capacity device impl) (normals : List (Vec3 D)) :
    Triple (At (· = impl) launches) (prepareResident normals)
      (fun _ => At (Serves reference normals capacity device) launches)
      (At (fun _ => True) launches) := by
  have hany : ∀ {P : SearchMembers F D → Prop} (s : DeviceState D (SearchMembers F D)),
      At P launches s → At (fun _ => True) launches s := fun s hs => ⟨trivial, hs.2⟩
  unfold prepareResident
  apply triple_read fun _ h => h.1
  refine Triple.require_bind hany fun _ => Triple.require_bind hany fun _ => ?_
  have hsteps := residentSteps_last (F := F) impl.strategy normals
  generalize (residentSteps (F := F) impl.strategy normals).dropLast = first at hsteps
  have hcreated : ∀ step ∈ residentSteps (F := F) impl.strategy normals, ∀ o,
      AsCreated reference capacity device o → AsCreated reference capacity device (step.2 o) :=
    residentSteps_created impl.strategy normals
  rw [hsteps] at hcreated ⊢
  have hfirst : Keeps (D := D) (AsCreated reference capacity device)
      (deviceCalls first) :=
    .deviceCalls fun step hstep => hcreated step (List.mem_append_left _ hstep)
  have hsplit : deviceCalls (D := D) (first ++ [preparedStep normals]) =
      deviceCalls first >>= fun _ => deviceCalls [preparedStep normals] := by
    unfold deviceCalls
    rw [List.forM_append]
  have hlast : Triple (At (AsCreated reference capacity device) launches)
      (deviceCalls [preparedStep normals])
      (fun _ => At (fun o => AsCreated reference capacity device o ∧ o.referenceNormals =
        if normals = [] then .null else .allocated (some normals)) launches)
      (At (fun _ => True) launches) := by
    unfold deviceCalls
    rw [List.forM_cons, List.forM_nil]
    refine Triple.bind (Q := fun _ => At (fun o => AsCreated reference capacity device o ∧
      o.referenceNormals = if normals = [] then .null else .allocated (some normals)) launches)
      (Triple.bind (Q := fun _ => At (AsCreated reference capacity device) launches) ?_
        fun _ => .modify fun s hs => ?_) fun _ => .pure fun _ h => h
    · exact (Keeps.deviceCall _ launches).weaken (fun _ h => h) (fun _ _ h => h) hany
    · exact ⟨⟨⟨hs.1.1, hs.1.2, hs.1.3, hs.1.4⟩, rfl⟩, hs.2⟩
  rw [hsplit]
  refine Triple.bind (Triple.bind (Q := fun _ => At (AsCreated reference capacity device) launches)
    ?_ fun _ => hlast) fun _ => .modify fun s hs => ⟨?_, hs.2⟩
  · refine (hfirst launches).weaken ?_ (fun _ _ h => h) hany
    rintro s ⟨rfl, hlaunches⟩
    exact ⟨himpl, hlaunches⟩
  obtain ⟨⟨hreference, hcapacity, hdevice, huncovered⟩, hnormals⟩ := hs.1
  exact ⟨hreference, hnormals, rfl, hcapacity, hdevice, huncovered⟩

/-- A search that serves a reference, and has searched no scan. -/
def ServesAlone (reference : List (Vec3 F)) (normals : List (Vec3 D)) (capacity : ℕ) (device : ℤ)
    (impl : Search F D) : Prop :=
  Serves reference normals capacity device impl.toSearchMembers ∧ impl.scanSearch = none

variable {reference : List (Vec3 F)} {normals : List (Vec3 D)} {capacity : ℕ} {device : ℤ}

omit [FloatArith F] [FloatArith D] [Floats F D] in
theorem ServesAlone.of_scan {impl : Search F D}
    (h : ServesAlone reference normals capacity device impl)
    (scan scanNormals : DeviceArray (List (Vec3 D))) (scanCount : ℕ) (hasScanNormals : Bool) :
    ServesAlone reference normals capacity device
      { impl with scan, scanNormals, scanCount, hasScanNormals } :=
  ⟨⟨h.1.1, h.1.2, h.1.3, h.1.4, h.1.5, h.1.6⟩, h.2⟩

theorem prepareScanSearch_serves (kernels : CudaKernels F D) (current : ℤ)
    (points : List (Vec3 D)) :
    Keeps (ServesAlone reference normals capacity device)
      (prepareScanSearch kernels current points) := by
  intro launches
  refine triple_of_object fun impl himpl => ?_
  unfold prepareScanSearch
  refine triple_read (fun _ h => h.1) ?_
  rw [if_pos himpl.1.uncovered]
  refine .pure fun s hs => ⟨?_, hs.2⟩
  rw [hs.1]
  exact himpl

theorem uploadScan_serves (kernels : CudaKernels F D) (current : ℤ)
    (points scanNormals : List (Vec3 D)) :
    Keeps (ServesAlone reference normals capacity device)
      (uploadScan kernels current points scanNormals) := by
  have hsteps : ∀ step ∈ scanSteps (F := F) scanNormals, ∀ o,
      ServesAlone reference normals capacity device o →
        ServesAlone reference normals capacity device (step.2 o) := by
    intro step hstep o ho
    unfold scanSteps at hstep
    simp only [List.mem_append, List.mem_singleton] at hstep
    rcases hstep with rfl | hnormals
    · exact ho.of_scan o.scan _ o.scanCount o.hasScanNormals
    · split_ifs at hnormals
      · cases hnormals
      · rw [List.mem_singleton.mp hnormals]
        exact ho
  unfold uploadScan
  refine Keeps.readObject.bind fun impl => Keeps.require.bind fun _ => Keeps.require.bind fun _ =>
    (Keeps.deviceCall _).bind fun _ => Keeps.require.bind fun _ => ?_
  refine (Keeps.updateObject fun o ho => ho.of_scan _ o.scanNormals _ o.hasScanNormals).bind
    fun _ => (Keeps.deviceCalls hsteps).bind fun _ => (Keeps.deviceCall _).bind fun _ => ?_
  refine (Keeps.updateObject fun o ho => ho.of_scan _ _ o.scanCount o.hasScanNormals).bind
    fun _ => (prepareScanSearch_serves kernels current points).bind fun _ => ?_
  exact .updateObject fun o ho => ho.of_scan o.scan o.scanNormals _ _

omit [FloatArith F] [Floats F D] in
theorem evaluate_keepsObject {P : Search F D → Prop} (kernels : CudaKernels F D) (current : ℤ)
    (arguments : EvaluateArguments D) : KeepsObject P (evaluate kernels current arguments) := by
  intro s hs
  have hcall := evaluate_spec s.launches kernels current arguments s.object s.replies s
    ⟨⟨rfl, rfl⟩, rfl⟩
  rcases hrun : outcome (evaluate kernels current arguments) s with ⟨_ | _, s'⟩ <;>
    rw [hrun] at hcall
  · obtain ⟨-, hobject, -⟩ | ⟨-, hobject, -⟩ := hcall <;> rwa [hobject]
  · rwa [hcall.2.1]

/-- An upload that no device call fails leaves its scan. -/
theorem uploadScan_runs {impl : Search F D}
    (himpl : ServesAlone reference normals capacity device impl) (kernels : CudaKernels F D)
    {points scanNormals : List (Vec3 D)} (hnonempty : points ≠ [])
    (hcapacity : points.length ≤ capacity)
    (hnormals : scanNormals = [] ∨ scanNormals.length = points.length)
    (hfinite : ∀ p ∈ points, p.finite = true) :
    ∃ after, Runs impl (uploadScan kernels device points scanNormals) () after ∧
      ServesAlone reference normals capacity device after ∧
      HoldsScan after (points, scanNormals) := by
  let copied : Search F D := { impl with
    scan := .allocated (some points)
    scanCount := 0
    scanNormals := if scanNormals = [] then impl.scanNormals else .allocated (some scanNormals) }
  let after : Search F D := { copied with
    hasScanNormals := decide (scanNormals ≠ [])
    scanCount := points.length }
  have hcalls : (scanSteps scanNormals).foldl (fun o step => step.2 o)
      { impl with scanCount := 0, scan := .allocated none } =
        { impl with
          scanCount := 0
          scan := .allocated none
          scanNormals := if scanNormals = [] then impl.scanNormals else .allocated none } := by
    by_cases hnone : scanNormals = [] <;> simp [scanSteps, hnone]
  have hcopied : ∀ o : Search F D, o = { impl with
      scanCount := 0
      scan := .allocated none
      scanNormals := if scanNormals = [] then impl.scanNormals else .allocated none } →
      { o with
        scan := .allocated (some points)
        scanNormals := if scanNormals = [] then o.scanNormals else .allocated (some scanNormals) } =
        copied := by
    rintro _ rfl
    by_cases hnone : scanNormals = [] <;> simp [copied, hnone]
  have hsearch : Runs copied (prepareScanSearch kernels device points) () copied := by
    unfold prepareScanSearch
    refine Runs.readObject.bind ?_
    have huncovered : copied.covarianceNeighbors = 0 := himpl.1.uncovered
    rw [if_pos huncovered]
    exact .pure copied ()
  refine ⟨after, ?_, ?_, ?_⟩
  · unfold uploadScan
    refine Runs.readObject.bind (.bind (.require ?_ _) (.bind (.require hfinite _)
      ((Runs.deviceCall _).bind (.bind (.require himpl.1.device.symm _)
        ((Runs.updateObject _).bind ((Runs.deviceCalls _).bind ((Runs.deviceCall _).bind
          (.bind (.updateObject _) ?_))))))))
    · rw [himpl.1.capacity]
      exact ⟨himpl.1.resident, hnonempty, hcapacity, hnormals⟩
    · rw [hcopied _ hcalls]
      exact hsearch.bind (.updateObject _)
  · exact (himpl.of_scan (.allocated (some points)) _ 0 impl.hasScanNormals).of_scan _ _ _ _
  · refine ⟨rfl, rfl, rfl, fun hsome => ?_⟩
    change (if scanNormals = [] then impl.scanNormals else .allocated (some scanNormals)) = _
    rw [if_neg hsome]

omit [FloatArith F] [Floats F D] in
/-- An evaluation that no device call fails returns what its kernels compute. -/
theorem evaluate_runs {impl : Search F D}
    (himpl : ServesAlone reference normals capacity device impl) (kernels : CudaKernels F D)
    {arguments : EvaluateArguments D} (hscan : impl.scanCount ≠ 0)
    (hplane : arguments.plane = true → normals ≠ [])
    (hradius : isFinite arguments.radius = true ∧ ¬ arguments.radius ≤ 0)
    (hhuber : isFinite arguments.huber = true ∧ ¬ arguments.huber ≤ 0)
    (hmatrix : ∀ i, isFinite (arguments.matrix i) = true)
    (hvalid : equal (kernels.equation reference (impl.launch arguments) 44) 0 = true) :
    Runs impl (evaluate kernels device arguments)
      (kernels.equation reference (impl.launch arguments)) impl := by
  have hready : ¬ (arguments.plane = true ∧ impl.referenceNormals.isNull = true) := by
    rintro ⟨hp, hnull⟩
    rw [himpl.1.referenceNormals, if_neg (hplane hp)] at hnull
    cases hnull
  unfold evaluate
  refine Runs.readObject.bind (.bind (.require ?_ _) (.bind (.require hmatrix _)
    ((Runs.deviceCall _).bind (.bind (.require himpl.1.device.symm _)
      ((Runs.recordLaunch _).bind ((Runs.deviceCallList _).bind ?_))))))
  · exact ⟨himpl.1.resident, hscan, hready, hradius.1, hradius.2, hhuber.1, hhuber.2⟩
  · dsimp only
    rw [himpl.1.reference]
    exact .bind (.require hvalid _) (.pure impl _)

end

end PointcloudAd
