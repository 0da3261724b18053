import PointcloudAd.Pipeline.RelaxedLimits
import PointcloudAd.Pipeline.Noninterference

/-!
# Length units

The unit of a surface shows in the conversion of its coordinates and nowhere after it. Two surfaces
in units of their own whose valid samples are the same points in millimetres are inspected alike.
-/

namespace PointcloudAd

open Library Registration

variable {F D : Type} [FloatArith F] [FloatArith D] [Floats F D]

variable (D) in
/-- The point of a sample in millimetres, before it is rounded to its storage. -/
def SurfaceView.inMillimeters (surface : SurfaceView F) (index : ℕ) : Vec3 D :=
  normalizePoint (millimetersPerUnit surface.unit) none (surface.points.getD index default)

variable (D) in
/-- Two surfaces over one grid, each in its unit, whose valid samples have the same points in
millimetres and the same normals. Under the mask and in row padding they hold anything. -/
structure SameInMillimeters (s t : SurfaceView F) : Prop where
  size : s.size = t.size
  grid : s.grid = t.grid
  frame : s.frame = t.frame
  mask : ∀ i ∈ s.indices, s.isValidIndex i = t.isValidIndex i
  hasNormals : s.normals = [] ↔ t.normals = []
  points : ∀ i ∈ s.indices, s.isValidIndex i = true → s.inMillimeters D i = t.inMillimeters D i
  normals : ∀ i ∈ s.indices, s.isValidIndex i = true → s.normals[i]? = t.normals[i]?

variable {s t : SurfaceView F} {a b : List (Vec3 F) × List (Vec3 F)} {rest : List ℕ}

theorem SameInMillimeters.layout (h : SameInMillimeters D s t) (hs : s.Shaped)
    (ht : t.Shaped) : SameLayout s t :=
  .of_grid h.grid (hs.storageSize_eq ht h.grid h.size)

/-- The arrays of two walks that convert their samples in place. The indices still to come hold what
the surfaces hold; at the others the arrays agree where the mask is set. -/
structure Converting (s t : SurfaceView F) (rest : List ℕ) (a b : List (Vec3 F) × List (Vec3 F)) :
    Prop where
  points_left : a.1.length = s.storageSize
  points_right : b.1.length = t.storageSize
  normals_left : a.2 = [] ∨ a.2.length = s.storageSize
  normals_right : b.2 = [] ∨ b.2.length = t.storageSize
  hasNormals : a.2 = [] ↔ b.2 = []
  nodup : rest.Nodup
  samples : ∀ i ∈ rest, i ∈ s.indices
  pending_left : ∀ i ∈ rest, a.1[i]? = s.points[i]? ∧ a.2[i]? = s.normals[i]?
  pending_right : ∀ i ∈ rest, b.1[i]? = t.points[i]? ∧ b.2[i]? = t.normals[i]?
  converted : ∀ i ∈ s.indices, i ∉ rest → s.isValidIndex i = true →
    a.1[i]? = b.1[i]? ∧ a.2[i]? = b.2[i]?

omit [FloatArith F] in
/-- One sample of each walk, written with values that agree where the mask is set. -/
theorem Converting.write {i : ℕ} (h : Converting s t (i :: rest) a b) (hs : s.Shaped)
    (hsame : s.storageSize = t.storageSize) {v w n m : Vec3 F}
    (hvw : s.isValidIndex i = true → v = w) (hnm : s.isValidIndex i = true → n = m) :
    Converting s t rest (a.1.set i v, a.2.set i n) (b.1.set i w, b.2.set i m) := by
  obtain ⟨hi, hnodup⟩ := List.nodup_cons.mp h.nodup
  have hlt : i < s.storageSize := hs.lt (h.samples i (by simp))
  have hne : ∀ j ∈ rest, i ≠ j := fun j hj he => hi (he ▸ hj)
  refine ⟨(List.length_set ..).trans h.points_left, (List.length_set ..).trans h.points_right,
    h.normals_left.imp (by simp +contextual) (List.length_set ..).trans,
    h.normals_right.imp (by simp +contextual) (List.length_set ..).trans, by simp [h.hasNormals],
    hnodup, fun j hj => h.samples j (by simp [hj]), fun j hj => ?_, fun j hj => ?_,
    fun j hj hrest hv => ?_⟩
  · dsimp only
    rw [List.getElem?_set_ne (hne j hj), List.getElem?_set_ne (hne j hj)]
    exact h.pending_left j (by simp [hj])
  · dsimp only
    rw [List.getElem?_set_ne (hne j hj), List.getElem?_set_ne (hne j hj)]
    exact h.pending_right j (by simp [hj])
  · dsimp only
    by_cases hij : i = j
    · subst hij
      rw [hvw hv, hnm hv, List.getElem?_set_self (h.points_left ▸ hlt),
        List.getElem?_set_self (h.points_right ▸ hsame ▸ hlt)]
      refine ⟨rfl, ?_⟩
      by_cases hn : a.2 = []
      · rw [hn, h.hasNormals.mp hn]
      · have hl := h.normals_left.resolve_left hn
        have hr := h.normals_right.resolve_left fun he => hn (h.hasNormals.mpr he)
        rw [List.getElem?_set_self (hl ▸ hlt), List.getElem?_set_self (hr ▸ hsame ▸ hlt)]
    · rw [List.getElem?_set_ne hij, List.getElem?_set_ne hij, List.getElem?_set_ne hij,
        List.getElem?_set_ne hij]
      exact h.converted j hj (by simp [Ne.symm hij, hrest]) hv

variable (D) in
/-- One step of each walk, in the unit of its surface. -/
theorem normalizeIndex_converting (h : SameInMillimeters D s t) (hs : s.Shaped) (ht : t.Shaped)
    {i : ℕ} (hab : Converting s t (i :: rest) a b) :
    Outcome (Converting s t rest)
      (normalizeIndex (millimetersPerUnit s.unit : D) none s.valid a i)
      (normalizeIndex (millimetersPerUnit t.unit : D) none t.valid b i) := by
  have hi : i ∈ s.indices := hab.samples i (by simp)
  have hmask : maskValid s.valid i = maskValid t.valid i := h.mask i hi
  obtain ⟨hpoint, hnormal⟩ := hab.pending_left i (by simp)
  obtain ⟨hpoint', hnormal'⟩ := hab.pending_right i (by simp)
  have hconverted : s.isValidIndex i = true →
      normalizePoint (millimetersPerUnit s.unit : D) none (a.1.getD i default) =
        normalizePoint (millimetersPerUnit t.unit : D) none (b.1.getD i default) := by
    intro hv
    rw [List.getD_eq_getElem?_getD, hpoint, List.getD_eq_getElem?_getD, hpoint',
      ← List.getD_eq_getElem?_getD, ← List.getD_eq_getElem?_getD]
    exact h.points i hi hv
  have hkept : s.isValidIndex i = true → a.2.getD i default = b.2.getD i default := by
    intro hv
    rw [List.getD_eq_getElem?_getD, hnormal, List.getD_eq_getElem?_getD, hnormal',
      h.normals i hi hv]
  have hwritten := hab.write hs (h.layout hs ht).storage
    (v := (normalizePoint (millimetersPerUnit s.unit : D) none (a.1.getD i default)).narrow)
    (w := (normalizePoint (millimetersPerUnit t.unit : D) none (b.1.getD i default)).narrow)
    (n := (normalizeNormal (D := D) none (a.2.getD i default)).narrow)
    (m := (normalizeNormal (D := D) none (b.2.getD i default)).narrow)
    (fun hv => by rw [hconverted hv]) fun hv => by rw [hkept hv]
  unfold normalizeIndex
  dsimp only
  rw [← hmask]
  by_cases hn : a.2 = []
  · have hm : b.2 = [] := hab.hasNormals.mp hn
    rw [if_pos hn, if_pos hm]
    rw [hn, hm] at hwritten
    by_cases hv : maskValid s.valid i = true
    · rw [hconverted hv] at hwritten ⊢
      split_ifs
      · exact .error _
      · exact .ok hwritten
    · rw [if_neg (fun hc => hv hc.1), if_neg (fun hc => hv hc.1)]
      exact .ok hwritten
  · have hm : b.2 ≠ [] := fun he => hn (hab.hasNormals.mpr he)
    rw [if_neg hn, if_neg hm]
    by_cases hv : maskValid s.valid i = true
    · rw [hconverted hv, hkept hv] at hwritten ⊢
      split_ifs
      · exact .error _
      · exact .error _
      · exact .ok hwritten
    · rw [if_neg (fun hc => hv hc.1), if_neg (fun hc => hv hc.1), if_neg (fun hc => hv hc.1),
        if_neg (fun hc => hv hc.1)]
      exact .ok hwritten

/-- The surface that arrays in millimetres hold, over the mask and the grid of their source. -/
def SurfaceView.converted (surface : SurfaceView F) (arrays : List (Vec3 F) × List (Vec3 F)) :
    SurfaceView F :=
  { surface with
    points := arrays.1
    normals := arrays.2
    unit := .millimeter }

omit [FloatArith F] in
theorem SurfaceView.converted_layout (hpoints : a.1.length = s.storageSize) :
    SameLayout s (s.converted a) :=
  .of_grid rfl hpoints.symm

omit [FloatArith F] in
theorem SurfaceView.Shaped.converted (hs : s.Shaped) (hpoints : a.1.length = s.storageSize)
    (hnormals : a.2 = [] ∨ a.2.length = s.storageSize) : (s.converted a).Shaped := by
  have hlayout := SurfaceView.converted_layout hpoints
  have hstorage : (s.converted a).storageSize = s.storageSize := hlayout.storage.symm
  refine ⟨fun hempty => hs.nonempty (List.length_eq_zero_iff.mp ?_), ?_, ?_, ?_, ?_⟩
  · exact hpoints.symm.trans (List.length_eq_zero_iff.mpr hempty)
  · rw [hstorage]
    exact hs.storage
  · rw [hstorage]
    exact hnormals
  · rw [hstorage]
    exact hs.valid
  · rw [← hlayout.indices]
    exact hs.mask

/-- What two finished walks leave corresponds. -/
theorem Converting.corresponds (hab : Converting s t [] a b) (h : SameInMillimeters D s t)
    (hs : s.Shaped) (ht : t.Shaped) : Corresponds (s.converted a) (t.converted b) := by
  have hsame : (t.converted b).indices = s.indices := by
    rw [← (SurfaceView.converted_layout hab.points_right).indices, (h.layout hs ht).indices]
  have hpaired : ∀ {i j}, Paired (s.converted a).indices (t.converted b).indices i j →
      i = j ∧ i ∈ s.indices := by
    intro i j hij
    rw [hsame, ← (SurfaceView.converted_layout hab.points_left).indices] at hij
    exact ⟨hij.eq, hij.mem_left⟩
  refine ⟨hs.converted hab.points_left hab.normals_left,
    ht.converted hab.points_right hab.normals_right, h.size, congrArg (Option.map _) h.grid, rfl,
    h.frame, hab.hasNormals, fun i j hij => ?_, fun i j hij hv => ?_, fun i j hij hv => ?_⟩
  · obtain ⟨rfl, hi⟩ := hpaired hij
    exact h.mask i hi
  · obtain ⟨rfl, hi⟩ := hpaired hij
    exact (hab.converted i hi (by simp) hv).1
  · obtain ⟨rfl, hi⟩ := hpaired hij
    exact (hab.converted i hi (by simp) hv).2

/-- Both surfaces convert to corresponding ones, or fail alike. -/
theorem normalizeInPlace_converts (h : SameInMillimeters D s t) (hs : s.Shaped) (ht : t.Shaped) :
    Outcome (fun a b => Corresponds a.view b.view ∧ SameLayout s a.view ∧ SameLayout t b.view)
      (normalizeInPlace D s) (normalizeInPlace D t) := by
  have hlayout := h.layout hs ht
  have hnormalized : Outcome (fun a b => Corresponds a.view b.view)
      (normalizeSurface (D := D) s s.frame none) (normalizeSurface (D := D) t s.frame none) := by
    unfold normalizeSurface
    dsimp only
    rw [← h.frame]
    split_ifs
    · exact .error _
    · exact .error _
    · have hstart : Converting s t s.indices (s.points, s.normals) (t.points, t.normals) :=
        ⟨rfl, rfl, hs.normals, ht.normals, h.hasNormals, hs.nodup, fun _ hi => hi,
          fun _ _ => ⟨rfl, rfl⟩, fun _ _ => ⟨rfl, rfl⟩, fun i hi hrest => absurd hi hrest⟩
      rw [← hlayout.indices]
      refine (Outcome.foldlM_rest ?_ hstart).bind fun a b hab => ?_
      · exact fun i rest a b hab => normalizeIndex_converting D h hs ht hab
      have hc := hab.corresponds h hs ht
      exact hc.create .millimeter s.frame rfl rfl hc.left.normals hc.right.normals hc.left.valid
        hc.right.valid hc.left.mask hc.right.mask hc.hasNormals hc.valid hc.points hc.normals
  unfold normalizeInPlace
  rw [← h.frame]
  exact hnormalized.mono_of_eq fun a b ha hb hab =>
    ⟨hab, normalizeSurface_layout ha, normalizeSurface_layout hb⟩

section

variable [LawfulZero F D] {host : Host F D} {scheduler scheduler' : Scheduler}
  {config : ValidatedInspectionConfig D}
  {reference reference' scan scan' : OwnedSurface F}

theorem prepareSurfaces_converts (hr : SameInMillimeters D reference.view reference'.view)
    (hs : SameInMillimeters D scan.view scan'.view) :
    Outcome (fun a b => PreparedFrom D reference.view reference'.view a.1 b.1 ∧
        PreparedFrom D scan.view scan'.view a.2 b.2)
      (prepareSurfaces host scheduler config reference.view scan.view none)
      (prepareSurfaces host scheduler' config reference'.view scan'.view none) := by
  unfold prepareSurfaces
  refine (normalizeInPlace_converts hr reference.shaped reference'.shaped).bind
    fun r r' ⟨hcr, hlr, hlr'⟩ => ?_
  refine (normalizeInPlace_converts hs scan.shaped scan'.shaped).bind
    fun q q' ⟨hcq, hlq, hlq'⟩ => ?_
  refine (prepareSurface_related hcr).bind fun a b hab => ?_
  refine (prepareSurface_related hcq).bind fun a' b' hab' => ?_
  exact .ok ⟨hab.trans hlr hlr', hab'.trans hlq hlq'⟩

theorem runToRegistration_converts (hr : SameInMillimeters D reference.view reference'.view)
    (hs : SameInMillimeters D scan.view scan'.view) (request : InspectionRequest D) :
    Outcome (RunsAlike reference.view reference'.view scan.view scan'.view)
      (runToRegistration host scheduler config reference.view scan.view request)
      (runToRegistration host scheduler' config reference'.view scan'.view request) := by
  unfold runToRegistration
  refine (prepareSurfaces_converts hr hs).bind fun a b ⟨hreference, hscan⟩ => ?_
  have hpose : initialPose request a.1.surface.view a.2.surface.view =
      initialPose request b.1.surface.view b.2.surface.view := by
    unfold initialPose
    rw [hreference.surface.frame, hscan.surface.frame]
  rw [hpose]
  refine (Outcome.eq_iff.mpr rfl).bind ?_
  rintro pose _ rfl
  rw [registerScan_related hreference.surface hscan.surface]
  refine (Outcome.eq_iff.mpr rfl).bind ?_
  rintro registered _ rfl
  exact .ok ⟨hreference, hscan, rfl⟩

/-- The unit that a surface is given in never shows: two runs, each over surfaces in units of their
own, fail with the same error or report the same but for times when the valid samples are the same
points in millimetres. -/
theorem run_unit_independent (hr : SameInMillimeters D reference.view reference'.view)
    (hs : SameInMillimeters D scan.view scan'.view) (host : Host F D)
    (scheduler scheduler' : Scheduler) (clock clock' : Clock) (pipeline : InspectionPipeline D)
    (request : InspectionRequest D) :
    (pipeline.run host scheduler clock reference.view scan.view request).map
        InspectionResult.untimed =
      (pipeline.run host scheduler' clock' reference'.view scan'.view request).map
        InspectionResult.untimed := by
  have hlr := hr.layout reference.shaped reference'.shaped
  have hls := hs.layout scan.shaped scan'.shaped
  unfold InspectionPipeline.run
  rw [runImpl_eq, runImpl_eq]
  exact (runToRegistration_converts hr hs request).bind_map_eq
    fun _ _ _ _ h => h.inspect hlr hls clock clock' request

end

/-- A surface that was given in millimetres, in a unit of so many millimetres. -/
def exactInUnit (surface : SurfaceView (Exact ℚ)) (unit : LengthUnit) (millimeters : ℚ) :
    SurfaceView (Exact ℚ) :=
  let scale : Exact ℚ := .fin millimeters⁻¹
  { surface with
    points := surface.points.map fun point => ⟨point.x * scale, point.y * scale, point.z * scale⟩
    unit := unit }

/-- A scan in metres of a reference in micrometres passes as it does in millimetres. -/
theorem run_unit_independent_plate : ∃ report,
    (InspectionPipeline.mk exactLimits).run exactHost .sequential exactClock
        (exactInUnit (exactGrid 3 3 3 true fun _ _ => 0) .micrometer (1 / 1000))
        (exactInUnit exactRise .meter 1000) exactRequest = .ok report ∧
      report.verdict = .pass := by
  let plate := exactPlate 3 3 3 (by decide +kernel)
  let rise : OwnedSurface (Exact ℚ) := ⟨exactRise, by decide +kernel⟩
  let reference : OwnedSurface (Exact ℚ) :=
    ⟨exactInUnit plate.view .micrometer (1 / 1000), by decide +kernel⟩
  let scan : OwnedSurface (Exact ℚ) := ⟨exactInUnit rise.view .meter 1000, by decide +kernel⟩
  have hreference : SameInMillimeters (Exact ℚ) reference.view plate.view :=
    ⟨rfl, rfl, rfl, by decide +kernel, by decide +kernel, by decide +kernel, by decide +kernel⟩
  have hscan : SameInMillimeters (Exact ℚ) scan.view rise.view :=
    ⟨rfl, rfl, rfl, by decide +kernel, by decide +kernel, by decide +kernel, by decide +kernel⟩
  have hverdict : (((InspectionPipeline.mk exactLimits).run exactHost .sequential exactClock
      plate.view rise.view exactRequest).map InspectionResult.untimed).map
        InspectionResult.verdict = .ok .pass := by decide +kernel
  rw [← run_unit_independent hreference hscan exactHost .sequential .sequential exactClock
    exactClock] at hverdict
  obtain ⟨untimed, huntimed, hpass⟩ := map_ok_iff.mp hverdict
  obtain ⟨report, hreport, rfl⟩ := map_ok_iff.mp huntimed
  exact ⟨report, hreport, hpass⟩

end PointcloudAd
