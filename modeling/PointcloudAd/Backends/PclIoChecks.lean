import PointcloudAd.Backends.PclIo

/-!
# The reads of a decoding

Decoding tests twice whether a cloud has normals: once whether its fields are float scalars, once
whether a field of that name is there. Where the two agree, every read is of a checked field and
lies in the storage. Where they do not, a decoding reads fields it has not checked.
-/

namespace PointcloudAd

open Library

namespace Decoding

variable {α β : Type} {P : FieldRead → Prop} {E : DecodeStop → Prop}

/-- Every read that is added to a log meets `P`, and a run without a result ends with `E`. -/
structure Meets (P : FieldRead → Prop) (E : DecodeStop → Prop) (m : Decoding α) : Prop where
  stop (log : List FieldRead) {stop : DecodeStop}
    (h : (Faulty.outcome m log).1 = .error stop) : E stop
  reads (log : List FieldRead) (h : ∀ read ∈ log, P read) :
    ∀ read ∈ (Faulty.outcome m log).2, P read

theorem Meets.pure (a : α) : Meets P E (pure a : Decoding α) where
  stop _ _ h := by cases h
  reads _ h := h

theorem Meets.throw {stop : DecodeStop} (h : E stop) : Meets P E (throw stop : Decoding α) where
  stop _ _ h' := by
    cases h'
    exact h
  reads _ h' := h'

theorem Meets.ofResult {result : Result α} (h : ∀ e, result = .error e → E (.failed e)) :
    Meets P E (Decoding.ofResult result) where
  stop _ _ h' := by
    cases result with
    | ok a => cases h'
    | error e =>
      cases h'
      exact h e rfl
  reads _ h' := h'

theorem Meets.bind {m : Decoding α} {f : α → Decoding β} (hm : Meets P E m)
    (hf : ∀ a, Meets P E (f a)) : Meets P E (m >>= f) where
  stop log stop h := by
    rw [Faulty.outcome_bind] at h
    rcases hrun : Faulty.outcome m log with ⟨_ | a, log'⟩
    · rw [hrun] at h
      apply hm.stop log
      rw [hrun, Except.error.inj h]
    · rw [hrun] at h
      exact (hf a).stop log' h
  reads log h := by
    have hlog := hm.reads log h
    rw [Faulty.outcome_bind]
    rcases hrun : Faulty.outcome m log with ⟨_ | a, log'⟩
    · rw [hrun] at hlog
      exact hlog
    · rw [hrun] at hlog
      exact (hf a).reads log' hlog

theorem Meets.mapM {f : α → Decoding β} : ∀ {l : List α}, (∀ a ∈ l, Meets P E (f a)) →
    Meets P E (l.mapM f)
  | [], _ => by
    rw [List.mapM_nil]
    exact .pure []
  | a :: l, h => by
    rw [List.mapM_cons]
    exact (h a (by simp)).bind fun b =>
      (Meets.mapM fun a' ha' => h a' (by simp [ha'])).bind fun bs => .pure (b :: bs)

end Decoding

/-- A field is read with its own type and lies in the storage. -/
structure FieldRead.Checked (cloud : PCLPointCloud2) (read : FieldRead) : Prop where
  index : read.index < cloud.width.toNat * cloud.height.toNat
  field : ∃ field ∈ cloud.fields, read.field = some field ∧ field.datatype = read.datatype ∧
    field.count = 1 ∧
    read.index / cloud.width.toNat * cloud.rowStep.toNat +
        read.index % cloud.width.toNat * cloud.pointStep.toNat + field.offset.toNat +
      PCLPointField.typeSize field.datatype ≤ cloud.data.length

/-- Every field lies inside a point, as the loaders of the library leave it. -/
def FieldsInside (cloud : PCLPointCloud2) : Prop :=
  ∀ field ∈ cloud.fields,
    field.offset.toNat + field.count.toNat * PCLPointField.typeSize field.datatype ≤
      cloud.pointStep.toNat

/-- The storage that `validate_fields` accepts. -/
structure StorageFits (cloud : PCLPointCloud2) : Prop where
  width_pos : 0 < cloud.width.toNat
  height_pos : 0 < cloud.height.toNat
  row : minimumRowStep cloud ≤ cloud.rowStep.toNat
  storage : (cloud.height.toNat - 1) * cloud.rowStep.toNat + minimumRowStep cloud ≤
    cloud.data.length
  bounded : (cloud.height.toNat - 1) * cloud.rowStep.toNat + minimumRowStep cloud < 2 ^ 64

theorem storageFits_of_accepted {cloud : PCLPointCloud2}
    (hcount : ¬ (cloud.width.toNat * cloud.height.toNat = 0 ∨ cloud.pointStep = 0 ∨
      cloud.rowStep.toNat < minimumRowStep cloud ∨ cloud.data.length < minimumStorage cloud)) :
    StorageFits cloud := by
  obtain ⟨hcount, hrest⟩ := not_or.mp hcount
  obtain ⟨-, hrest⟩ := not_or.mp hrest
  obtain ⟨hrow, hstorage⟩ := not_or.mp hrest
  have hpos := Nat.pos_iff_ne_zero.mpr hcount
  have hwidth := Nat.pos_of_mul_pos_right hpos
  have hheight := Nat.pos_of_mul_pos_left hpos
  have hrow := Nat.le_of_not_lt hrow
  have hstep := cloud.rowStep.toNat_lt
  have hheight' := cloud.height.toNat_lt
  have hbounded : (cloud.height.toNat - 1) * cloud.rowStep.toNat + minimumRowStep cloud <
      2 ^ 64 := by
    have hle : (cloud.height.toNat - 1) * cloud.rowStep.toNat ≤ (2 ^ 32 - 2) * (2 ^ 32 - 1) :=
      Nat.mul_le_mul (by omega) (by omega)
    omega
  refine ⟨hwidth, hheight, hrow, ?_, hbounded⟩
  unfold minimumStorage at hstorage
  have hne : cloud.height ≠ 0 := by
    intro he
    rw [he] at hheight
    exact absurd hheight (by decide)
  rw [if_neg hne, Nat.mod_eq_of_lt hbounded] at hstorage
  exact Nat.le_of_not_lt hstorage

theorem StorageFits.point_end {cloud : PCLPointCloud2} (h : StorageFits cloud) {index : ℕ}
    (hi : index < cloud.width.toNat * cloud.height.toNat) :
    index / cloud.width.toNat * cloud.rowStep.toNat +
        index % cloud.width.toNat * cloud.pointStep.toNat + cloud.pointStep.toNat ≤
      (cloud.height.toNat - 1) * cloud.rowStep.toNat + minimumRowStep cloud := by
  have hrow : index / cloud.width.toNat ≤ cloud.height.toNat - 1 :=
    Nat.le_sub_one_of_lt (Nat.div_lt_of_lt_mul hi)
  have hcolumn : index % cloud.width.toNat + 1 ≤ cloud.width.toNat := Nat.mod_lt _ h.width_pos
  have hrows := Nat.mul_le_mul_right cloud.rowStep.toNat hrow
  have hcolumns := Nat.mul_le_mul_right cloud.pointStep.toNat hcolumn
  rw [Nat.add_mul, Nat.one_mul] at hcolumns
  unfold minimumRowStep
  omega

section

variable {cloud : PCLPointCloud2} {P : FieldRead → Prop} {E : DecodeStop → Prop} {index : ℕ}

/-- A read ends outside the language only at a null field or outside the storage. -/
theorem readField_meets {field : Option PCLPointField} {datatype : UInt8}
    (hread : P ⟨field, datatype, index⟩)
    (hstop : E .undefined ∨ ∃ f, field = some f ∧
      (storageOffset cloud index + f.offset.toNat) % 2 ^ 64 + PCLPointField.typeSize datatype ≤
        cloud.data.length) :
    Decoding.Meets P E (readField cloud index field datatype) := by
  have hrun (log : List FieldRead) :
      Faulty.outcome (readField cloud index field datatype) log =
        ((match field with
          | none => .error .undefined
          | some f =>
            let offset := (storageOffset cloud index + f.offset.toNat) % 2 ^ 64
            let size := PCLPointField.typeSize datatype
            if offset + size ≤ cloud.data.length then .ok (readAt cloud.data offset size)
            else .error .undefined), log ++ [⟨field, datatype, index⟩]) := by
    unfold readField
    rw [Faulty.outcome_bind]
    cases field with
    | none => rfl
    | some f =>
      dsimp only
      change Faulty.outcome (ite _ _ _) _ = _
      split_ifs <;> rfl
  constructor
  · intro log stop h
    rw [hrun] at h
    rcases hstop with hstop | ⟨f, rfl, hinside⟩
    · cases field with
      | none =>
        cases h
        exact hstop
      | some f =>
        dsimp only at h
        split_ifs at h
        cases h
        exact hstop
    · dsimp only at h
      rw [if_pos hinside] at h
      cases h
  · intro log h read hmem
    rw [hrun] at hmem
    rcases List.mem_append.mp hmem with hmem | hmem
    · exact h read hmem
    · rw [List.mem_singleton.mp hmem]
      exact hread

variable {F : Type} [FloatArith F] [FloatBits F]

omit [FloatArith F] in
theorem readVector_meets {x y z : Option PCLPointField}
    (h : ∀ field ∈ [x, y, z],
      Decoding.Meets P E (readField cloud index field PCLPointField.typeFloat32)) :
    Decoding.Meets P E (readVector (F := F) cloud index x y z) := by
  have hfloat (field : Option PCLPointField) (hfield : field ∈ [x, y, z]) :
      Decoding.Meets P E (readFloat (F := F) cloud index field) :=
    (h field hfield).bind fun bytes => .pure _
  unfold readVector
  refine (hfloat x (by simp)).bind fun _ => (hfloat y (by simp)).bind fun _ =>
    (hfloat z (by simp)).bind fun _ => .pure _

/-- A point reads its coordinates, its normal where the cloud has a field `normal_x`, and its mask
where there is one. -/
theorem decodePoint_meets {path format : String}
    (hpoint : ∀ name ∈ coordinateNames,
      Decoding.Meets P E (readField cloud index (findField cloud name) PCLPointField.typeFloat32))
    (hnormal : (findField cloud "normal_x").isSome → ∀ name ∈ normalNames,
      Decoding.Meets P E (readField cloud index (findField cloud name) PCLPointField.typeFloat32))
    (hmask : (findField cloud "valid").isSome →
      Decoding.Meets P E (readField cloud index (findField cloud "valid") PCLPointField.typeUint8))
    (hfailed : ∀ message, E (.failed (ioError .invalidInput message path))) :
    Decoding.Meets P E (decodePoint (F := F) cloud path format index) := by
  have hcheck (mask : UInt8) (finite : Bool) (e : Error)
      (he : checkMask path format mask finite = .error e) : E (.failed e) := by
    unfold checkMask at he
    split_ifs at he <;> cases he <;> exact hfailed _
  unfold decodePoint
  refine (readVector_meets fun field hfield => ?_).bind fun point => ?_
  · obtain ⟨name, hname, rfl⟩ : ∃ name ∈ coordinateNames, findField cloud name = field := by
      simpa [coordinateNames, eq_comm] using hfield
    exact hpoint name hname
  · refine Decoding.Meets.bind ?_ fun normal => ?_
    · unfold decodeNormal
      split_ifs with hsome
      · rw [map_eq_pure_bind]
        refine (readVector_meets fun field hfield => ?_).bind fun normal => .pure _
        obtain ⟨name, hname, rfl⟩ : ∃ name ∈ normalNames, findField cloud name = field := by
          simpa [normalNames, eq_comm] using hfield
        exact hnormal hsome name hname
      · exact .pure none
    · refine Decoding.Meets.bind ?_ fun mask => .pure _
      unfold decodeMask
      split_ifs with hsome
      · refine ((hmask hsome).bind fun bytes => .pure _).bind fun mask => ?_
        exact (Decoding.Meets.ofResult fun e he => hcheck mask _ e he).bind fun _ => .pure _
      · exact .pure _
      · exact .pure _

theorem decodeCloud_meets {unit : LengthUnit} {frame : FrameId} {path format : String}
    (hchecks : ∀ e, validateFields cloud path format = .error e → E (.failed e))
    (hpoints : ∀ count, validateFields cloud path format = .ok count → ∀ index < count,
      Decoding.Meets P E (decodePoint (F := F) cloud path format index))
    (hsurface : ∀ e (decoded : List (DecodedPoint F)),
      decodedSurface cloud unit frame decoded = .error e → E (.failed e)) :
    Decoding.Meets P E (decodeCloud (F := F) cloud unit frame path format) := by
  unfold decodeCloud
  cases hvalidate : validateFields cloud path format with
  | error e =>
    constructor
    · intro log stop h
      cases h
      exact hchecks e hvalidate
    · exact fun log h => h
  | ok count =>
    have hall : Decoding.Meets P E
        ((List.range count).mapM (decodePoint (F := F) cloud path format)) :=
      .mapM fun index hindex => hpoints count hvalidate index (List.mem_range.mp hindex)
    change Decoding.Meets P E (_ >>= fun decoded => _)
    exact hall.bind fun decoded => .ofResult fun e he => hsurface e decoded he

end

/-- A cloud has no normals, or three fields of float scalars. -/
def NormalsProper (cloud : PCLPointCloud2) : Prop :=
  (∀ name ∈ normalNames, findField cloud name = none) ∨
    ∀ name ∈ normalNames, isFloatScalar (findField cloud name) = true

/-- Fields named as normals that both tests pass over: none of them is a float scalar, and nothing
else is wrong with the fields. -/
def UncheckedNormals (cloud : PCLPointCloud2) : Prop :=
  (∀ name ∈ coordinateNames, isFloatScalar (findField cloud name) = true) ∧
    maskAccepted cloud = true ∧
    (∀ name ∈ normalNames, isFloatScalar (findField cloud name) = false) ∧
    ∃ name ∈ normalNames, (findField cloud name).isSome = true

instance (cloud : PCLPointCloud2) : Decidable (UncheckedNormals cloud) :=
  inferInstanceAs (Decidable
    ((∀ name ∈ coordinateNames, isFloatScalar (findField cloud name) = true) ∧
    maskAccepted cloud = true ∧
    (∀ name ∈ normalNames, isFloatScalar (findField cloud name) = false) ∧
    ∃ name ∈ normalNames, (findField cloud name).isSome = true))

instance (cloud : PCLPointCloud2) : Decidable (NormalsProper cloud) :=
  inferInstanceAs (Decidable ((∀ name ∈ normalNames, findField cloud name = none) ∨
    ∀ name ∈ normalNames, isFloatScalar (findField cloud name) = true))

instance (cloud : PCLPointCloud2) : Decidable (FieldsInside cloud) :=
  inferInstanceAs (Decidable (∀ field ∈ cloud.fields,
    field.offset.toNat + field.count.toNat * PCLPointField.typeSize field.datatype ≤
      cloud.pointStep.toNat))

theorem validateFields_ok {cloud : PCLPointCloud2} {path format : String} {count : ℕ}
    (h : validateFields cloud path format = .ok count) :
    (∀ name ∈ coordinateNames, isFloatScalar (findField cloud name) = true) ∧
      maskAccepted cloud = true ∧
      ((∀ name ∈ normalNames, isFloatScalar (findField cloud name) = false) ∨
        ∀ name ∈ normalNames, isFloatScalar (findField cloud name) = true) ∧
      StorageFits cloud ∧ count = cloud.width.toNat * cloud.height.toNat := by
  simp only [validateFields] at h
  split_ifs at h with hcoordinates hnormals hmask hcount
  cases h
  refine ⟨by simpa using hcoordinates, by simpa using hmask, ?_,
    storageFits_of_accepted hcount, rfl⟩
  rw [not_and, not_not] at hnormals
  by_cases hany : (List.map (fun name => isFloatScalar (findField cloud name)) normalNames).any id
  · exact .inr (by simpa using hnormals hany)
  · exact .inl (by simpa using hany)

/-- Where the checks name an unsupported format, or pass normals that are proper. -/
theorem validateFields_normals {cloud : PCLPointCloud2} (path format : String)
    (h : ¬ UncheckedNormals cloud) (hnormals : ¬ NormalsProper cloud) :
    ∃ e, validateFields cloud path format = .error e ∧ e.code = .unsupportedFormat := by
  obtain ⟨hnone, hall⟩ := not_or.mp hnormals
  unfold validateFields
  dsimp only
  by_cases hcoordinates :
      ((coordinateNames.map fun name => isFloatScalar (findField cloud name)).all id) = true
  · rw [if_neg (not_not.mpr hcoordinates)]
    by_cases hany :
        ((normalNames.map fun name => isFloatScalar (findField cloud name)).any id) = true
    · have htriple :
          ¬ ((normalNames.map fun name => isFloatScalar (findField cloud name)).all id) = true := by
        intro h
        exact hall (by simpa using h)
      rw [if_pos ⟨hany, htriple⟩]
      exact ⟨_, rfl, rfl⟩
    · rw [if_neg fun h => hany h.1]
      have hmask : ¬ maskAccepted cloud = true := by
        intro hmask
        refine h ⟨by simpa using hcoordinates, hmask, by simpa using hany, ?_⟩
        by_contra hsome
        exact hnone (by simpa using hsome)
      rw [if_pos hmask]
      exact ⟨_, rfl, rfl⟩
  · rw [if_pos hcoordinates]
    exact ⟨_, rfl, rfl⟩

/-- What the decoding of a cloud must not do: read what it has not checked, or accept normals that
are partial or of another type. -/
def DecodesChecked (F : Type) [FloatArith F] [FloatBits F] (cloud : PCLPointCloud2)
    (unit : LengthUnit) (frame : FrameId) (path format : String) : Prop :=
  let run := Faulty.outcome (decodeCloud (F := F) cloud unit frame path format) []
  ((∃ e, run.1 = .error (.failed e)) ∨ ∀ read ∈ run.2, read.Checked cloud) ∧
    (¬ NormalsProper cloud → ∃ e, run.1 = .error (.failed e) ∧ e.code = .unsupportedFormat)

section

variable {F : Type} [FloatArith F] [FloatBits F] {cloud : PCLPointCloud2}

theorem decodeCloud_of_error {unit : LengthUnit} {frame : FrameId} {path format : String}
    {e : Error} (h : validateFields cloud path format = .error e) :
    (Faulty.outcome (decodeCloud (F := F) cloud unit frame path format) []).1 =
      .error (.failed e) := by
  unfold decodeCloud
  rw [h]
  rfl

theorem readField_checked (hinside : FieldsInside cloud) (hstorage : StorageFits cloud)
    {field : PCLPointField} {datatype : UInt8} {index : ℕ}
    (hindex : index < cloud.width.toNat * cloud.height.toNat) (hmem : field ∈ cloud.fields)
    (htype : field.datatype = datatype) (hcount : field.count = 1) :
    Decoding.Meets (FieldRead.Checked cloud) (· ≠ .undefined)
      (readField cloud index (some field) datatype) := by
  have hfield := hinside field hmem
  rw [hcount] at hfield
  have hend := hstorage.point_end hindex
  have hbounded := hstorage.bounded
  have hdata := hstorage.storage
  have hone : (1 : UInt32).toNat = 1 := rfl
  rw [hone, Nat.one_mul] at hfield
  apply readField_meets
  · refine ⟨hindex, field, hmem, rfl, htype, hcount, ?_⟩
    dsimp only
    omega
  · refine .inr ⟨field, rfl, ?_⟩
    unfold storageOffset
    rw [← htype]
    dsimp only
    rw [Nat.mod_eq_of_lt (b := 2 ^ 64) (a := _ + index % cloud.width.toNat * _) (by omega),
      Nat.mod_eq_of_lt (by omega)]
    omega

theorem decodeCloud_reads (hinside : FieldsInside cloud) (h : ¬ UncheckedNormals cloud)
    {unit : LengthUnit} {frame : FrameId} {path format : String} {count : ℕ}
    (hvalidate : validateFields cloud path format = .ok count) :
    Decoding.Meets (FieldRead.Checked cloud) (· ≠ .undefined)
      (decodeCloud (F := F) cloud unit frame path format) := by
  obtain ⟨hcoordinates, hmask, -, hstorage, hcount⟩ := validateFields_ok hvalidate
  have hproper : NormalsProper cloud := by
    by_contra hn
    obtain ⟨e, he, -⟩ := validateFields_normals path format h hn
    cases hvalidate.symm.trans he
  have hfloat {name : String} (hname : isFloatScalar (findField cloud name) = true) {index : ℕ}
      (hindex : index < count) : Decoding.Meets (FieldRead.Checked cloud) (· ≠ .undefined)
        (readField cloud index (findField cloud name) PCLPointField.typeFloat32) := by
    cases hfield : findField cloud name with
    | none =>
      rw [hfield] at hname
      cases hname
    | some field =>
      rw [hfield] at hname
      have hname : field.count = 1 ∧ field.datatype = PCLPointField.typeFloat32 := by
        simpa [isFloatScalar] using hname
      exact readField_checked hinside hstorage (hcount ▸ hindex) (List.mem_of_find?_eq_some hfield)
        hname.2 hname.1
  apply decodeCloud_meets
  · intro e he
    cases hvalidate.symm.trans he
  · intro n hn index hindex
    cases hvalidate.symm.trans hn
    apply decodePoint_meets
    · exact fun name hname => hfloat (hcoordinates name hname) hindex
    · intro hsome name hname
      rcases hproper with hnone | hall
      · rw [hnone "normal_x" (by simp [normalNames])] at hsome
        cases hsome
      · exact hfloat (hall name hname) hindex
    · intro hsome
      obtain ⟨field, hfield⟩ := Option.isSome_iff_exists.mp hsome
      have hvalid : field.count = 1 ∧ field.datatype = PCLPointField.typeUint8 := by
        unfold maskAccepted at hmask
        rw [hfield] at hmask
        simpa using hmask
      rw [hfield]
      exact readField_checked hinside hstorage (hcount ▸ hindex) (List.mem_of_find?_eq_some hfield)
        hvalid.2 hvalid.1
    · exact fun message h => by cases h
  · exact fun e decoded _ h => by cases h

/-- Where normals are passed over, no error names an unsupported format. -/
theorem decodeCloud_not_unsupported (h : UncheckedNormals cloud) {unit : LengthUnit}
    {frame : FrameId} {path format : String} :
    Decoding.Meets (fun _ => True) (fun stop => ∀ e, stop = .failed e → e.code = .invalidInput)
      (decodeCloud (F := F) cloud unit frame path format) := by
  obtain ⟨hcoordinates, hmask, hnormals, -⟩ := h
  have hread (index : ℕ) (field : Option PCLPointField) (datatype : UInt8) :
      Decoding.Meets (fun _ => True) (fun stop => ∀ e, stop = .failed e → e.code = .invalidInput)
        (readField cloud index field datatype) :=
    readField_meets trivial (.inl fun e he => by cases he)
  apply decodeCloud_meets
  · intro e he e' he'
    cases he'
    have hany : ¬ (((normalNames.map fun name => isFloatScalar (findField cloud name)).any id) ∧
        ¬ ((normalNames.map fun name => isFloatScalar (findField cloud name)).all id)) := by
      rintro ⟨hany, -⟩
      obtain ⟨name, hname, hfloat⟩ :
          ∃ name ∈ normalNames, isFloatScalar (findField cloud name) = true := by
        simpa using hany
      cases (hnormals name hname).symm.trans hfloat
    simp only [validateFields] at he
    rw [if_neg (by simpa using hcoordinates), if_neg hany, if_neg (not_not.mpr hmask)] at he
    split_ifs at he
    cases he
    rfl
  · intro count _ index _
    apply decodePoint_meets
    · exact fun name _ => hread index _ _
    · exact fun _ name _ => hread index _ _
    · exact fun _ => hread index _ _
    · intro message e he
      cases he
      rfl
  · intro e decoded he e' he'
    cases he'
    unfold decodedSurface at he
    cases hsurface : validateSurfaceData (decoded.map DecodedPoint.point)
        (decoded.filterMap DecodedPoint.normal)
        (if (findField cloud "valid").isSome ∨ ∃ d ∈ decoded, ¬ d.finite then
          decoded.map DecodedPoint.mask else [])
        (if 1 < cloud.height then some ⟨cloud.width, cloud.height, cloud.width⟩ else none) with
    | error e'' =>
      have herror := (OwnedSurface.create_error hsurface).symm.trans he
      cases herror
      exact validateSurfaceData_error hsurface
    | ok n => cases (OwnedSurface.create_ok hsurface).symm.trans he

/-- A cloud is decoded from checked fields, and its normals are complete float triples or refused,
exactly when no normals are passed over. -/
theorem decode_checked_iff (hinside : FieldsInside cloud) (unit : LengthUnit) (frame : FrameId)
    (path format : String) :
    DecodesChecked F cloud unit frame path format ↔ ¬ UncheckedNormals cloud := by
  constructor
  · rintro ⟨-, hreject⟩ hunchecked
    have hproper : ¬ NormalsProper cloud := by
      obtain ⟨-, -, hnone, name, hname, hsome⟩ := hunchecked
      rintro (hempty | hall)
      · rw [hempty name hname] at hsome
        cases hsome
      · cases (hnone name hname).symm.trans (hall name hname)
    obtain ⟨e, he, hcode⟩ := hreject hproper
    have hinvalid := (decodeCloud_not_unsupported hunchecked).stop [] he e rfl
    cases hcode.symm.trans hinvalid
  · intro h
    constructor
    · cases hvalidate : validateFields cloud path format with
      | error e => exact .inl ⟨e, decodeCloud_of_error hvalidate⟩
      | ok count =>
        exact .inr ((decodeCloud_reads hinside h hvalidate).reads [] (by simp))
    · intro hproper
      obtain ⟨e, he, hcode⟩ := validateFields_normals path format h hproper
      exact ⟨e, decodeCloud_of_error he, hcode⟩

end

def fixtureFrame : FrameId :=
  ⟨"fixture".toUTF8.toList, by decide +kernel, by decide +kernel⟩

def pointFields : List PCLPointField :=
  [⟨"x", 0, PCLPointField.typeFloat32, 1⟩, ⟨"y", 4, PCLPointField.typeFloat32, 1⟩,
    ⟨"z", 8, PCLPointField.typeFloat32, 1⟩]

def orientedFields : List PCLPointField :=
  pointFields ++ [⟨"normal_x", 12, PCLPointField.typeFloat32, 1⟩,
    ⟨"normal_y", 16, PCLPointField.typeFloat32, 1⟩, ⟨"normal_z", 20, PCLPointField.typeFloat32, 1⟩,
    ⟨"valid", 24, PCLPointField.typeUint8, 1⟩]

/-- A point at `(x, 0, 0)` with an upward normal, its mask and three bytes of padding. -/
def orientedPoint (x : List UInt8) (mask : UInt8) : List UInt8 :=
  x ++ List.replicate 16 0 ++ [0, 0, 128, 63] ++ [mask, 7, 7, 7]

/-- Two rows of two points, four bytes after each row; the third point is not a number, and
masked out. -/
def orientedCloud : PCLPointCloud2 where
  height := 2
  width := 2
  fields := orientedFields
  pointStep := 28
  rowStep := 60
  data :=
    orientedPoint [0, 0, 0, 0] 1 ++ orientedPoint [0, 0, 128, 63] 1 ++ [7, 7, 7, 7] ++
      orientedPoint [0, 0, 192, 127] 0 ++ orientedPoint [0, 0, 0, 64] 1 ++ [7, 7, 7, 7]
  isDense := false

theorem decode_checked_oriented :
    DecodesChecked Binary32 orientedCloud .millimeter fixtureFrame "scan.pcd" "PCD" ∧
      ∃ surface, (Faulty.outcome
        (decodeCloud (F := Binary32) orientedCloud .millimeter fixtureFrame "scan.pcd" "PCD") []).1 =
          .ok surface ∧ surface.valid = [1, 1, 0, 1] ∧ surface.normals.length = 4 ∧
            surface.grid = some ⟨2, 2, 2⟩ := by
  constructor
  · exact (decode_checked_iff (by decide) .millimeter fixtureFrame "scan.pcd" "PCD").mpr (by decide)
  · exact exists_ok_and (by decide +kernel)
def onePoint (fields : List PCLPointField) (pointStep : UInt32) : PCLPointCloud2 :=
  { height := 1, width := 1, fields, pointStep, rowStep := pointStep
    data := List.replicate pointStep.toNat 0, isDense := true }

/-- A cloud with one normal field, of doubles. -/
def doubleNormalCloud : PCLPointCloud2 :=
  onePoint (pointFields ++ [⟨"normal_x", 12, 8, 1⟩]) 20

/-- The double is read as a float, and then a field that is not there. -/
theorem doubleNormal_unchecked : FieldsInside doubleNormalCloud ∧
    ¬ DecodesChecked Binary32 doubleNormalCloud .millimeter fixtureFrame "scan.pcd" "PCD" := by
  refine ⟨by decide, ?_⟩
  rintro ⟨-, hreject⟩
  obtain ⟨e, he, -⟩ := hreject (by decide)
  have hrun : (Faulty.outcome
    (decodeCloud (F := Binary32) doubleNormalCloud .millimeter fixtureFrame
      "scan.pcd" "PCD") []).1 = .error .undefined := rfl
  cases hrun.symm.trans he

end PointcloudAd
