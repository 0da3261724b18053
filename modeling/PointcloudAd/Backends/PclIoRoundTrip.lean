import PointcloudAd.Backends.PclIoChecks

/-!
# Storing a surface

A surface is stored point by point in logical order, its padding left out, with its mask always
there. A cloud of one row is taken for an unorganized one.
-/

namespace PointcloudAd

open Library

def floatField (name : String) (offset : UInt32) : PCLPointField :=
  ⟨name, offset, PCLPointField.typeFloat32, 1⟩

def byteField (name : String) (offset : UInt32) : PCLPointField :=
  ⟨name, offset, PCLPointField.typeUint8, 1⟩

def encodedFields (hasNormals : Bool) : List PCLPointField :=
  [floatField "x" 0, floatField "y" 4, floatField "z" 8] ++
    if hasNormals then
      [floatField "normal_x" 12, floatField "normal_y" 16, floatField "normal_z" 20,
        byteField "valid" 24]
    else [byteField "valid" 12]

def encodedPointStep (hasNormals : Bool) : UInt32 := if hasNormals then 25 else 13

section

variable {F : Type} [FloatBits F]

/-- The cloud that the points are written to: its data is zero. -/
def emptyCloud (surface : SurfaceView F) : PCLPointCloud2 :=
  let hasNormals := !surface.normals.isEmpty
  let pointStep := encodedPointStep hasNormals
  let width := surface.grid.elim (UInt32.ofNat surface.size) GridTopology.width
  { height := surface.grid.elim 1 GridTopology.height
    width
    fields := encodedFields hasNormals
    pointStep
    rowStep := pointStep * width
    data := List.replicate (surface.size * pointStep.toNat % 2 ^ 64) 0
    isDense := true }

/-- A write of a sample's field; it writes nothing through a null pointer. -/
def writeField (cloud : PCLPointCloud2) (logicalIndex : ℕ) (name : String) (bytes : List UInt8) :
    List ByteWrite :=
  match findField cloud name with
  | none => []
  | some field => [⟨(storageOffset cloud logicalIndex + field.offset.toNat) % 2 ^ 64, bytes⟩]

def floatBytes (v : F) : List UInt8 := wordBytes (FloatBits.bits v)

def encodedMask (surface : SurfaceView F) (index : ℕ) : UInt8 :=
  if surface.valid = [] then 1 else surface.valid.getD index 0

end

section

variable {F : Type} [FloatArith F] [FloatBits F]

/-- The writes of the sample at a storage index. -/
def encodePoint (cloud : PCLPointCloud2) (surface : SurfaceView F) (logicalIndex index : ℕ) :
    List ByteWrite :=
  let point := surface.points.getD index default
  let normal := surface.normals.getD index default
  writeField cloud logicalIndex "x" (floatBytes point.x) ++
    writeField cloud logicalIndex "y" (floatBytes point.y) ++
    writeField cloud logicalIndex "z" (floatBytes point.z) ++
    writeField cloud logicalIndex "valid" [encodedMask surface index] ++
    if surface.normals.isEmpty then []
    else
      writeField cloud logicalIndex "normal_x" (floatBytes normal.x) ++
        writeField cloud logicalIndex "normal_y" (floatBytes normal.y) ++
        writeField cloud logicalIndex "normal_z" (floatBytes normal.z)

def encodeWrites (surface : SurfaceView F) : List ByteWrite :=
  surface.indices.zipIdx.flatMap fun (index, logicalIndex) =>
    encodePoint (emptyCloud surface) surface logicalIndex index

def encodeCloud (surface : SurfaceView F) : PCLPointCloud2 :=
  { emptyCloud surface with
    data := applyWrites (encodeWrites surface) (emptyCloud surface).data
    isDense := surface.indices.all fun index => encodedMask surface index = 1 }

end

namespace SurfaceView

variable {F : Type}

def hasNormals (surface : SurfaceView F) : Bool := !surface.normals.isEmpty

/-- The bytes of a point. -/
def pointStep (surface : SurfaceView F) : ℕ := (encodedPointStep surface.hasNormals).toNat

theorem pointStep_le (surface : SurfaceView F) : surface.pointStep ≤ 25 := by
  unfold pointStep encodedPointStep
  split_ifs <;> decide

/-- A size for which no header value wraps. -/
def Encodable (surface : SurfaceView F) : Prop := surface.size ≤ (2 ^ 32 - 1) / 25

instance (surface : SurfaceView F) : Decidable surface.Encodable :=
  inferInstanceAs (Decidable (surface.size ≤ (2 ^ 32 - 1) / 25))

end SurfaceView

section

variable {F : Type} {surface : SurfaceView F}

theorem emptyCloud_count (h : surface.Shaped) (hsize : surface.Encodable) :
    (emptyCloud surface).width.toNat * (emptyCloud surface).height.toNat = surface.size := by
  unfold SurfaceView.Encodable at hsize
  unfold emptyCloud
  cases hgrid : surface.grid with
  | none =>
    change (UInt32.ofNat surface.size).toNat * 1 = surface.size
    rw [UInt32.toNat_ofNat', Nat.mul_one, Nat.mod_eq_of_lt (by omega)]
  | some grid => exact (h.gridFits hgrid).2.symm

theorem emptyCloud_row (h : surface.Shaped) (hsize : surface.Encodable) :
    (emptyCloud surface).rowStep.toNat = surface.pointStep * (emptyCloud surface).width.toNat := by
  have hcount := emptyCloud_count h hsize
  have hstep := surface.pointStep_le
  have hpos := Nat.pos_of_mul_pos_left (hcount ▸ Nat.pos_iff_ne_zero.mpr h.size_ne_zero)
  have hle : (emptyCloud surface).width.toNat ≤ surface.size := by
    rw [← hcount]
    exact Nat.le_mul_of_pos_right _ hpos
  unfold SurfaceView.Encodable at hsize
  have hprod : surface.pointStep * (emptyCloud surface).width.toNat ≤ 25 * ((2 ^ 32 - 1) / 25) :=
    Nat.mul_le_mul hstep (by omega)
  change (encodedPointStep surface.hasNormals * (emptyCloud surface).width).toNat = _
  rw [UInt32.toNat_mul]
  exact Nat.mod_eq_of_lt (by unfold SurfaceView.pointStep at hprod; omega)

theorem emptyCloud_data (hsize : surface.Encodable) :
    (emptyCloud surface).data.length = surface.size * surface.pointStep := by
  have hstep := surface.pointStep_le
  unfold SurfaceView.Encodable at hsize
  have hprod := Nat.mul_le_mul hsize hstep
  change (List.replicate (surface.size * surface.pointStep % 2 ^ 64) 0).length = _
  rw [List.length_replicate, Nat.mod_eq_of_lt (by omega)]

theorem emptyCloud_offset (h : surface.Shaped) (hsize : surface.Encodable) {k : ℕ}
    (hk : k < surface.size) {offset : ℕ} (hoffset : offset < surface.pointStep) :
    (storageOffset (emptyCloud surface) k + offset) % 2 ^ 64 = k * surface.pointStep + offset := by
  have hstep := surface.pointStep_le
  have hrow := emptyCloud_row h hsize
  unfold SurfaceView.Encodable at hsize
  have hprod := Nat.mul_le_mul (show k ≤ (2 ^ 32 - 1) / 25 by omega) hstep
  have hsum : k / (emptyCloud surface).width.toNat * (emptyCloud surface).rowStep.toNat +
      k % (emptyCloud surface).width.toNat * surface.pointStep = k * surface.pointStep := by
    have hk := Nat.div_add_mod k (emptyCloud surface).width.toNat
    rw [hrow]
    calc _ = ((emptyCloud surface).width.toNat * (k / (emptyCloud surface).width.toNat) +
          k % (emptyCloud surface).width.toNat) * surface.pointStep := by ring
      _ = k * surface.pointStep := by rw [hk]
  unfold storageOffset
  change ((_ + k % (emptyCloud surface).width.toNat * surface.pointStep) % 2 ^ 64 + _) % 2 ^ 64 = _
  rw [hsum, Nat.mod_eq_of_lt (b := 2 ^ 64) (a := k * surface.pointStep) (by omega),
    Nat.mod_eq_of_lt (by omega)]

/-- The offset of a field of a stored point. -/
def fieldOffset (hasNormals : Bool) (name : String) : ℕ :=
  ((encodedFields hasNormals).find? fun field => field.name = name).elim 0 fun field =>
    field.offset.toNat

def storedNames (hasNormals : Bool) : List String :=
  coordinateNames ++ ["valid"] ++ if hasNormals then normalNames else []

theorem storedNames_found (hasNormals : Bool) : ∀ name ∈ storedNames hasNormals,
    ((encodedFields hasNormals).find? fun field => field.name = name).isSome = true ∧
      fieldOffset hasNormals name < (encodedPointStep hasNormals).toNat := by
  revert hasNormals
  decide

theorem writeField_eq (h : surface.Shaped) (hsize : surface.Encodable) {k : ℕ}
    (hk : k < surface.size) {name : String} (hname : name ∈ storedNames surface.hasNormals)
    (bytes : List UInt8) :
    writeField (emptyCloud surface) k name bytes =
      [⟨k * surface.pointStep + fieldOffset surface.hasNormals name, bytes⟩] := by
  obtain ⟨hsome, hlt⟩ := storedNames_found _ name hname
  obtain ⟨field, hfield⟩ := Option.isSome_iff_exists.mp hsome
  have hoffset : fieldOffset surface.hasNormals name = field.offset.toNat := by
    unfold fieldOffset
    rw [hfield]
    rfl
  have hfind : findField (emptyCloud surface) name = some field := hfield
  unfold writeField
  rw [hfind]
  dsimp only
  rw [← hoffset, emptyCloud_offset h hsize hk hlt]

variable [FloatArith F] [FloatBits F]

/-- The values of a sample as they are stored: names, and their bytes. -/
def storedFields (surface : SurfaceView F) (index : ℕ) : List (String × List UInt8) :=
  let point := surface.points.getD index default
  let normal := surface.normals.getD index default
  [("x", floatBytes point.x), ("y", floatBytes point.y), ("z", floatBytes point.z),
      ("valid", [encodedMask surface index])] ++
    if surface.hasNormals then
      [("normal_x", floatBytes normal.x), ("normal_y", floatBytes normal.y),
        ("normal_z", floatBytes normal.z)]
    else []

/-- The write of a stored value. -/
def storedWrite (surface : SurfaceView F) (k : ℕ) (field : String × List UInt8) : ByteWrite :=
  ⟨k * surface.pointStep + fieldOffset surface.hasNormals field.1, field.2⟩

theorem encodePoint_eq (h : surface.Shaped) (hsize : surface.Encodable) {k : ℕ}
    (hk : k < surface.size) (index : ℕ) :
    encodePoint (emptyCloud surface) surface k index =
      (storedFields surface index).map (storedWrite surface k) := by
  have hwrite {name : String} (hname : name ∈ storedNames surface.hasNormals)
      (bytes : List UInt8) : writeField (emptyCloud surface) k name bytes =
        [storedWrite surface k (name, bytes)] := writeField_eq h hsize hk hname bytes
  unfold encodePoint storedFields
  cases hnormals : surface.normals.isEmpty with
  | true =>
    have hb : surface.hasNormals = false := by simp [SurfaceView.hasNormals, hnormals]
    rw [hb] at hwrite
    simp [hb, hwrite, storedNames, coordinateNames]
  | false =>
    have hb : surface.hasNormals = true := by simp [SurfaceView.hasNormals, hnormals]
    rw [hb] at hwrite
    simp [hb, hwrite, storedNames, coordinateNames, normalNames]

theorem storedFields_apart (surface : SurfaceView F) (k index : ℕ) :
    ((storedFields surface index).map (storedWrite surface k)).Pairwise ByteWrite.Apart ∧
      ∀ write ∈ (storedFields surface index).map (storedWrite surface k),
        k * surface.pointStep ≤ write.offset ∧ write.stop ≤ (k + 1) * surface.pointStep := by
  have hfloat (v : F) : (floatBytes v).length = 4 := length_wordBytes _
  unfold storedFields storedWrite SurfaceView.pointStep
  cases surface.hasNormals with
  | true =>
    simp [ByteWrite.Apart, ByteWrite.stop, hfloat, fieldOffset, encodedFields, encodedPointStep,
      floatField, byteField]
    omega
  | false =>
    simp [ByteWrite.Apart, ByteWrite.stop, hfloat, fieldOffset, encodedFields, encodedPointStep,
      floatField, byteField]
    omega

theorem encodeWrites_eq (h : surface.Shaped) (hsize : surface.Encodable) :
    encodeWrites surface = surface.indices.zipIdx.flatMap fun (index, k) =>
      (storedFields surface index).map (storedWrite surface k) := by
  apply List.flatMap_congr
  rintro ⟨index, k⟩ hk
  apply encodePoint_eq h hsize
  have hk := List.snd_lt_of_mem_zipIdx hk
  rw [h.length_indices, Nat.add_zero] at hk
  exact hk

theorem encodeWrites_apart (h : surface.Shaped) (hsize : surface.Encodable) :
    (encodeWrites surface).Pairwise ByteWrite.Apart := by
  rw [encodeWrites_eq h hsize, List.pairwise_flatMap]
  constructor
  · exact fun ⟨index, k⟩ _ => (storedFields_apart surface k index).1
  · have horder : surface.indices.zipIdx.Pairwise fun a b => a.2 < b.2 := by
      rw [← List.pairwise_map, List.zipIdx_map_snd]
      exact List.pairwise_lt_range'
    refine horder.imp fun {a b} hlt x hx y hy => .inl ?_
    have hx := ((storedFields_apart surface a.2 a.1).2 x hx).2
    have hy := ((storedFields_apart surface b.2 b.1).2 y hy).1
    exact hx.trans ((Nat.mul_le_mul_right surface.pointStep hlt).trans hy)

theorem encodeWrites_inside (h : surface.Shaped) (hsize : surface.Encodable) :
    ∀ write ∈ encodeWrites surface, write.stop ≤ (emptyCloud surface).data.length := by
  intro write hwrite
  rw [encodeWrites_eq h hsize, List.mem_flatMap] at hwrite
  obtain ⟨⟨index, k⟩, hk, hwrite⟩ := hwrite
  have hk := List.snd_lt_of_mem_zipIdx hk
  rw [h.length_indices, Nat.add_zero] at hk
  have hstop := ((storedFields_apart surface k index).2 write hwrite).2
  have hle := Nat.mul_le_mul_right surface.pointStep hk
  rw [emptyCloud_data hsize]
  exact hstop.trans hle

theorem readAt_encodeCloud (h : surface.Shaped) (hsize : surface.Encodable) {k index : ℕ}
    (hk : surface.indices[k]? = some index) {name : String} {bytes : List UInt8}
    (hfield : (name, bytes) ∈ storedFields surface index) :
    k * surface.pointStep + fieldOffset surface.hasNormals name + bytes.length ≤
        (encodeCloud surface).data.length ∧
      readAt (encodeCloud surface).data
        (k * surface.pointStep + fieldOffset surface.hasNormals name) bytes.length = bytes := by
  have hmem : storedWrite surface k (name, bytes) ∈ encodeWrites surface := by
    rw [encodeWrites_eq h hsize, List.mem_flatMap]
    exact ⟨(index, k), List.mk_mem_zipIdx_iff_getElem?.mpr hk, List.mem_map_of_mem hfield⟩
  have hinside := encodeWrites_inside h hsize
  constructor
  · change _ ≤ (applyWrites _ _).length
    rw [length_applyWrites hinside]
    exact hinside _ hmem
  · exact readAt_applyWrites hinside (encodeWrites_apart h hsize) hmem

theorem Decoding.ofResult_returns {α : Type} {result : Result α} {a : α} (h : result = .ok a) :
    Faulty.Returns (Decoding.ofResult result) a := by
  rw [h]
  exact fun log => ⟨log, rfl⟩

omit [FloatArith F] in
theorem readVector_returns {cloud : PCLPointCloud2} {k : ℕ} {x y z : Option PCLPointField}
    {v : Vec3 F} (hx : (readFloat cloud k x).Returns v.x) (hy : (readFloat cloud k y).Returns v.y)
    (hz : (readFloat cloud k z).Returns v.z) : (readVector cloud k x y z).Returns v :=
  hx.bind (hy.bind (hz.bind (.pure v)))

theorem storedFields_names (surface : SurfaceView F) (index : ℕ) :
    (storedFields surface index).map Prod.fst =
      coordinateNames ++ ["valid"] ++ if surface.hasNormals then normalNames else [] := by
  unfold storedFields
  cases surface.hasNormals <;> rfl

theorem readField_encodeCloud (h : surface.Shaped) (hsize : surface.Encodable) {k index : ℕ}
    (hk : surface.indices[k]? = some index) {name : String} {bytes : List UInt8}
    (hfield : (name, bytes) ∈ storedFields surface index) (datatype : UInt8)
    (htype : PCLPointField.typeSize datatype = bytes.length) :
    (readField (encodeCloud surface) k (findField (encodeCloud surface) name) datatype).Returns
      bytes := by
  have hname : name ∈ storedNames surface.hasNormals := by
    unfold storedNames
    rw [← storedFields_names surface index]
    exact List.mem_map_of_mem hfield
  obtain ⟨hsome, hlt⟩ := storedNames_found _ name hname
  obtain ⟨field, hfind⟩ := Option.isSome_iff_exists.mp hsome
  have hfind' : findField (encodeCloud surface) name = some field := hfind
  have hoffset : fieldOffset surface.hasNormals name = field.offset.toNat := by
    unfold fieldOffset
    rw [hfind]
    rfl
  have hlt' : k < surface.size := by
    obtain ⟨hlt', -⟩ := List.getElem?_eq_some_iff.mp hk
    rwa [h.length_indices] at hlt'
  have hstorage : (storageOffset (encodeCloud surface) k + field.offset.toNat) % 2 ^ 64 =
      k * surface.pointStep + fieldOffset surface.hasNormals name := by
    rw [← hoffset]
    exact emptyCloud_offset h hsize hlt' hlt
  obtain ⟨hinside, hread⟩ := readAt_encodeCloud h hsize hk hfield
  intro log
  refine ⟨log ++ [⟨some field, datatype, k⟩], ?_⟩
  unfold readField
  rw [Faulty.outcome_bind, hfind']
  change Faulty.outcome (ite _ _ _) _ = _
  rw [hstorage, htype, if_pos hinside, hread]
  rfl

variable [LawfulFloatBits F]

theorem readFloat_encodeCloud (h : surface.Shaped) (hsize : surface.Encodable) {k index : ℕ}
    (hk : surface.indices[k]? = some index) {name : String} {v : F}
    (hfield : (name, floatBytes v) ∈ storedFields surface index) :
    (readFloat (F := F) (encodeCloud surface) k
      (findField (encodeCloud surface) name)).Returns v := by
  have hread := readField_encodeCloud h hsize hk hfield PCLPointField.typeFloat32
    (length_wordBytes _).symm
  have hvalue : (FloatBits.ofBits (wordOfBytes (floatBytes v)) : F) = v := by
    unfold floatBytes
    rw [wordOfBytes_wordBytes, LawfulFloatBits.ofBits_bits]
  refine hread.bind ?_
  rw [hvalue]
  exact .pure v

/-- What is read back of the sample at a storage index. -/
def storedPoint (surface : SurfaceView F) (index : ℕ) : DecodedPoint F :=
  let point := surface.points.getD index default
  let normal :=
    if surface.hasNormals then some (surface.normals.getD index default) else none
  ⟨point, normal, encodedMask surface index, point.finite && normal.all Vec3.finite⟩

omit [FloatBits F] [LawfulFloatBits F] in
theorem encodedMask_checked {index : ℕ}
    (hcheck : checkIndex surface.points surface.normals surface.valid index = .ok ()) :
    ¬ 1 < encodedMask surface index ∧ (encodedMask surface index = 1 →
      (surface.points.getD index default).finite = true ∧
        (surface.hasNormals = true → (surface.normals.getD index default).finite = true)) := by
  have hempty : surface.hasNormals = true ↔ surface.normals ≠ [] := by
    simp [SurfaceView.hasNormals]
  have hmask : encodedMask surface index = 1 ↔ maskValid surface.valid index = true := by
    unfold encodedMask maskValid
    by_cases hvalid : surface.valid = [] <;> simp [hvalid]
  unfold checkIndex at hcheck
  dsimp only at hcheck
  split_ifs at hcheck with hrange hpoint hnormal
  rw [hmask, hempty]
  constructor
  · unfold encodedMask
    split_ifs with hvalid
    · decide
    · exact fun hlt => hrange ⟨hvalid, hlt⟩
  · intro hone
    exact ⟨by_contra fun hn => hpoint ⟨hone, hn⟩, fun hne => by_contra fun hn =>
      hnormal ⟨hone, hne, hn⟩⟩

theorem decodePoint_encodeCloud (h : surface.Shaped) (hsize : surface.Encodable) {k index : ℕ}
    (hk : surface.indices[k]? = some index)
    (hcheck : checkIndex surface.points surface.normals surface.valid index = .ok ())
    (path format : String) :
    (decodePoint (F := F) (encodeCloud surface) path format k).Returns
      (storedPoint surface index) := by
  have hfloat (name : String) (v : F)
      (hfield : (name, floatBytes v) ∈ storedFields surface index) :=
    readFloat_encodeCloud h hsize hk hfield
  have hpoint : (readVector (F := F) (encodeCloud surface) k (findField (encodeCloud surface) "x")
      (findField (encodeCloud surface) "y") (findField (encodeCloud surface) "z")).Returns
        (surface.points.getD index default) :=
    readVector_returns (hfloat _ _ (by simp [storedFields])) (hfloat _ _ (by simp [storedFields]))
      (hfloat _ _ (by simp [storedFields]))
  have hnormal : (decodeNormal (F := F) (encodeCloud surface) k).Returns
      (storedPoint surface index).normal := by
    have hsome : (findField (encodeCloud surface) "normal_x").isSome = surface.hasNormals := by
      change ((encodedFields surface.hasNormals).find? _).isSome = _
      cases surface.hasNormals <;> rfl
    unfold decodeNormal storedPoint
    rw [hsome]
    cases hb : surface.hasNormals with
    | false => exact .pure none
    | true =>
      rw [if_pos rfl, map_eq_pure_bind]
      have hvector : (readVector (F := F) (encodeCloud surface) k
          (findField (encodeCloud surface) "normal_x") (findField (encodeCloud surface) "normal_y")
          (findField (encodeCloud surface) "normal_z")).Returns
            (surface.normals.getD index default) :=
        readVector_returns (hfloat _ _ (by simp [storedFields, hb]))
          (hfloat _ _ (by simp [storedFields, hb])) (hfloat _ _ (by simp [storedFields, hb]))
      exact hvector.bind (.pure _)
  have hmask : (decodeMask (encodeCloud surface) path format k
      (storedPoint surface index).finite).Returns (encodedMask surface index) := by
    have hsome : (findField (encodeCloud surface) "valid").isSome = true := by
      change ((encodedFields surface.hasNormals).find? _).isSome = _
      cases surface.hasNormals <;> rfl
    have hread := readField_encodeCloud h hsize hk
      (show ("valid", [encodedMask surface index]) ∈ storedFields surface index by
        simp [storedFields]) PCLPointField.typeUint8 rfl
    obtain ⟨hrange, hfinite⟩ := encodedMask_checked hcheck
    have hchecked : checkMask path format (encodedMask surface index)
        (storedPoint surface index).finite = .ok () := by
      have hfinite' : encodedMask surface index = 1 →
          (storedPoint surface index).finite = true := by
        intro hone
        obtain ⟨hpoint, hnormal⟩ := hfinite hone
        unfold storedPoint
        dsimp only
        cases hb : surface.hasNormals with
        | false =>
          rw [hpoint]
          rfl
        | true =>
          rw [hpoint]
          exact hnormal hb
      unfold checkMask
      rw [if_neg hrange, if_neg fun hbad => hbad.2 (hfinite' hbad.1)]
    unfold decodeMask
    rw [if_pos hsome]
    have hbyte :
        (readByte (encodeCloud surface) k (findField (encodeCloud surface) "valid")).Returns
          (encodedMask surface index) := hread.bind (.pure _)
    exact hbyte.bind ((Decoding.ofResult_returns hchecked).bind (.pure _))
  exact hpoint.bind (hnormal.bind (hmask.bind (.pure _)))

omit [LawfulFloatBits F] in
theorem validateFields_encodeCloud (h : surface.Shaped) (hsize : surface.Encodable)
    (path format : String) :
      validateFields (encodeCloud surface) path format = .ok surface.size := by
  have hcoordinates : ((coordinateNames.map fun name =>
      isFloatScalar (findField (encodeCloud surface) name)).all id) = true := by
    change ((coordinateNames.map fun name => isFloatScalar
      ((encodedFields surface.hasNormals).find? fun field => field.name = name)).all id) = true
    cases surface.hasNormals <;> rfl
  have hnormals : ¬ (((normalNames.map fun name =>
      isFloatScalar (findField (encodeCloud surface) name)).any id) = true ∧
      ¬ ((normalNames.map fun name =>
        isFloatScalar (findField (encodeCloud surface) name)).all id) = true) := by
    change ¬ (((normalNames.map fun name => isFloatScalar
      ((encodedFields surface.hasNormals).find? fun field => field.name = name)).any id) = true ∧
      ¬ ((normalNames.map fun name => isFloatScalar
        ((encodedFields surface.hasNormals).find? fun field => field.name = name)).all id) = true)
    cases surface.hasNormals <;> decide
  have hmask : maskAccepted (encodeCloud surface) = true := by
    change ((encodedFields surface.hasNormals).find? fun field => field.name = "valid").all _ = true
    cases surface.hasNormals <;> rfl
  have hcount : (encodeCloud surface).width.toNat * (encodeCloud surface).height.toNat =
      surface.size := emptyCloud_count h hsize
  have hrow : (encodeCloud surface).rowStep.toNat = minimumRowStep (encodeCloud surface) := by
    unfold minimumRowStep
    rw [Nat.mul_comm]
    exact emptyCloud_row h hsize
  have hdata : (encodeCloud surface).data.length = surface.size * surface.pointStep := by
    change (applyWrites _ _).length = _
    rw [length_applyWrites (encodeWrites_inside h hsize), emptyCloud_data hsize]
  have hstep : (encodeCloud surface).pointStep ≠ 0 := by
    change encodedPointStep surface.hasNormals ≠ 0
    cases surface.hasNormals <;> decide
  have hstorage : minimumStorage (encodeCloud surface) ≤ surface.size * surface.pointStep := by
    unfold minimumStorage
    split_ifs with hheight
    · exact Nat.zero_le _
    · apply (Nat.mod_le _ _).trans
      rw [hrow, ← Nat.succ_mul, ← hcount]
      have hpos : (encodeCloud surface).height.toNat ≠ 0 := fun he =>
        hheight (UInt32.toNat_inj.mp he)
      rw [Nat.succ_eq_add_one, Nat.sub_add_cancel (Nat.pos_iff_ne_zero.mpr hpos)]
      unfold minimumRowStep
      change _ * (_ * surface.pointStep) ≤ _
      rw [← Nat.mul_assoc, Nat.mul_comm (encodeCloud surface).height.toNat]
  unfold validateFields
  dsimp only
  rw [if_neg (not_not.mpr hcoordinates), if_neg hnormals, if_neg (not_not.mpr hmask),
    if_neg, hcount]
  rw [hcount, hdata, hrow]
  rintro (hzero | hzero | hlt | hlt)
  · exact h.size_ne_zero hzero
  · exact hstep hzero
  · exact absurd hlt (Nat.lt_irrefl _)
  · omega

/-- The grid of a stored surface: its rows are not padded, and one row is no grid. -/
def storedGrid (surface : SurfaceView F) : Option GridTopology :=
  surface.grid.bind fun grid =>
    if 1 < grid.height then some ⟨grid.width, grid.height, grid.width⟩ else none

/-- The samples of a surface in logical order, with their mask. -/
def SurfaceView.compacted (surface : SurfaceView F) (grid : Option GridTopology) :
    SurfaceView F where
  points := surface.indices.map fun index => surface.points.getD index default
  normals :=
    if surface.hasNormals then surface.indices.map fun index => surface.normals.getD index default
    else []
  valid := surface.indices.map (encodedMask surface)
  grid
  unit := surface.unit
  frame := surface.frame
  logicalSize := surface.size

omit [FloatArith F] [FloatBits F] [LawfulFloatBits F] in
theorem storedGrid_storage (h : surface.Shaped) (hsize : surface.Encodable) :
    checkStorage 64 surface.size (storedGrid surface) = .ok surface.size := by
  unfold storedGrid
  cases hgrid : surface.grid with
  | none => rfl
  | some grid =>
    obtain ⟨hfits, hcount⟩ := h.gridFits hgrid
    have hcount : surface.size = grid.width.toNat * grid.height.toNat := hcount
    have hwidth := hfits.width_pos
    unfold SurfaceView.Encodable at hsize
    change checkStorage 64 surface.size (if 1 < grid.height then some _ else none) = _
    split_ifs with hheight
    · have hheight : 1 < grid.height.toNat := UInt32.lt_iff_toNat_lt.mp hheight
      have hrows : (grid.height - 1).toNat = grid.height.toNat - 1 := by
        rw [UInt32.toNat_sub_of_le]
        · rfl
        · rw [UInt32.le_iff_toNat_le]
          exact hheight.le
      have hprod : (grid.height.toNat - 1) * grid.width.toNat + grid.width.toNat =
          surface.size := by
        rw [hcount, ← Nat.succ_mul, Nat.succ_eq_add_one, Nat.sub_add_cancel hheight.le,
          Nat.mul_comm]
      have hzero : ¬ (grid.width = 0 ∨ grid.height = 0) := by
        rintro (he | he)
        · rw [he] at hwidth
          exact absurd hwidth (by decide)
        · rw [he] at hheight
          exact absurd hheight (by decide)
      have hover : ¬ (2 ^ 64 - 1 - grid.width.toNat) / grid.width.toNat <
          grid.height.toNat - 1 := by
        rw [Nat.not_lt, Nat.le_div_iff_mul_le hwidth]
        omega
      simp only [checkStorage, checkGrid, hrows]
      rw [if_neg hzero, if_neg (by simp), if_neg hover,
        Nat.mod_eq_of_lt (b := 2 ^ 64) (a := (grid.height.toNat - 1) * _) (by omega), hprod,
        Nat.mod_eq_of_lt (by omega), if_neg (by simp), ← hcount, Nat.mod_eq_of_lt (by omega)]
    · rfl

theorem getD_map_indices {α : Type} {l : List ℕ} (f : ℕ → α) (default : α) {k index : ℕ}
    (hk : l[k]? = some index) : (l.map f).getD k default = f index := by
  rw [List.getD_eq_getElem?_getD, List.getElem?_map, hk]
  rfl

omit [FloatBits F] [LawfulFloatBits F] in
/-- A stored sample passes the checks that its source passed. -/
theorem checkIndex_compacted (h : surface.Shaped) {grid : Option GridTopology} {k index : ℕ}
    (hk : surface.indices[k]? = some index)
    (hcheck : checkIndex surface.points surface.normals surface.valid index = .ok ()) :
    checkIndex (surface.compacted grid).points (surface.compacted grid).normals
      (surface.compacted grid).valid k = .ok () := by
  obtain ⟨hrange, hfinite⟩ := encodedMask_checked hcheck
  have hpoint : (surface.compacted grid).points.getD k default =
      surface.points.getD index default :=
    getD_map_indices _ _ hk
  have hmask : (surface.compacted grid).valid.getD k 0 = encodedMask surface index :=
    getD_map_indices _ _ hk
  have hnormal : (surface.compacted grid).normals ≠ [] → surface.hasNormals = true ∧
      (surface.compacted grid).normals.getD k default = surface.normals.getD index default := by
    intro hne
    cases hb : surface.hasNormals with
    | false =>
      refine absurd ?_ hne
      unfold SurfaceView.compacted
      rw [hb]
      rfl
    | true =>
      refine ⟨rfl, ?_⟩
      unfold SurfaceView.compacted
      rw [hb]
      exact getD_map_indices _ _ hk
  have hvalid : maskValid (surface.compacted grid).valid k = true →
      encodedMask surface index = 1 := by
    unfold maskValid
    rw [hmask]
    have hne : (surface.compacted grid).valid ≠ [] := by
      intro hempty
      rw [hempty] at hmask
      have hlength := congrArg List.length hempty
      rw [show (surface.compacted grid).valid.length =
        surface.indices.length from List.length_map _,
        h.length_indices] at hlength
      exact h.size_ne_zero hlength
    simp [hne]
  unfold checkIndex
  dsimp only
  rw [if_neg, if_neg, if_neg]
  · rintro ⟨hone, hne, hbad⟩
    obtain ⟨hb, hnormal⟩ := hnormal hne
    rw [hnormal] at hbad
    exact hbad ((hfinite (hvalid hone)).2 hb)
  · rintro ⟨hone, hbad⟩
    rw [hpoint] at hbad
    exact hbad (hfinite (hvalid hone)).1
  · rintro ⟨-, hlt⟩
    rw [hmask] at hlt
    exact hrange hlt

omit [FloatBits F] [LawfulFloatBits F] in
/-- The stored samples are a surface: storage and checks are those of the source. -/
theorem compacted_accepted (h : surface.Shaped) (hsize : surface.Encodable)
    (hchecks : ∀ i ∈ surface.indices,
      checkIndex surface.points surface.normals surface.valid i = .ok ()) :
    validateSurfaceData (surface.compacted (storedGrid surface)).points
        (surface.compacted (storedGrid surface)).normals
        (surface.compacted (storedGrid surface)).valid (storedGrid surface) =
      .ok surface.size := by
  have hpoints : (surface.compacted (storedGrid surface)).points.length = surface.size :=
    (List.length_map _).trans h.length_indices
  have hvalid : (surface.compacted (storedGrid surface)).valid.length = surface.size :=
    (List.length_map _).trans h.length_indices
  have hnormals : (surface.compacted (storedGrid surface)).normals = [] ∨
      (surface.compacted (storedGrid surface)).normals.length = surface.size := by
    unfold SurfaceView.compacted
    cases surface.hasNormals with
    | false => exact .inl rfl
    | true => exact .inr ((List.length_map _).trans h.length_indices)
  have hne : (surface.compacted (storedGrid surface)).points ≠ [] := by
    intro hempty
    rw [hempty] at hpoints
    exact h.size_ne_zero hpoints.symm
  have hstorage := storedGrid_storage h hsize
  have hlt : ∀ k ∈ logicalIndices (storedGrid surface) surface.size, k < surface.size := by
    intro k hk
    unfold logicalIndices at hk
    cases hgrid : storedGrid surface with
    | none => simpa [hgrid] using hk
    | some grid =>
      rw [hgrid] at hk hstorage
      exact (checkGrid_ok (by decide) hstorage).1.mem_logicalIndices hk
  simp only [validateSurfaceData, validateSurfaceDataAt]
  rw [if_neg hne, if_neg (by rw [hpoints]; tauto), if_neg (by rw [hpoints, hvalid]; tauto), hpoints,
    hstorage]
  have hforM : forM (logicalIndices (storedGrid surface) surface.size)
      (checkIndex (surface.compacted (storedGrid surface)).points
        (surface.compacted (storedGrid surface)).normals
        (surface.compacted (storedGrid surface)).valid) = .ok () := by
    rw [forM_ok_iff]
    intro k hk
    have hk : k < surface.indices.length := by
      rw [h.length_indices]
      exact hlt k hk
    exact checkIndex_compacted h (List.getElem?_eq_getElem hk)
      (hchecks _ (List.getElem_mem hk))
  rw [ok_bind, hforM]
  rfl

omit [LawfulFloatBits F] in
theorem decodedSurface_encodeCloud :
    decodedSurface (encodeCloud surface) surface.unit surface.frame
        (surface.indices.map (storedPoint surface)) =
      OwnedSurface.create (surface.compacted (storedGrid surface)).points
        (surface.compacted (storedGrid surface)).normals
        (surface.compacted (storedGrid surface)).valid (storedGrid surface) surface.unit
        surface.frame := by
  have hsome : (findField (encodeCloud surface) "valid").isSome = true := by
    change ((encodedFields surface.hasNormals).find? _).isSome = _
    cases surface.hasNormals <;> rfl
  have hgrid : (if 1 < (encodeCloud surface).height then
      some (⟨(encodeCloud surface).width, (encodeCloud surface).height,
        (encodeCloud surface).width⟩ : GridTopology) else none) = storedGrid surface := by
    unfold storedGrid encodeCloud emptyCloud
    cases surface.grid <;> rfl
  have hnormals : (surface.indices.map (storedPoint surface)).filterMap DecodedPoint.normal =
      (surface.compacted (storedGrid surface)).normals := by
    unfold storedPoint SurfaceView.compacted
    rw [List.filterMap_map]
    cases surface.hasNormals with
    | false => exact List.filterMap_eq_nil_iff.mpr fun _ _ => rfl
    | true =>
      change surface.indices.filterMap
        (some ∘ fun index => surface.normals.getD index default) = surface.indices.map _
      rw [List.filterMap_eq_map]
  unfold decodedSurface
  dsimp only
  rw [if_pos (.inl hsome), hgrid, hnormals, List.map_map, List.map_map]
  rfl

/-- A stored surface is decoded as its samples in logical order. -/
theorem decodeCloud_encodeCloud (h : surface.Shaped) (hsize : surface.Encodable)
    (hchecks : ∀ i ∈ surface.indices,
      checkIndex surface.points surface.normals surface.valid i = .ok ())
    (path format : String) :
    ∃ restored : OwnedSurface F, restored.view = surface.compacted (storedGrid surface) ∧
      (decodeCloud (encodeCloud surface) surface.unit surface.frame path format).Returns
        restored := by
  let restored : OwnedSurface F :=
    ⟨surface.compacted (storedGrid surface), compacted_accepted h hsize hchecks⟩
  have hdecoded : ((List.range surface.size).mapM
      (decodePoint (F := F) (encodeCloud surface) path format)).Returns
        (surface.indices.map (storedPoint surface)) := by
    have hpoints : ∀ k ∈ List.range surface.size,
        (decodePoint (F := F) (encodeCloud surface) path format k).Returns
          (storedPoint surface (surface.indices.getD k 0)) := by
      intro k hk
      have hk : k < surface.indices.length := by
        rw [h.length_indices]
        exact List.mem_range.mp hk
      have hget : surface.indices[k]? = some (surface.indices.getD k 0) := by
        rw [List.getD_eq_getElem?_getD, List.getElem?_eq_getElem hk]
        rfl
      exact decodePoint_encodeCloud h hsize hget
        (hchecks _ (List.mem_of_getElem? hget)) path format
    have hlist : (List.range surface.size).map (fun k => surface.indices.getD k 0) =
        surface.indices := by
      apply List.ext_getElem
      · rw [List.length_map, List.length_range]
        exact h.length_indices.symm
      · intro k _ hk
        rw [List.getElem_map, List.getElem_range, List.getD_eq_getElem?_getD,
          List.getElem?_eq_getElem hk]
        rfl
    have hreturns := Faulty.Returns.mapM hpoints
    rw [← hlist, List.map_map]
    exact hreturns
  have hsurface : decodedSurface (encodeCloud surface) surface.unit surface.frame
      (surface.indices.map (storedPoint surface)) = .ok restored := by
    rw [decodedSurface_encodeCloud]
    exact OwnedSurface.create_ok (compacted_accepted h hsize hchecks)
  exact ⟨restored, rfl, (Decoding.ofResult_returns
    (validateFields_encodeCloud h hsize path format)).bind
      (hdecoded.bind (Decoding.ofResult_returns hsurface))⟩

/-- An accepted surface that is stored is decoded with its samples, normals and mask in logical
order, and with a grid when it has more than one row. -/
theorem decode_encode {points normals : List (Vec3 F)} {valid : List UInt8}
    {grid : Option GridTopology} {unit : LengthUnit} {frame : FrameId}
    (haccepted : SurfaceView.create points normals valid grid unit frame = .ok surface)
    (hsize : surface.Encodable) (path format : String) :
    ∃ restored : OwnedSurface F,
      ((decodeCloud (encodeCloud surface) surface.unit surface.frame path format).outcome []).1 =
          .ok restored ∧
        restored.view = surface.compacted (storedGrid surface) := by
  unfold SurfaceView.create at haccepted
  obtain ⟨size, hvalidate, hsurface⟩ := bind_ok_iff.mp haccepted
  cases hsurface
  obtain ⟨hshaped, hchecks⟩ := validateSurfaceData_ok hvalidate unit frame
  obtain ⟨restored, hview, hreturns⟩ := decodeCloud_encodeCloud hshaped hsize hchecks path format
  obtain ⟨log, hlog⟩ := hreturns []
  exact ⟨restored, by rw [hlog], hview⟩

end

/-- A point of the given values. -/
def binaryPoint (x y z : ℚ) : Vec3 Binary32 :=
  ⟨.ofExact false (.fin x), .ofExact false (.fin y), .ofExact false (.fin z)⟩

def binaryNan : Vec3 Binary32 :=
  ⟨.ofExact false .nan, .ofExact false .nan, .ofExact false .nan⟩

/-- Two rows of two samples, one of them masked, with a padding element between them. -/
def paddedSurface : SurfaceView Binary32 where
  points := [binaryPoint 1 2 3, binaryPoint 4 5 6, binaryPoint 99 99 99, binaryNan,
    binaryPoint 7 8 9]
  normals := [binaryPoint 0 0 1, binaryPoint 0 1 0, binaryPoint 1 0 0, binaryNan,
    binaryPoint 1 0 0]
  valid := [1, 1, 0, 0, 1]
  grid := some ⟨2, 2, 3⟩
  unit := .millimeter
  frame := fixtureFrame
  logicalSize := 4

theorem decode_encode_padded : ∃ restored : OwnedSurface Binary32,
    ((decodeCloud (encodeCloud paddedSurface) .millimeter fixtureFrame "organized.ply"
        "PLY").outcome []).1 = .ok restored ∧
      restored.view = paddedSurface.compacted (some ⟨2, 2, 2⟩) := by
  have haccepted : SurfaceView.create paddedSurface.points paddedSurface.normals
      paddedSurface.valid paddedSurface.grid .millimeter fixtureFrame = .ok paddedSurface := by
    decide +kernel
  exact decode_encode haccepted (by decide) "organized.ply" "PLY"

/-- One row of two samples. -/
def rowSurface : SurfaceView Binary32 where
  points := [binaryPoint 1 2 3, binaryPoint 4 5 6]
  normals := []
  valid := []
  grid := some ⟨2, 1, 2⟩
  unit := .millimeter
  frame := fixtureFrame
  logicalSize := 2

/-- An organized surface of one row is decoded as an unorganized one. -/
theorem row_unorganized :
    SurfaceView.create rowSurface.points rowSurface.normals rowSurface.valid rowSurface.grid
        rowSurface.unit rowSurface.frame = .ok rowSurface ∧ rowSurface.Encodable ∧
      ¬ ∃ restored : OwnedSurface Binary32,
        ((decodeCloud (encodeCloud rowSurface) .millimeter fixtureFrame "organized.ply"
            "PLY").outcome []).1 = .ok restored ∧
          restored.view = rowSurface.compacted (some ⟨2, 1, 2⟩) := by
  refine ⟨by decide +kernel, by decide, ?_⟩
  rintro ⟨restored, hrun, hview⟩
  have hgrid : (((decodeCloud (encodeCloud rowSurface) .millimeter fixtureFrame "organized.ply"
      "PLY").outcome []).1.map fun restored : OwnedSurface Binary32 => restored.grid) =
        .ok none := by
    decide +kernel
  rw [hrun] at hgrid
  have hsome : restored.grid = some ⟨2, 1, 2⟩ := congrArg SurfaceView.grid hview
  cases hsome.symm.trans (Except.ok.inj hgrid)

end PointcloudAd
