import Mathlib.Data.List.Sort
import Mathlib.Data.String.Basic
import PointcloudAd.Library.Floating

/-!
# JSON values

A JSON value as a library holds it: a number keeps the type it was read or built with, and an
object lists its fields by ascending key. Reading a value at a type fails with the library's text,
or converts as the language does: out of range or fractional numbers are not refused.
-/

namespace PointcloudAd.Library

inductive Json (D : Type) where
  | null
  | boolean (value : Bool)
  | unsigned (value : UInt64)
  | integer (value : Int64)
  | float (value : D)
  | string (text : List UInt8)
  | array (elements : List (Json D))
  | object (fields : List (String × Json D))

/-- The value of a finite floating-point number, and what its conversion to an unsigned type gives
when its integral part does not fit the type, which the language leaves open. -/
class FloatIntegers (D : Type) where
  value : D → ℚ
  undefined32 : D → UInt32
  undefined64 : D → UInt64

instance : FloatIntegers (Exact ℚ) where
  value
    | .fin q => q
    | _ => 0
  undefined32 _ := 0
  undefined64 _ := 0

/-- The integral part, towards zero. -/
def truncate (q : ℚ) : ℤ := q.num.tdiv q.den

section

variable {D : Type} [FloatIntegers D]

def toUInt32 (v : D) : UInt32 :=
  let n := truncate (FloatIntegers.value v)
  if 0 ≤ n ∧ n < 2 ^ 32 then UInt32.ofNat n.toNat else FloatIntegers.undefined32 v

def toUInt64 (v : D) : UInt64 :=
  let n := truncate (FloatIntegers.value v)
  if 0 ≤ n ∧ n < 2 ^ 64 then UInt64.ofNat n.toNat else FloatIntegers.undefined64 v

end

namespace Json

section

variable {D : Type}

def typeName : Json D → String
  | null => "null"
  | boolean _ => "boolean"
  | unsigned _ | integer _ | float _ => "number"
  | string _ => "string"
  | array _ => "array"
  | object _ => "object"

def typeError (expected : String) (json : Json D) : String :=
  "[json.exception.type_error.302] type must be " ++ expected ++ ", but is " ++ json.typeName

def isObject : Json D → Bool
  | object _ => true
  | _ => false

/-- The field of an object; no other value has fields. -/
def find? (json : Json D) (key : String) : Option (Json D) :=
  match json with
  | object fields => fields.lookup key
  | _ => none

def contains (json : Json D) (key : String) : Bool := (json.find? key).isSome

def isNull : Json D → Bool
  | null => true
  | _ => false

/-- The field of an object, unless it is absent or null. -/
def present? (json : Json D) (key : String) : Option (Json D) :=
  (json.find? key).filter fun field => !field.isNull

/-- An object with some fields, in the order of their keys. -/
def objectOf (fields : List (String × Json D)) : Json D :=
  object (fields.insertionSort fun a b => a.1 ≤ b.1)

/-- A field of an object, read by `get`, or a default. -/
def valueOr {α : Type} (json : Json D) (key : String) (get : Json D → Except String α)
    (default : α) : Except String α :=
  match json with
  | object fields =>
    match fields.lookup key with
    | some field => get field
    | none => .ok default
  | _ => .error ("[json.exception.type_error.306] cannot use value() with " ++ json.typeName)

def getString : Json D → Except String (List UInt8)
  | string text => .ok text
  | json => .error (typeError "string" json)

def getBool : Json D → Except String Bool
  | boolean value => .ok value
  | json => .error (typeError "boolean" json)

def getDouble [FloatArith D] : Json D → Except String D
  | unsigned value => .ok (lit value.toNat)
  | integer value => .ok (lit value.toInt)
  | float value => .ok value
  | json => .error (typeError "number" json)

/-- A type that is none of the library's own number types takes a Boolean too. -/
def getUInt32 [FloatIntegers D] : Json D → Except String UInt32
  | unsigned value => .ok value.toUInt32
  | integer value => .ok (UInt32.ofInt value.toInt)
  | float value => .ok (toUInt32 value)
  | boolean value => .ok (if value then 1 else 0)
  | json => .error (typeError "number" json)

def getUInt64 [FloatIntegers D] : Json D → Except String UInt64
  | unsigned value => .ok value
  | integer value => .ok (UInt64.ofInt value.toInt)
  | float value => .ok (toUInt64 value)
  | json => .error (typeError "number" json)

/-- The number a value is. -/
def number? [FloatIntegers D] : Json D → Option ℚ
  | unsigned value => some value.toNat
  | integer value => some value.toInt
  | float value => some (FloatIntegers.value value)
  | _ => none

end

/-- The values that a text represents: finite numbers, valid texts, and objects with distinct keys
in their order. -/
inductive Representable {D : Type} [FloatArith D] (validText : List UInt8 → Bool) : Json D → Prop
  | null : Representable validText null
  | boolean (value : Bool) : Representable validText (boolean value)
  | unsigned (value : UInt64) : Representable validText (unsigned value)
  | integer (value : Int64) : Representable validText (integer value)
  | float {value : D} : isFinite value = true → Representable validText (float value)
  | string {text : List UInt8} : validText text = true → Representable validText (string text)
  | array {elements : List (Json D)} :
    (∀ element ∈ elements, Representable validText element) →
      Representable validText (array elements)
  | object {fields : List (String × Json D)} : fields.Pairwise (fun a b => a.1 < b.1) →
    (∀ field ∈ fields, Representable validText field.2) → Representable validText (object fields)

/-- The values that the library writes: all of their texts are valid. What is not a finite number is
written as null. -/
inductive Writable {D : Type} (validText : List UInt8 → Bool) : Json D → Prop
  | null : Writable validText null
  | boolean (value : Bool) : Writable validText (boolean value)
  | unsigned (value : UInt64) : Writable validText (unsigned value)
  | integer (value : Int64) : Writable validText (integer value)
  | float (value : D) : Writable validText (float value)
  | string {text : List UInt8} : validText text = true → Writable validText (string text)
  | array {elements : List (Json D)} :
    (∀ element ∈ elements, Writable validText element) → Writable validText (array elements)
  | object {fields : List (String × Json D)} :
    (∀ field ∈ fields, Writable validText field.2) → Writable validText (object fields)

section

variable {D : Type} {fields : List (String × Json D)}

theorem lookup_of_mem : ∀ {fields : List (String × Json D)}, (fields.map Prod.fst).Nodup →
    ∀ {key : String} {field : Json D}, (key, field) ∈ fields → fields.lookup key = some field
  | (k, f) :: fields, hn, key, field, h => by
    rw [List.map_cons, List.nodup_cons] at hn
    rcases List.mem_cons.mp h with he | hmem
    · obtain ⟨rfl, rfl⟩ := Prod.mk.inj he
      exact List.lookup_cons_self
    · have hne : key ≠ k := fun he => hn.1 (List.mem_map.mpr ⟨(key, field), hmem, he⟩)
      rw [List.lookup_cons, beq_false_of_ne hne]
      exact lookup_of_mem hn.2 hmem

theorem find?_objectOf (hn : (fields.map Prod.fst).Nodup) {key : String} {field : Json D}
    (h : (key, field) ∈ fields) : (objectOf fields).find? key = some field := by
  have hperm := List.perm_insertionSort (fun a b : String × Json D => a.1 ≤ b.1) fields
  unfold objectOf find?
  exact lookup_of_mem ((hperm.map Prod.fst).nodup_iff.mpr hn) (hperm.mem_iff.mpr h)

/-- An object of representable fields with distinct keys is representable. -/
theorem Representable.objectOf [FloatArith D] {validText : List UInt8 → Bool}
    (hn : (fields.map Prod.fst).Nodup)
    (h : ∀ field ∈ fields, Representable validText field.2) :
    Representable validText (objectOf fields) := by
  have hperm := List.perm_insertionSort (fun a b : String × Json D => a.1 ≤ b.1) fields
  refine .object ?_ fun field hfield => h field (hperm.mem_iff.mp hfield)
  have hsorted := List.pairwise_insertionSort (fun a b : String × Json D => a.1 ≤ b.1) fields
  have hnodup : ((fields.insertionSort fun a b => a.1 ≤ b.1).map Prod.fst).Nodup :=
    (hperm.map Prod.fst).nodup_iff.mpr hn
  rw [List.Nodup, List.pairwise_map] at hnodup
  exact (hsorted.and hnodup).imp fun ⟨hle, hne⟩ => lt_of_le_of_ne hle hne

theorem objectOf_inj {fields' : List (String × Json D)} (hn : (fields.map Prod.fst).Nodup)
    (hkeys : fields.map Prod.fst = fields'.map Prod.fst)
    (h : objectOf fields = objectOf fields') : fields = fields' := by
  have hlength : fields.length = fields'.length := by
    simpa using congrArg List.length hkeys
  refine List.ext_getElem hlength fun i hi hi' => ?_
  have hkey : fields[i].1 = fields'[i].1 := by
    have := List.getElem_of_eq hkeys (by simpa using hi)
    simpa using this
  have hfield : (objectOf fields).find? fields[i].1 = some fields[i].2 :=
    find?_objectOf hn (List.getElem_mem hi)
  have hfield' : (objectOf fields').find? fields'[i].1 = some fields'[i].2 :=
    find?_objectOf (hkeys ▸ hn) (List.getElem_mem hi')
  rw [h, hkey, hfield'] at hfield
  exact Prod.ext hkey (Option.some.inj hfield).symm

theorem writable_string_iff {validText : List UInt8 → Bool} {text : List UInt8} :
    Writable validText (string text : Json D) ↔ validText text = true := by
  constructor
  · rintro ⟨⟩
    assumption
  · exact .string

theorem writable_array_iff {validText : List UInt8 → Bool} {elements : List (Json D)} :
    Writable validText (array elements) ↔ ∀ element ∈ elements, Writable validText element := by
  constructor
  · rintro ⟨⟩
    assumption
  · exact .array

theorem writable_objectOf_iff {validText : List UInt8 → Bool} :
    Writable validText (objectOf fields) ↔ ∀ field ∈ fields, Writable validText field.2 := by
  have hperm := List.perm_insertionSort (fun a b : String × Json D => a.1 ≤ b.1) fields
  constructor
  · rintro ⟨⟩
    rename_i h
    exact fun field hfield => h field (hperm.mem_iff.mpr hfield)
  · exact fun h => .object fun field hfield => h field (hperm.mem_iff.mp hfield)

theorem valueOr_of_find {α : Type} {json : Json D} {key : String} {field : Json D}
    (h : json.find? key = some field) (get : Json D → Except String α) (default : α) :
    json.valueOr key get default = get field := by
  cases json with
  | object fields =>
    unfold valueOr
    dsimp only
    rw [show fields.lookup key = some field from h]
  | _ => cases h

end

end Json

end PointcloudAd.Library
