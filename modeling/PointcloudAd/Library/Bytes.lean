import Mathlib.Algebra.Group.Nat.Defs
import Mathlib.Tactic.Common

/-!
# Byte arrays

Reading and writing a range of bytes, sequences of writes to ranges that do not meet, and the four
bytes of a 32-bit word.
-/

namespace PointcloudAd.Library

def readAt (data : List UInt8) (offset size : ℕ) : List UInt8 := (data.drop offset).take size

/-- The bytes of a range replaced; the range lies inside the array. -/
def writeAt (data : List UInt8) (offset : ℕ) (bytes : List UInt8) : List UInt8 :=
  data.take offset ++ bytes ++ data.drop (offset + bytes.length)

/-- Bytes and the offset they are written at. -/
structure ByteWrite where
  offset : ℕ
  bytes : List UInt8
  deriving DecidableEq, Repr

namespace ByteWrite

/-- The end of the range. -/
def stop (write : ByteWrite) : ℕ := write.offset + write.bytes.length

def Apart (a b : ByteWrite) : Prop := a.stop ≤ b.offset ∨ b.stop ≤ a.offset

theorem Apart.symm {a b : ByteWrite} (h : a.Apart b) : b.Apart a := Or.symm h

end ByteWrite

def applyWrites (writes : List ByteWrite) (data : List UInt8) : List UInt8 :=
  writes.foldl (fun data write => writeAt data write.offset write.bytes) data

section

variable {data bytes : List UInt8} {offset : ℕ}

theorem length_writeAt (h : offset + bytes.length ≤ data.length) :
    (writeAt data offset bytes).length = data.length := by
  unfold writeAt
  simp only [List.length_append, List.length_take, List.length_drop]
  omega

theorem readAt_writeAt_same (h : offset + bytes.length ≤ data.length) :
    readAt (writeAt data offset bytes) offset bytes.length = bytes := by
  have hlength : (data.take offset).length = offset := by
    rw [List.length_take]
    omega
  unfold readAt writeAt
  rw [List.append_assoc, List.drop_left' hlength, List.take_left' rfl]

theorem getElem?_writeAt (h : offset + bytes.length ≤ data.length) {i : ℕ}
    (hi : i < offset ∨ offset + bytes.length ≤ i) : (writeAt data offset bytes)[i]? = data[i]? := by
  have hlength : (data.take offset).length = offset := by
    rw [List.length_take]
    omega
  unfold writeAt
  rcases hi with hi | hi
  · rw [List.append_assoc, List.getElem?_append_left (by omega), List.getElem?_take_of_lt hi]
  · rw [List.getElem?_append_right (by rw [List.length_append]; omega), List.getElem?_drop,
      List.length_append, hlength]
    congr 1
    omega

theorem readAt_writeAt_apart (h : offset + bytes.length ≤ data.length) {start size : ℕ}
    (hapart : start + size ≤ offset ∨ offset + bytes.length ≤ start) :
    readAt (writeAt data offset bytes) start size = readAt data start size := by
  unfold readAt
  apply List.ext_getElem?
  intro i
  by_cases hi : i < size
  · rw [List.getElem?_take_of_lt hi, List.getElem?_take_of_lt hi, List.getElem?_drop,
      List.getElem?_drop, getElem?_writeAt h (by omega)]
  · rw [List.getElem?_take_eq_none (by omega), List.getElem?_take_eq_none (by omega)]

end

section

variable {writes : List ByteWrite} {data : List UInt8}

theorem length_applyWrites (h : ∀ write ∈ writes, write.stop ≤ data.length) :
    (applyWrites writes data).length = data.length := by
  induction writes generalizing data with
  | nil => rfl
  | cons write writes ih =>
    have hwrite := length_writeAt (h write (by simp))
    change (applyWrites writes (writeAt data write.offset write.bytes)).length = _
    rw [ih fun w hw => ?_, hwrite]
    rw [hwrite]
    exact h w (by simp [hw])

theorem readAt_applyWrites_apart (h : ∀ write ∈ writes, write.stop ≤ data.length) {start size : ℕ}
    (hapart : ∀ write ∈ writes, start + size ≤ write.offset ∨ write.stop ≤ start) :
    readAt (applyWrites writes data) start size = readAt data start size := by
  induction writes generalizing data with
  | nil => rfl
  | cons write writes ih =>
    have hwrite := h write (by simp)
    change readAt (applyWrites writes (writeAt data write.offset write.bytes)) start size = _
    rw [ih (fun w hw => ?_) fun w hw => hapart w (by simp [hw])]
    · exact readAt_writeAt_apart hwrite (hapart write (by simp))
    · rw [length_writeAt hwrite]
      exact h w (by simp [hw])

theorem readAt_applyWrites (h : ∀ write ∈ writes, write.stop ≤ data.length)
    (hapart : writes.Pairwise ByteWrite.Apart) {write : ByteWrite} (hwrite : write ∈ writes) :
    readAt (applyWrites writes data) write.offset write.bytes.length = write.bytes := by
  induction writes generalizing data with
  | nil => cases hwrite
  | cons first writes ih =>
    have hfirst := h first (by simp)
    have hrest : ∀ w ∈ writes, w.stop ≤ (writeAt data first.offset first.bytes).length := by
      intro w hw
      rw [length_writeAt hfirst]
      exact h w (by simp [hw])
    rw [List.pairwise_cons] at hapart
    change readAt (applyWrites writes (writeAt data first.offset first.bytes)) _ _ = _
    rcases List.mem_cons.mp hwrite with rfl | hmem
    · rw [readAt_applyWrites_apart hrest hapart.1]
      exact readAt_writeAt_same hfirst
    · exact ih hrest hapart.2 hmem

end

/-- The bytes of a word, the lowest first. -/
def wordBytes (word : UInt32) : List UInt8 :=
  (List.range 4).map fun k => UInt8.ofNat (word.toNat / 256 ^ k)

def wordOfBytes (bytes : List UInt8) : UInt32 :=
  UInt32.ofNat (bytes.foldr (fun byte n => byte.toNat + 256 * n) 0)

@[simp] theorem length_wordBytes (word : UInt32) : (wordBytes word).length = 4 := by
  simp [wordBytes]

@[simp] theorem wordOfBytes_wordBytes (word : UInt32) : wordOfBytes (wordBytes word) = word := by
  have hlt := word.toNat_lt
  apply UInt32.toNat_inj.mp
  unfold wordOfBytes wordBytes
  simp only [List.range, List.range.loop, List.map_cons, List.map_nil, List.foldr_cons,
    List.foldr_nil, UInt8.toNat_ofNat', UInt32.toNat_ofNat']
  omega

end PointcloudAd.Library
