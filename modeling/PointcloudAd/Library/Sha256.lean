import Mathlib.Data.Fin.VecNotation
import Mathlib.Data.Nat.NthRoot.Defs
import Mathlib.Data.Nat.Nth
import Mathlib.Data.Nat.Prime.Basic
import Mathlib.Tactic.Common
import Mathlib.Tactic.Ring

/-!
# The secure hash of 256 bits

The hash of a message of bits, as its standard defines it: the message is padded to blocks of 512
bits, a block is expanded to a schedule of 64 words, and 64 rounds compress it into the eight words
of the hash. The constants are the fractional parts of roots of the first primes.
-/

namespace PointcloudAd.Library.Sha256

abbrev Word : Type := BitVec 32

def choose (x y z : Word) : Word := (x &&& y) ^^^ (~~~x &&& z)

def majority (x y z : Word) : Word := (x &&& y) ^^^ (x &&& z) ^^^ (y &&& z)

def bigSigma0 (x : Word) : Word := x.rotateRight 2 ^^^ x.rotateRight 13 ^^^ x.rotateRight 22

def bigSigma1 (x : Word) : Word := x.rotateRight 6 ^^^ x.rotateRight 11 ^^^ x.rotateRight 25

def smallSigma0 (x : Word) : Word := x.rotateRight 7 ^^^ x.rotateRight 18 ^^^ (x >>> 3)

def smallSigma1 (x : Word) : Word := x.rotateRight 17 ^^^ x.rotateRight 19 ^^^ (x >>> 10)

/-- The first 32 bits of the fractional part of a root. -/
def fractionBits (degree radicand : ℕ) : Word :=
  BitVec.ofNat 32 (Nat.nthRoot degree (radicand * 2 ^ (32 * degree)))

/-- The constant of a round, from the cube root of a prime. -/
noncomputable def roundConstant (t : ℕ) : Word := fractionBits 3 (Nat.nth Nat.Prime t)

structure Registers where
  a : Word
  b : Word
  c : Word
  d : Word
  e : Word
  f : Word
  g : Word
  h : Word
  deriving DecidableEq

/-- The first hash value, from the square roots of the first eight primes. -/
noncomputable def initialHash : Registers :=
  let word (t : ℕ) : Word := fractionBits 2 (Nat.nth Nat.Prime t)
  ⟨word 0, word 1, word 2, word 3, word 4, word 5, word 6, word 7⟩

theorem exists_zeroBits (length : ℕ) : ∃ k, (length + 1 + k) % 512 = 448 :=
  ⟨959 - (length % 512), by omega⟩

/-- The least number of zeros that leave 64 bits of the last block for the length. -/
def zeroBits (length : ℕ) : ℕ := Nat.find (exists_zeroBits length)

/-- The low bits of a number, the most significant one first. -/
def lowBits (width value : ℕ) : List Bool :=
  (List.range width).map fun i => value.testBit (width - 1 - i)

def pad (message : List Bool) : List Bool :=
  message ++ [true] ++ List.replicate (zeroBits message.length) false ++ lowBits 64 message.length

/-- The word of some bits, the most significant one first. -/
def wordOfBits (bits : List Bool) : Word :=
  BitVec.ofNat 32 (bits.foldl (fun value bit => 2 * value + bit.toNat) 0)

/-- Word `j` of block `i` of a padded message. -/
def blockWord (padded : List Bool) (i : ℕ) (j : Fin 16) : Word :=
  wordOfBits ((padded.drop (512 * i + 32 * j)).take 32)

/-- The message schedule of a block. -/
def schedule (block : Fin 16 → Word) (t : ℕ) : Word :=
  if h : t < 16 then block ⟨t, h⟩
  else
    smallSigma1 (schedule block (t - 2)) + schedule block (t - 7) +
      smallSigma0 (schedule block (t - 15)) + schedule block (t - 16)

/-- One round with its constant and its word of the schedule. -/
def step (r : Registers) (constant word : Word) : Registers :=
  let t1 := r.h + bigSigma1 r.e + choose r.e r.f r.g + constant + word
  let t2 := bigSigma0 r.a + majority r.a r.b r.c
  ⟨t1 + t2, r.a, r.b, r.c, r.d + t1, r.e, r.f, r.g⟩

def add (r s : Registers) : Registers :=
  ⟨r.a + s.a, r.b + s.b, r.c + s.c, r.d + s.d, r.e + s.e, r.f + s.f, r.g + s.g, r.h + s.h⟩

noncomputable def compress (hash : Registers) (block : Fin 16 → Word) : Registers :=
  add ((List.range 64).foldl (fun r t => step r (roundConstant t) (schedule block t)) hash) hash

/-- The hash after the first blocks of a padded message. -/
noncomputable def hashBlocks (padded : List Bool) : ℕ → Registers
  | 0 => initialHash
  | i + 1 => compress (hashBlocks padded i) (blockWord padded i)

noncomputable def sha256 (message : List Bool) : Registers :=
  hashBlocks (pad message) ((pad message).length / 512)

/-- The last hexadecimal digits of a number. -/
def lastDigits (width value : ℕ) : List Char :=
  (List.range width).map fun i => Nat.digitChar (value / 16 ^ (width - 1 - i) % 16)

/-- The hash in hexadecimal, eight digits a word. -/
def hexDigits (r : Registers) : List Char :=
  [r.a, r.b, r.c, r.d, r.e, r.f, r.g, r.h].flatMap fun word => lastDigits 8 word.toNat

theorem getElem_filter_range {p : ℕ → Prop} [DecidablePred p] {t : ℕ} :
    ∀ {n : ℕ} (h : t < ((List.range n).filter p).length),
      ((List.range n).filter p)[t] = Nat.nth p t
  | 0, h => by simp at h
  | n + 1, h => by
    have hcount : ((List.range n).filter p).length = Nat.count p n :=
      List.countP_eq_length_filter.symm
    simp only [List.range_succ, List.filter_append, List.length_append] at h ⊢
    by_cases hlt : t < ((List.range n).filter p).length
    · rw [List.getElem_append_left hlt, getElem_filter_range hlt]
    · by_cases hn : p n
      · have ht : t = Nat.count p n := by
          simp [hn] at h
          omega
        subst ht
        rw [List.getElem_append_right (by omega), Nat.nth_count hn]
        simp [hn]
      · simp [hn] at h
        omega

/-- The first 64 primes. -/
def firstPrimes : List ℕ :=
  [2, 3, 5, 7, 11, 13, 17, 19, 23, 29, 31, 37, 41, 43, 47, 53, 59, 61, 67, 71, 73, 79, 83, 89, 97,
    101, 103, 107, 109, 113, 127, 131, 137, 139, 149, 151, 157, 163, 167, 173, 179, 181, 191, 193,
    197, 199, 211, 223, 227, 229, 233, 239, 241, 251, 257, 263, 269, 271, 277, 281, 283, 293, 307,
    311]

theorem filter_prime : (List.range 312).filter Nat.Prime = firstPrimes := by
  decide +kernel

theorem nth_prime {t : ℕ} (h : t < 64) : Nat.nth Nat.Prime t = firstPrimes.getD t 0 := by
  have hlength : t < ((List.range 312).filter Nat.Prime).length := by
    rw [filter_prime]
    exact h
  rw [← getElem_filter_range hlength, ← filter_prime, List.getD_eq_getElem _ _ hlength]

theorem length_lowBits (width value : ℕ) : (lowBits width value).length = width := by
  rw [lowBits, List.length_map, List.length_range]

theorem lowBits_succ (width value : ℕ) :
    lowBits (width + 1) value = value.testBit width :: lowBits width value := by
  unfold lowBits
  rw [List.range_succ_eq_map, List.map_cons, List.map_map]
  refine congrArg₂ _ rfl (List.map_congr_left fun i _ => ?_)
  change value.testBit (width + 1 - 1 - (i + 1)) = value.testBit (width - 1 - i)
  congr 1
  omega

theorem lowBits_append (high low value : ℕ) :
    lowBits (high + low) value = lowBits high (value / 2 ^ low) ++ lowBits low value := by
  induction high with
  | zero => rw [Nat.zero_add]; rfl
  | succ high ih =>
    rw [Nat.succ_add_eq_add_succ, Nat.add_succ, lowBits_succ, ih, lowBits_succ, List.cons_append,
      Nat.testBit_div_two_pow]

theorem foldl_lowBits (width value : ℕ) : ∀ start,
    (lowBits width value).foldl (fun value bit => 2 * value + bit.toNat) start =
      start * 2 ^ width + value % 2 ^ width := by
  induction width with
  | zero =>
    intro start
    simp [lowBits, Nat.mod_one]
  | succ width ih =>
    intro start
    have hmod : value % 2 ^ (width + 1) =
        value % 2 ^ width + 2 ^ width * (value.testBit width).toNat := by
      rw [Nat.mod_pow_succ, Nat.toNat_testBit]
    rw [lowBits_succ, List.foldl_cons, ih, hmod, Nat.pow_succ]
    ring

def bitsOfBytes (bytes : List UInt8) : List Bool := bytes.flatMap fun byte => lowBits 8 byte.toNat

theorem bitsOfBytes_append (left right : List UInt8) :
    bitsOfBytes (left ++ right) = bitsOfBytes left ++ bitsOfBytes right :=
  List.flatMap_append

theorem length_bitsOfBytes (bytes : List UInt8) :
    (bitsOfBytes bytes).length = 8 * bytes.length := by
  induction bytes with
  | nil => rfl
  | cons byte bytes ih =>
    rw [bitsOfBytes, List.flatMap_cons, List.length_append, length_lowBits, List.length_cons]
    change 8 + (bitsOfBytes bytes).length = _
    rw [ih]
    ring

theorem take_bitsOfBytes (bytes : List UInt8) (n : ℕ) :
    (bitsOfBytes bytes).take (8 * n) = bitsOfBytes (bytes.take n) := by
  by_cases hn : n ≤ bytes.length
  · have hlength : (bitsOfBytes (bytes.take n)).length = 8 * n := by
      rw [length_bitsOfBytes, List.length_take, Nat.min_eq_left hn]
    rw [← hlength, ← List.take_append_drop n bytes, bitsOfBytes_append, List.take_append_drop,
      List.take_left]
  · have hlength := length_bitsOfBytes bytes
    rw [List.take_of_length_le (by omega), List.take_of_length_le (by omega)]

theorem drop_bitsOfBytes (bytes : List UInt8) (n : ℕ) :
    (bitsOfBytes bytes).drop (8 * n) = bitsOfBytes (bytes.drop n) := by
  by_cases hn : n ≤ bytes.length
  · have hlength : (bitsOfBytes (bytes.take n)).length = 8 * n := by
      rw [length_bitsOfBytes, List.length_take, Nat.min_eq_left hn]
    rw [← hlength, ← List.take_append_drop n bytes, bitsOfBytes_append, List.take_append_drop,
      List.drop_left]
  · have hlength := length_bitsOfBytes bytes
    rw [List.drop_of_length_le (by omega), List.drop_of_length_le (by omega)]
    rfl

/-- A number in a fixed count of bytes, the most significant one first. -/
def bigEndian (count value : ℕ) : List UInt8 :=
  (List.range count).map fun i => UInt8.ofNat (value / 256 ^ (count - 1 - i))

theorem bigEndian_succ (count value : ℕ) :
    bigEndian (count + 1) value = bigEndian count (value / 256) ++ [UInt8.ofNat value] := by
  unfold bigEndian
  rw [List.range_succ, List.map_append, List.map_singleton]
  refine congrArg₂ _ (List.map_congr_left fun i hi => ?_) ?_
  · have hpower : count + 1 - 1 - i = (count - 1 - i) + 1 := by
      have hlt := List.mem_range.mp hi
      omega
    rw [hpower, Nat.pow_succ', Nat.div_div_eq_div_mul]
  · rw [Nat.add_sub_cancel, Nat.sub_self, Nat.pow_zero, Nat.div_one]

theorem lowBits_mod (width value : ℕ) :
    lowBits width (value % 2 ^ width) = lowBits width value := by
  refine List.map_congr_left fun i hi => ?_
  have hlt := List.mem_range.mp hi
  rw [Nat.testBit_mod_two_pow, decide_eq_true (by omega), Bool.true_and]

theorem bitsOfBytes_bigEndian (count : ℕ) :
    ∀ value, bitsOfBytes (bigEndian count value) = lowBits (8 * count) value := by
  induction count with
  | zero => exact fun _ => rfl
  | succ count ih =>
    intro value
    have hbyte : bitsOfBytes [UInt8.ofNat value] = lowBits 8 value := by
      rw [← lowBits_mod 8 value]
      simp [bitsOfBytes]
    rw [bigEndian_succ, bitsOfBytes_append, ih, hbyte, Nat.mul_succ, lowBits_append]
    rfl

theorem wordOfBits_bytes (b0 b1 b2 b3 : UInt8) :
    wordOfBits (bitsOfBytes [b0, b1, b2, b3]) =
      BitVec.ofNat 32 (((b0.toNat * 256 + b1.toNat) * 256 + b2.toNat) * 256 + b3.toNat) := by
  have hbyte : ∀ b : UInt8, b.toNat % 2 ^ 8 = b.toNat := fun b => Nat.mod_eq_of_lt b.toNat_lt
  unfold wordOfBits bitsOfBytes
  simp only [List.flatMap_cons, List.flatMap_nil, List.append_nil, List.foldl_append,
    foldl_lowBits, hbyte, Nat.zero_mul, Nat.zero_add]
  rfl

theorem blockWord_bytes {bytes : List UInt8} {i : ℕ} {j : Fin 16} {b0 b1 b2 b3 : UInt8}
    (h : (bytes.drop (64 * i + 4 * j)).take 4 = [b0, b1, b2, b3]) :
    blockWord (bitsOfBytes bytes) i j =
      BitVec.ofNat 32 (((b0.toNat * 256 + b1.toNat) * 256 + b2.toNat) * 256 + b3.toNat) := by
  have hbits : 512 * i + 32 * (j : ℕ) = 8 * (64 * i + 4 * j) := by omega
  rw [blockWord, hbits, drop_bitsOfBytes, take_bitsOfBytes _ 4, h, wordOfBits_bytes]

theorem zeroBits_bytes {length zeros : ℕ} (h : (length + 1 + zeros) % 64 = 56) (hlt : zeros < 64) :
    zeroBits (8 * length) = 8 * zeros + 7 := by
  rw [zeroBits, Nat.find_eq_iff]
  constructor
  · omega
  · intro fewer hfewer
    omega

theorem pad_bytes {data : List UInt8} {zeros : ℕ} (h : (data.length + 1 + zeros) % 64 = 56)
    (hlt : zeros < 64) :
    pad (bitsOfBytes data) =
      bitsOfBytes (data ++ [0x80] ++ List.replicate zeros 0 ++ bigEndian 8 (8 * data.length)) := by
  have hzeros : bitsOfBytes (List.replicate zeros 0) = List.replicate (8 * zeros) false := by
    clear h hlt
    induction zeros with
    | zero => rfl
    | succ zeros ih =>
      rw [List.replicate_succ, ← List.singleton_append, bitsOfBytes_append, ih]
      change List.replicate 8 false ++ _ = _
      rw [← List.replicate_add, Nat.mul_succ, Nat.add_comm 8]
  have hone : bitsOfBytes [0x80] = true :: List.replicate 7 false := by decide
  have hzeroBits : [true] ++ List.replicate (8 * zeros + 7) false =
      bitsOfBytes [0x80] ++ List.replicate (8 * zeros) false := by
    rw [hone, Nat.add_comm, List.replicate_add]
    rfl
  rw [pad, length_bitsOfBytes, zeroBits_bytes h hlt, bitsOfBytes_append, bitsOfBytes_append,
    bitsOfBytes_append, bitsOfBytes_bigEndian, hzeros, List.append_assoc _ [true], hzeroBits,
    ← List.append_assoc]

theorem lastDigits_succ (width value : ℕ) :
    lastDigits (width + 1) value = lastDigits width (value / 16) ++
      [Nat.digitChar (value % 16)] := by
  unfold lastDigits
  rw [List.range_succ, List.map_append, List.map_singleton]
  refine congrArg₂ _ (List.map_congr_left fun i hi => ?_) ?_
  · have hpower : width + 1 - 1 - i = (width - 1 - i) + 1 := by
      have hlt := List.mem_range.mp hi
      omega
    rw [hpower, Nat.pow_succ', Nat.div_div_eq_div_mul]
  · rw [Nat.add_sub_cancel, Nat.sub_self, Nat.pow_zero, Nat.div_one]

/-- The digits of a number, with zeros before them. -/
theorem leftpad_toDigits (width : ℕ) : ∀ value, value < 16 ^ (width + 1) →
    (Nat.toDigits 16 value).leftpad (width + 1) '0' = lastDigits (width + 1) value := by
  induction width with
  | zero =>
    intro value hvalue
    have hlt : value < 16 := by omega
    rw [Nat.toDigits_of_lt_base hlt]
    simp [lastDigits, List.leftpad, Nat.mod_eq_of_lt hlt]
  | succ width ih =>
    intro value hvalue
    have hquotient : value / 16 < 16 ^ (width + 1) := by
      rw [Nat.div_lt_iff_lt_mul (by omega)]
      rwa [Nat.pow_succ] at hvalue
    rw [lastDigits_succ, ← ih _ hquotient]
    by_cases hsmall : value < 16
    · rw [Nat.toDigits_of_lt_base hsmall, Nat.div_eq_of_lt hsmall, Nat.mod_eq_of_lt hsmall,
        Nat.toDigits_zero, List.leftpad, List.leftpad, List.length_singleton, List.length_singleton,
        ← List.replicate_succ']
      rfl
    · rw [Nat.toDigits_of_base_le (by omega) (by omega), List.leftpad, List.leftpad,
        List.length_append, List.length_singleton, Nat.add_sub_add_right, List.append_assoc]

end PointcloudAd.Library.Sha256
