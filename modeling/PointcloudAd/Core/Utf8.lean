import Mathlib.Data.List.GetD
import PointcloudAd.Core.Geometry

/-!
# UTF-8

The validation accepts a text exactly when it is a sequence of encoded characters, and it reads
only bytes of the text. A character is a Unicode scalar value.
-/

namespace PointcloudAd

/-- What one pass accepts: a lead byte, the bytes it announces, and a code point that is not
rejected. -/
def Utf8Pass (bytes : List UInt8) : Prop :=
  ∃ lead tail continuationCount first codePoint, bytes = lead :: tail ∧
    utf8Lead lead = some (continuationCount, first) ∧ tail.length = continuationCount ∧
    tail.foldlM utf8Continuation first = some codePoint ∧
    utf8Rejected continuationCount codePoint = false

theorem utf8Lead_iff {lead : UInt8} {continuationCount : ℕ} {first : UInt32} :
    utf8Lead lead = some (continuationCount, first) ↔
      continuationCount = 0 ∧ lead.toNat < 0x80 ∧ first.toNat = lead.toNat ∨
      continuationCount = 1 ∧ 0xC2 ≤ lead.toNat ∧ lead.toNat < 0xE0 ∧
        first.toNat + 0xC0 = lead.toNat ∨
      continuationCount = 2 ∧ 0xE0 ≤ lead.toNat ∧ lead.toNat < 0xF0 ∧
        first.toNat + 0xE0 = lead.toNat ∨
      continuationCount = 3 ∧ 0xF0 ≤ lead.toNat ∧ lead.toNat < 0xF5 ∧
        first.toNat + 0xF0 = lead.toNat := by
  have hand : ∀ k, lead.toNat &&& (2 ^ k - 1) = lead.toNat % 2 ^ k := fun k =>
    Nat.and_two_pow_sub_one_eq_mod _ k
  have h5 := hand 5
  have h4 := hand 4
  have h3 := hand 3
  norm_num at h5 h4 h3
  unfold utf8Lead
  simp only [UInt8.le_iff_toNat_le, UInt8.reduceToNat]
  split_ifs with h1 h2 h3' h4' <;>
    simp only [Option.some.injEq, Prod.mk.injEq, ← UInt32.toNat_inj, UInt8.toNat_toUInt32,
      UInt8.toNat_and, UInt8.reduceToNat, h5, h4, h3, false_iff] <;> omega

theorem utf8Continuation_iff {codePoint next : UInt32} {byte : UInt8}
    (h : codePoint.toNat < 2 ^ 26) :
    utf8Continuation codePoint byte = some next ↔
      0x80 ≤ byte.toNat ∧ byte.toNat < 0xC0 ∧
        next.toNat + 0x80 = codePoint.toNat * 0x40 + byte.toNat := by
  have hlow : byte.toNat &&& 0x3F = byte.toNat % 2 ^ 6 := Nat.and_two_pow_sub_one_eq_mod _ 6
  have hhigh : byte.toNat &&& 0xC0 = byte.toNat / 0x40 * 0x40 := by
    have hall : ∀ n < 256, n &&& 0xC0 = n / 0x40 * 0x40 := by decide +kernel
    exact hall _ byte.toNat_lt
  have hor : codePoint.toNat <<< 6 ||| byte.toNat % 2 ^ 6 =
      codePoint.toNat * 2 ^ 6 + byte.toNat % 2 ^ 6 := by
    rw [Nat.shiftLeft_eq, Nat.mul_comm,
      Nat.two_pow_add_eq_or_of_lt (Nat.mod_lt _ (by decide)) codePoint.toNat]
  have hvalue : ((codePoint <<< 6) ||| (byte &&& 0x3F).toUInt32).toNat =
      codePoint.toNat * 2 ^ 6 + byte.toNat % 2 ^ 6 := by
    simp only [UInt32.toNat_or, UInt32.toNat_shiftLeft, UInt8.toNat_toUInt32, UInt8.toNat_and,
      UInt8.reduceToNat, UInt32.reduceToNat, hlow]
    rw [show 6 % 32 = 6 from rfl, Nat.mod_eq_of_lt (by rw [Nat.shiftLeft_eq]; omega), hor]
  have hbyte := byte.toNat_lt
  unfold utf8Continuation
  simp only [ne_eq, ← UInt8.toNat_inj, UInt8.toNat_and, UInt8.reduceToNat, hhigh]
  by_cases hc : byte.toNat / 0x40 * 0x40 = 0x80
  · simp only [hc, not_true_eq_false, if_false, Option.some.injEq, ← UInt32.toNat_inj, hvalue]
    omega
  · simp only [hc, not_false_eq_true, if_true, reduceCtorEq, false_iff]
    omega

theorem utf8Rejected_eq_false {continuationCount : ℕ} {codePoint : UInt32} :
    utf8Rejected continuationCount codePoint = false ↔
      (continuationCount = 2 → 0x800 ≤ codePoint.toNat) ∧
        (continuationCount = 3 → 0x10000 ≤ codePoint.toNat) ∧ codePoint.toNat.isValidChar := by
  simp only [utf8Rejected, Bool.or_eq_false_iff, Bool.and_eq_false_imp, decide_eq_true_eq,
    decide_eq_false_iff_not, UInt32.lt_iff_toNat_lt, UInt32.le_iff_toNat_le, UInt32.reduceToNat,
    Nat.isValidChar]
  omega

/-- What a pass accepts is the encoding of a character. -/
theorem Utf8Pass.encoded {bytes : List UInt8} (h : Utf8Pass bytes) :
    ∃ c : Char, bytes = String.utf8EncodeChar c := by
  obtain ⟨lead, tail, continuationCount, first, codePoint, rfl, hlead, hlength, hfold, hkept⟩ := h
  obtain ⟨htwo, hthree, hscalar⟩ := utf8Rejected_eq_false.mp hkept
  refine ⟨⟨codePoint, hscalar⟩, ?_⟩
  unfold String.utf8EncodeChar
  dsimp only
  have hbound := lead.toNat_lt
  rcases utf8Lead_iff.mp hlead with
    ⟨rfl, hl, hf⟩ | ⟨rfl, hl, hl', hf⟩ | ⟨rfl, hl, hl', hf⟩ | ⟨rfl, hl, hl', hf⟩
  · obtain rfl := List.length_eq_zero_iff.mp hlength
    simp only [List.foldlM_nil, pure, Option.some.injEq] at hfold
    subst hfold
    rw [if_pos (by omega), hf, UInt8.ofNat_toNat]
  · obtain ⟨b, rfl⟩ := List.length_eq_one_iff.mp hlength
    simp only [List.foldlM_cons, List.foldlM_nil, Option.bind_eq_bind, Option.bind_eq_some_iff,
      pure, Option.some.injEq, exists_eq_right] at hfold
    obtain ⟨hb, hb', he⟩ := (utf8Continuation_iff (by omega)).mp hfold
    rw [if_neg (by omega), if_pos (by omega)]
    simp only [List.cons.injEq, and_true, ← UInt8.toNat_inj, UInt8.toNat_ofNat']
    omega
  · obtain ⟨b, c, rfl⟩ := List.length_eq_two.mp hlength
    simp only [List.foldlM_cons, List.foldlM_nil, Option.bind_eq_bind, Option.bind_eq_some_iff,
      pure, Option.some.injEq, exists_eq_right] at hfold
    obtain ⟨second, hb, hc⟩ := hfold
    obtain ⟨hb, hb', he⟩ := (utf8Continuation_iff (by omega)).mp hb
    obtain ⟨hc, hc', he'⟩ := (utf8Continuation_iff (by omega)).mp hc
    have hle := htwo rfl
    rw [if_neg (by omega), if_neg (by omega), if_pos (by omega)]
    simp only [List.cons.injEq, and_true, ← UInt8.toNat_inj, UInt8.toNat_ofNat']
    omega
  · obtain ⟨b, c, d, rfl⟩ := List.length_eq_three.mp hlength
    simp only [List.foldlM_cons, List.foldlM_nil, Option.bind_eq_bind, Option.bind_eq_some_iff,
      pure, Option.some.injEq, exists_eq_right] at hfold
    obtain ⟨second, hb, third, hc, hd⟩ := hfold
    obtain ⟨hb, hb', he⟩ := (utf8Continuation_iff (by omega)).mp hb
    obtain ⟨hc, hc', he'⟩ := (utf8Continuation_iff (by omega)).mp hc
    obtain ⟨hd, hd', he''⟩ := (utf8Continuation_iff (by omega)).mp hd
    have hle := hthree rfl
    rw [if_neg (by omega), if_neg (by omega), if_neg (by omega)]
    simp only [List.cons.injEq, and_true, ← UInt8.toNat_inj, UInt8.toNat_ofNat']
    omega

private theorem toNat_byte {n : ℕ} (h : n < 256) : (UInt8.ofNat n).toNat = n := by
  rw [UInt8.toNat_ofNat', Nat.mod_eq_of_lt h]

private theorem toNat_codePoint {n : ℕ} (h : n < 2 ^ 21) : (UInt32.ofNat n).toNat = n := by
  rw [UInt32.toNat_ofNat', Nat.mod_eq_of_lt (by omega)]

theorem utf8Continuation_encode {n : ℕ} (h : n < 2 ^ 21) :
    utf8Continuation (UInt32.ofNat (n / 64)) (UInt8.ofNat (n % 64 + 128)) =
      some (UInt32.ofNat n) := by
  have hhigh := toNat_codePoint (n := n / 64) (by omega)
  rw [utf8Continuation_iff (by omega), hhigh, toNat_byte (by omega), toNat_codePoint h]
  omega

private theorem utf8EncodeChar_eq (c : Char) : String.utf8EncodeChar c =
    if c.toNat ≤ 0x7f then [UInt8.ofNat c.toNat]
    else if c.toNat ≤ 0x7ff then
      [UInt8.ofNat (c.toNat / 64 % 32 + 192), UInt8.ofNat (c.toNat % 64 + 128)]
    else if c.toNat ≤ 0xffff then
      [UInt8.ofNat (c.toNat / 4096 % 16 + 224), UInt8.ofNat (c.toNat / 64 % 64 + 128),
        UInt8.ofNat (c.toNat % 64 + 128)]
    else
      [UInt8.ofNat (c.toNat / 262144 % 8 + 240), UInt8.ofNat (c.toNat / 4096 % 64 + 128),
        UInt8.ofNat (c.toNat / 64 % 64 + 128), UInt8.ofNat (c.toNat % 64 + 128)] := rfl

/-- The encoding of a character is what a pass accepts. -/
theorem utf8Pass_encode (c : Char) : Utf8Pass (String.utf8EncodeChar c) := by
  have hscalar : c.toNat.isValidChar := c.valid
  have hval : UInt32.ofNat c.toNat = c.val := UInt32.ofNat_toNat
  have hle : c.val.toNat = c.toNat := rfl
  have hlt : c.toNat < 2 ^ 21 := by
    rcases hscalar with h | h <;> omega
  have hlast := utf8Continuation_encode hlt
  have hmiddle := utf8Continuation_encode (n := c.toNat / 64) (by omega)
  have hsecond := utf8Continuation_encode (n := c.toNat / 4096) (by omega)
  rw [hval] at hlast
  rw [Nat.div_div_eq_div_mul] at hmiddle hsecond
  rw [utf8EncodeChar_eq]
  split_ifs with h1 h2 h3
  · refine ⟨_, [], 0, UInt32.ofNat c.toNat, c.val, rfl, ?_, rfl, ?_, ?_⟩
    · rw [utf8Lead_iff, toNat_byte (by omega), toNat_codePoint hlt]
      omega
    · rw [List.foldlM_nil, hval]
      rfl
    · exact utf8Rejected_eq_false.mpr ⟨by omega, by omega, hscalar⟩
  · refine ⟨_, _, 1, UInt32.ofNat (c.toNat / 64), c.val, rfl, ?_, rfl, ?_, ?_⟩
    · rw [utf8Lead_iff, toNat_byte (by omega), toNat_codePoint (by omega)]
      omega
    · rw [List.foldlM_cons, hlast]
      rfl
    · exact utf8Rejected_eq_false.mpr ⟨by omega, by omega, hscalar⟩
  · refine ⟨_, _, 2, UInt32.ofNat (c.toNat / 4096), c.val, rfl, ?_, rfl, ?_, ?_⟩
    · rw [utf8Lead_iff, toNat_byte (by omega), toNat_codePoint (by omega)]
      omega
    · rw [List.foldlM_cons, hmiddle, Option.bind_eq_bind, Option.bind_some, List.foldlM_cons, hlast]
      rfl
    · exact utf8Rejected_eq_false.mpr ⟨by omega, by omega, hscalar⟩
  · refine ⟨_, _, 3, UInt32.ofNat (c.toNat / 262144), c.val, rfl, ?_, rfl, ?_, ?_⟩
    · rw [utf8Lead_iff, toNat_byte (by omega), toNat_codePoint (by omega)]
      omega
    · rw [List.foldlM_cons, hsecond, Option.bind_eq_bind, Option.bind_some, List.foldlM_cons,
        hmiddle, Option.bind_eq_bind, Option.bind_some, List.foldlM_cons, hlast]
      rfl
    · exact utf8Rejected_eq_false.mpr ⟨by omega, by omega, hscalar⟩

theorem utf8Pass_iff {bytes : List UInt8} :
    Utf8Pass bytes ↔ ∃ c : Char, bytes = String.utf8EncodeChar c := by
  constructor
  · exact Utf8Pass.encoded
  · rintro ⟨c, rfl⟩
    exact utf8Pass_encode c

variable {text : List UInt8} {passes index : ℕ}

/-- One pass takes the encoding of a character and goes on after it. -/
theorem utf8Loop_succ (h : index < text.length) :
    utf8Loop text (passes + 1) index = true ↔
      ∃ bytes, Utf8Pass bytes ∧ bytes <+: text.drop index ∧
        utf8Loop text passes (index + bytes.length) = true := by
  have hdrop : text.drop index = text[index] :: text.drop (index + 1) :=
    List.drop_eq_getElem_cons h
  have hlength : (text.drop (index + 1)).length = text.length - (index + 1) := List.length_drop
  rw [utf8Loop, if_pos h, List.getD_eq_getElem _ _ h, hdrop]
  constructor
  · intro hloop
    cases hlead : utf8Lead text[index] with
    | none => simp [hlead] at hloop
    | some announced =>
      obtain ⟨continuationCount, first⟩ := announced
      simp only [hlead] at hloop
      split_ifs at hloop with hshort
      cases hfold : ((text.drop (index + 1)).take continuationCount).foldlM utf8Continuation first
        with
      | none => simp [hfold] at hloop
      | some codePoint =>
        simp only [hfold] at hloop
        split_ifs at hloop with hrejected
        have htail : ((text.drop (index + 1)).take continuationCount).length =
            continuationCount := by
          rw [List.length_take, hlength]
          omega
        refine ⟨text[index] :: (text.drop (index + 1)).take continuationCount,
          ⟨_, _, continuationCount, first, codePoint, rfl, hlead, htail, hfold,
            by simpa using hrejected⟩, ?_, ?_⟩
        · exact (List.prefix_cons_inj _).mpr (List.take_prefix _ _)
        · rw [List.length_cons, htail]
          exact hloop
  · rintro ⟨bytes, ⟨lead, tail, continuationCount, first, codePoint, rfl, hlead, htail, hfold,
      hkept⟩, hprefix, hloop⟩
    obtain ⟨rfl, htailPrefix⟩ := List.cons_prefix_cons.mp hprefix
    have hle := htailPrefix.length_le
    have htake : (text.drop (index + 1)).take continuationCount = tail := by
      rw [← htail]
      exact (List.prefix_iff_eq_take.mp htailPrefix).symm
    simp only [hlead, htake, hfold, hkept]
    rw [if_neg (by omega)]
    simpa [htail, Nat.add_assoc] using hloop

/-- From a position, the loop accepts the sequences of encoded characters. -/
theorem utf8Loop_iff (hindex : index ≤ text.length) (hpasses : text.length ≤ index + passes) :
    utf8Loop text passes index = true ↔
      ∃ characters : List Char, text.drop index = characters.flatMap String.utf8EncodeChar := by
  induction passes generalizing index with
  | zero =>
    have hend : text.length ≤ index := by omega
    simp only [utf8Loop, hend, decide_true, true_iff]
    exact ⟨[], List.drop_eq_nil_of_le hend⟩
  | succ passes ih =>
    by_cases hlt : index < text.length
    · rw [utf8Loop_succ hlt]
      constructor
      · rintro ⟨bytes, hpass, ⟨rest, hrest⟩, hloop⟩
        obtain ⟨c, rfl⟩ := hpass.encoded
        have hlen := congrArg List.length hrest
        have hpos := c.utf8Size_pos
        simp only [List.length_append, List.length_drop, String.length_utf8EncodeChar] at hlen hloop
        obtain ⟨characters, hcharacters⟩ := (ih (by omega) (by omega)).mp hloop
        refine ⟨c :: characters, ?_⟩
        rw [List.flatMap_cons, ← hcharacters, ← List.drop_drop, ← hrest,
          ← String.length_utf8EncodeChar, List.drop_left]
      · rintro ⟨characters, hcharacters⟩
        cases characters with
        | nil =>
          have hlen := congrArg List.length hcharacters
          simp only [List.length_drop, List.flatMap_nil, List.length_nil] at hlen
          omega
        | cons c characters =>
          rw [List.flatMap_cons] at hcharacters
          have hlen := congrArg List.length hcharacters
          have hpos := c.utf8Size_pos
          simp only [List.length_append, List.length_drop, String.length_utf8EncodeChar] at hlen
          refine ⟨_, utf8Pass_encode c, ⟨_, hcharacters.symm⟩, ?_⟩
          rw [String.length_utf8EncodeChar, ih (by omega) (by omega)]
          refine ⟨characters, ?_⟩
          rw [← List.drop_drop, hcharacters, ← String.length_utf8EncodeChar, List.drop_left]
    · rw [utf8Loop, if_neg hlt]
      simp only [true_iff]
      exact ⟨[], List.drop_eq_nil_of_le (by omega)⟩

/-- The bytes after the lead, read one by one; `none` is a read outside the text. -/
def utf8Tail (text : List UInt8) : ℕ → ℕ → UInt32 → Option (Option UInt32)
  | 0, _, codePoint => some (some codePoint)
  | remaining + 1, position, codePoint => do
    let byte ← text[position]?
    match utf8Continuation codePoint byte with
    | none => return none
    | some codePoint => utf8Tail text remaining (position + 1) codePoint

/-- The loop on these reads; `none` also where its condition still has to be tested after `passes`
tests. -/
def utf8Checked (text : List UInt8) : ℕ → ℕ → Option Bool
  | 0, _ => none
  | passes + 1, index =>
    if index < text.length then do
      let lead ← text[index]?
      match utf8Lead lead with
      | none => return false
      | some (continuationCount, first) =>
        if text.length ≤ index + continuationCount then return false
        else do
          match ← utf8Tail text continuationCount (index + 1) first with
          | none => return false
          | some codePoint =>
            if utf8Rejected continuationCount codePoint then return false
            else utf8Checked text passes (index + continuationCount + 1)
    else return true

theorem utf8Tail_eq {remaining position : ℕ} {codePoint : UInt32}
    (h : position + remaining ≤ text.length) :
    utf8Tail text remaining position codePoint =
      some (((text.drop position).take remaining).foldlM utf8Continuation codePoint) := by
  induction remaining generalizing position codePoint with
  | zero => simp [utf8Tail]
  | succ remaining ih =>
    have hlt : position < text.length := by omega
    rw [utf8Tail, List.getElem?_eq_getElem hlt, List.drop_eq_getElem_cons hlt, List.take_succ_cons,
      List.foldlM_cons]
    simp only [Option.bind_eq_bind, Option.bind_some]
    cases utf8Continuation codePoint text[position] with
    | none => rfl
    | some next => simpa using ih (by omega)

/-- The loop ends and reads only bytes of the text. -/
theorem utf8Checked_eq (hpasses : text.length ≤ index + passes) :
    utf8Checked text (passes + 1) index = some (utf8Loop text passes index) := by
  induction passes generalizing index with
  | zero =>
    rw [utf8Checked, if_neg (by omega), utf8Loop]
    simp [show text.length ≤ index by omega]
  | succ passes ih =>
    rw [utf8Checked, utf8Loop]
    by_cases hlt : index < text.length
    · rw [if_pos hlt, if_pos hlt, List.getElem?_eq_getElem hlt, List.getD_eq_getElem _ _ hlt]
      simp only [Option.bind_eq_bind, Option.bind_some]
      cases hlead : utf8Lead text[index] with
      | none => rfl
      | some announced =>
        obtain ⟨continuationCount, first⟩ := announced
        dsimp only
        split_ifs with hshort
        · rfl
        · rw [utf8Tail_eq (by omega), Option.bind_some]
          cases ((text.drop (index + 1)).take continuationCount).foldlM utf8Continuation first with
          | none => rfl
          | some codePoint =>
            dsimp only
            split_ifs with hrejected
            · rfl
            · exact ih (by omega)
    · rw [if_neg hlt, if_neg hlt]
      rfl

theorem isValidUtf8_iff : isValidUtf8 text = true ↔
    ∃ characters : List Char, text = characters.flatMap String.utf8EncodeChar := by
  have hloop : utf8Loop text text.length 0 = true ↔ ∃ characters : List Char,
      text.drop 0 = characters.flatMap String.utf8EncodeChar :=
    utf8Loop_iff (Nat.zero_le _) (Nat.le_add_left _ _)
  rwa [List.drop_zero] at hloop

/-- The validation ends without a read outside the text, accepts exactly the encoded sequences of
scalar values, and decides which nonempty texts name a frame. -/
theorem isValidUtf8_exact (text : List UInt8) :
    utf8Checked text (text.length + 1) 0 = some (isValidUtf8 text) ∧
    (isValidUtf8 text = true ↔
      ∃ characters : List Char, text = characters.flatMap String.utf8EncodeChar) ∧
    ((∃ frame, FrameId.create text = .ok frame) ↔
      text ≠ [] ∧ ∃ characters : List Char, text = characters.flatMap String.utf8EncodeChar) := by
  refine ⟨utf8Checked_eq (Nat.le_add_left _ _), isValidUtf8_iff, ?_⟩
  rw [← isValidUtf8_iff]
  constructor
  · rintro ⟨frame, hframe⟩
    rw [← FrameId.eq_of_create hframe]
    exact ⟨frame.nonempty, frame.utf8⟩
  · rintro ⟨hne, hutf8⟩
    exact ⟨⟨text, hne, hutf8⟩, FrameId.create_value ⟨text, hne, hutf8⟩⟩

end PointcloudAd
