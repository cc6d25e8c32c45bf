import Iso8583.Checksum
import Iso8583.Proofs.Codec.Words

/-!
# What a remainder remembers

Feeding a bit is linear over exclusive or and loses nothing: the bit that is shifted out comes back as the
highest bit of the polynomial. Four bytes fill the remainder, so payloads that differ in no more than four
bytes next to each other never have the same checksum.
-/

namespace Iso8583

namespace Checksum

/-! ## Shifting is linear -/

/-- Shifts a whole byte out. -/
def shiftByte (remainder : UInt32) : UInt32 :=
  shiftBit <| shiftBit <| shiftBit <| shiftBit <| shiftBit <| shiftBit <| shiftBit <| shiftBit remainder

theorem feed_eq_shiftByte (remainder : UInt32) (byte : UInt8) :
    feed remainder byte = shiftByte (remainder ^^^ byte.toUInt32) := rfl

theorem low_bit_iff (remainder : UInt32) : remainder &&& 1 = 1 ↔ remainder.toNat % 2 = 1 := by
  rw [← UInt32.toNat_inj, UInt32.toNat_and]
  change remainder.toNat &&& 1 = 1 ↔ _
  rw [Nat.and_one_is_mod]

theorem toNat_half (remainder : UInt32) : (remainder >>> 1).toNat = remainder.toNat / 2 := by
  rw [UInt32.toNat_shiftRight]
  change remainder.toNat >>> 1 = _
  rw [Nat.shiftRight_succ, Nat.shiftRight_zero]

theorem shiftBit_xor (a b : UInt32) : shiftBit (a ^^^ b) = shiftBit a ^^^ shiftBit b := by
  have both : (a ^^^ b).toNat % 2 = 1 ↔ ¬(a.toNat % 2 = 1 ↔ b.toNat % 2 = 1) := by
    rw [UInt32.toNat_xor]
    exact Nat.xor_mod_two_eq_one
  unfold shiftBit
  simp only [low_bit_iff, both, UInt32.shiftRight_xor]
  by_cases first : a.toNat % 2 = 1 <;> by_cases second : b.toNat % 2 = 1
  · have twice : a >>> 1 ^^^ polynomial ^^^ (b >>> 1 ^^^ polynomial) =
        a >>> 1 ^^^ b >>> 1 ^^^ (polynomial ^^^ polynomial) := by ac_rfl
    rw [if_neg (by simp [first, second]), if_pos first, if_pos second, twice, UInt32.xor_self,
      UInt32.xor_zero]
  · rw [if_pos (by simp [first, second]), if_pos first, if_neg second]
    ac_rfl
  · rw [if_pos (by simp [first, second]), if_neg first, if_pos second]
    ac_rfl
  · rw [if_neg (by simp [first, second]), if_neg first, if_neg second]

theorem shiftByte_xor (a b : UInt32) : shiftByte (a ^^^ b) = shiftByte a ^^^ shiftByte b := by
  simp only [shiftByte, shiftBit_xor]

theorem toNat_shiftBit {remainder : UInt32} {half : Nat} (even : remainder.toNat = 2 * half) :
    (shiftBit remainder).toNat = half := by
  have low : ¬remainder &&& 1 = 1 := by
    rw [low_bit_iff]
    omega
  unfold shiftBit
  rw [if_neg low, toNat_half]
  omega

theorem shiftByte_of_high (remainder : UInt32) :
    shiftByte ((remainder >>> 8) <<< 8) = remainder >>> 8 := by
  have size : (remainder >>> 8).toNat < 2 ^ 24 := by
    have := remainder.toNat_lt
    rw [UInt32.toNat_shiftRight]
    change remainder.toNat >>> 8 < 2 ^ 24
    rw [Nat.shiftRight_eq_div_pow]
    omega
  have whole : ((remainder >>> 8) <<< 8).toNat =
      2 * (2 * (2 * (2 * (2 * (2 * (2 * (2 * (remainder >>> 8).toNat))))))) := by
    rw [UInt32.toNat_shiftLeft]
    change ((remainder >>> 8).toNat <<< 8) % 2 ^ 32 = _
    rw [Nat.shiftLeft_eq]
    omega
  apply UInt32.toNat_inj.1
  unfold shiftByte
  iterate 8 refine toNat_shiftBit ?_
  exact whole

theorem xor_toUInt32 (remainder : UInt32) (byte : UInt8) :
    remainder ^^^ byte.toUInt32 =
      (remainder.toUInt8 ^^^ byte).toUInt32 ^^^ ((remainder >>> 8) <<< 8) := by
  apply UInt32.toBitVec_inj.1
  apply BitVec.eq_of_getLsbD_eq
  intro i inside
  change (remainder.toBitVec ^^^ byte.toBitVec.setWidth 32).getLsbD i =
    ((remainder.toBitVec.setWidth 8 ^^^ byte.toBitVec).setWidth 32 ^^^
      ((remainder.toBitVec >>> 8) <<< 8)).getLsbD i
  simp only [BitVec.getLsbD_xor, BitVec.getLsbD_setWidth, BitVec.getLsbD_shiftLeft,
    BitVec.getLsbD_ushiftRight, inside, decide_true, Bool.true_and]
  by_cases low : i < 8
  · simp [low]
  · have same : 8 + (i - 8) = i := by omega
    simp [low, same, Bool.xor_comm]

/-! ## Nothing is lost -/

/-- The polynomial sets the highest bit, which is free after a shift. -/
theorem eq_zero_of_shiftBit {remainder : UInt32} (gone : shiftBit remainder = 0) : remainder = 0 := by
  have half := toNat_half remainder
  have bound := remainder.toNat_lt
  unfold shiftBit at gone
  split at gone
  · have high := congrArg UInt32.toNat (UInt32.xor_eq_zero_iff.1 gone)
    have value : polynomial.toNat = 2197175160 := rfl
    omega
  · rename_i even
    rw [low_bit_iff] at even
    have none := congrArg UInt32.toNat gone
    apply UInt32.toNat_inj.1
    change (remainder >>> 1).toNat = 0 at none
    change remainder.toNat = 0
    omega

theorem shiftBit_inj {a b : UInt32} (same : shiftBit a = shiftBit b) : a = b := by
  apply UInt32.xor_eq_zero_iff.1
  apply eq_zero_of_shiftBit
  rw [shiftBit_xor, same, UInt32.xor_self]

theorem shiftByte_inj {a b : UInt32} (same : shiftByte a = shiftByte b) : a = b := by
  unfold shiftByte at same
  iterate 8 replace same := shiftBit_inj same
  exact same

theorem foldl_feed_inj (bytes : Bytes) {a b : UInt32} (same : bytes.foldl feed a = bytes.foldl feed b) :
    a = b := by
  induction bytes generalizing a b with
  | nil => exact same
  | cons byte bytes ih =>
    have fed : feed a byte = feed b byte := ih same
    rw [feed_eq_shiftByte, feed_eq_shiftByte] at fed
    exact (UInt32.xor_left_inj _).1 (shiftByte_inj fed)

/-! ## Four bytes fill the remainder -/

/-- The word that a few bytes make, the first one lowest. -/
def word (bytes : Bytes) : UInt32 := UInt32.ofNat (Bytes.ofLittleEndian bytes)

theorem toNat_word {bytes : Bytes} (short : bytes.length ≤ 4) :
    (word bytes).toNat = Bytes.ofLittleEndian bytes := by
  have bound := Bytes.ofLittleEndian_lt bytes
  have fits : 256 ^ bytes.length ≤ 256 ^ 4 := Nat.pow_le_pow_right (by decide) short
  unfold word
  rw [UInt32.toNat_ofNat']
  exact Nat.mod_eq_of_lt (by omega)

theorem word_inj {first second : Bytes} (sameLength : first.length = second.length)
    (short : first.length ≤ 4) (same : word first = word second) : first = second := by
  have number := congrArg UInt32.toNat same
  rw [toNat_word short, toNat_word (sameLength ▸ short)] at number
  rw [← Bytes.littleEndian_ofLittleEndian first, ← Bytes.littleEndian_ofLittleEndian second,
    sameLength, number]

/-- Feeding the lowest byte of a word shifts the other bytes to where they are fed next. -/
theorem feed_xor_word (remainder : UInt32) (byte : UInt8) {bytes : Bytes} (short : bytes.length ≤ 3) :
    feed remainder byte ^^^ word bytes = shiftByte (remainder ^^^ word (byte :: bytes)) := by
  have whole : (word (byte :: bytes)).toNat = byte.toNat + 256 * Bytes.ofLittleEndian bytes :=
    toNat_word (by simp; omega)
  have low := byte.toNat_lt
  have lowest : (word (byte :: bytes)).toUInt8 = byte := by
    apply UInt8.toNat_inj.1
    rw [UInt32.toNat_toUInt8, whole]
    omega
  have others : word (byte :: bytes) >>> 8 = word bytes := by
    apply UInt32.toNat_inj.1
    rw [toNat_word (by omega), UInt32.toNat_shiftRight, whole]
    change (byte.toNat + 256 * Bytes.ofLittleEndian bytes) >>> 8 = _
    rw [Nat.shiftRight_eq_div_pow]
    omega
  have parts : word (byte :: bytes) = byte.toUInt32 ^^^ (word bytes <<< 8) := by
    have split := xor_toUInt32 (word (byte :: bytes)) 0
    rw [lowest, others] at split
    simpa using split
  have out := shiftByte_of_high (word (byte :: bytes))
  rw [others] at out
  rw [parts, ← UInt32.xor_assoc, shiftByte_xor, out, feed_eq_shiftByte]

theorem xor_word_of_foldl_feed {first second : Bytes} (sameLength : first.length = second.length)
    (short : first.length ≤ 4) {a b : UInt32} (same : first.foldl feed a = second.foldl feed b) :
    a ^^^ word first = b ^^^ word second := by
  induction first generalizing second a b with
  | nil =>
    rw [List.eq_nil_of_length_eq_zero sameLength.symm] at same ⊢
    rw [show a = b from same]
  | cons byte bytes ih =>
    cases second with
    | nil => cases sameLength
    | cons other others =>
      simp only [List.length_cons] at sameLength short
      have fed : bytes.foldl feed (feed a byte) = others.foldl feed (feed b other) := same
      have rest := ih (by omega) (by omega) fed
      rw [feed_xor_word a byte (by omega), feed_xor_word b other (by omega)] at rest
      exact shiftByte_inj rest

end Checksum

/-- Of payloads that differ in at most four bytes next to each other, no two have the same checksum. -/
theorem eq_of_crc32c_eq {front back first second : Bytes} (sameLength : first.length = second.length)
    (short : first.length ≤ 4)
    (same : crc32c (front ++ first ++ back) = crc32c (front ++ second ++ back)) : first = second := by
  unfold crc32c at same
  have remainders := (UInt32.xor_left_inj _).1 same
  simp only [List.foldl_append] at remainders
  have before := Checksum.foldl_feed_inj back remainders
  have words := Checksum.xor_word_of_foldl_feed sameLength short before
  exact Checksum.word_inj sameLength short ((UInt32.xor_right_inj _).1 words)

end Iso8583
