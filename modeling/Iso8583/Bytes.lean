/-!
# Bytes

Byte strings, the words of fixed width written in them, and their hexadecimal text.
-/

namespace Iso8583

/-- A byte string. -/
abbrev Bytes := List UInt8

namespace Bytes

/-- Whether there are fewer than `n` bytes. No more than `n` of them are looked at. -/
def isShorter : (n : Nat) → Bytes → Bool
  | 0, _ => false
  | _ + 1, [] => true
  | n + 1, _ :: bytes => isShorter n bytes

/-! ## Words -/

/-- The low `width` bytes of `n`, the most significant first. -/
def bigEndian : (width n : Nat) → Bytes
  | 0, _ => []
  | width + 1, n => bigEndian width (n / 256) ++ [UInt8.ofNat n]

/-- The low `width` bytes of `n`, the least significant first. -/
def littleEndian : (width n : Nat) → Bytes
  | 0, _ => []
  | width + 1, n => UInt8.ofNat n :: littleEndian width (n / 256)

/-- The number whose digits to base 256 are `bytes`, the most significant first. -/
def ofBigEndian (bytes : Bytes) : Nat :=
  bytes.foldl (fun n b => n * 256 + b.toNat) 0

/-- The number whose digits to base 256 are `bytes`, the least significant first. -/
def ofLittleEndian (bytes : Bytes) : Nat :=
  bytes.foldr (fun b n => b.toNat + 256 * n) 0

/-! ## Text -/

def ofText (text : String) : Bytes :=
  text.toByteArray.data.toList

/-- The text whose UTF-8 form is `bytes`, if there is one. -/
def toText? (bytes : Bytes) : Option String :=
  String.fromUTF8? ⟨bytes.toArray⟩

/-! ## Hexadecimal -/

/-- The lower-case hexadecimal digit of a number below sixteen. -/
def hexDigit (n : Nat) : Char :=
  if n < 10 then Char.ofNat (48 + n) else Char.ofNat (87 + n)

def hex (bytes : Bytes) : String :=
  String.ofList (bytes.flatMap fun b => [hexDigit (b.toNat / 16), hexDigit (b.toNat % 16)])

def hexWord (word : UInt32) : String :=
  hex (bigEndian 4 word.toNat)

/-- The number that a lower-case hexadecimal digit stands for. -/
def hexDigitValue (c : Char) : Nat :=
  if c.isDigit then c.toNat - 48 else c.toNat - 87

/-- The bytes that pairs of hexadecimal digits stand for. -/
def ofHexDigits : List Char → Bytes
  | high :: low :: rest =>
    UInt8.ofNat (hexDigitValue high * 16 + hexDigitValue low) :: ofHexDigits rest
  | _ => []

/-- The bytes that a lower-case hexadecimal text of even length spells. -/
def ofHex (text : String) : Bytes :=
  ofHexDigits text.toList

/-! ## Facts -/

theorem isShorter_iff {n : Nat} {bytes : Bytes} : isShorter n bytes = true ↔ bytes.length < n := by
  fun_induction isShorter n bytes <;> simp_all

theorem length_bigEndian (width n : Nat) : (bigEndian width n).length = width := by
  induction width generalizing n with
  | zero => rfl
  | succ width ih => simp [bigEndian, ih]

theorem length_littleEndian (width n : Nat) : (littleEndian width n).length = width := by
  induction width generalizing n with
  | zero => rfl
  | succ width ih => simp [littleEndian, ih]

theorem ofBigEndian_concat (bytes : Bytes) (b : UInt8) :
    ofBigEndian (bytes ++ [b]) = ofBigEndian bytes * 256 + b.toNat := by
  simp [ofBigEndian]

theorem toText?_ofText (text : String) : toText? (ofText text) = some text := by
  unfold toText? ofText
  have same : (⟨text.toByteArray.data.toList.toArray⟩ : ByteArray) = text.toByteArray := by simp
  rw [same, String.fromUTF8?]
  simp [text.isValidUTF8, String.fromUTF8]

theorem ofText_of_toText? {bytes : Bytes} {text : String} (h : toText? bytes = some text) :
    ofText text = bytes := by
  unfold toText? String.fromUTF8? at h
  split at h
  · cases h
    rfl
  · cases h

end Bytes

end Iso8583
