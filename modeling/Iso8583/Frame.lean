import Iso8583.Checksum

/-!
# Frames

A frame carries one payload: four bytes of total length and four bytes of checksum, both with the
least significant byte first, then the payload. The length counts the header too; the checksum is
the CRC-32C of the payload.
-/

namespace Iso8583

def headerSize : Nat := 8

def maxPayload : Nat := 1048576

/-- What is wrong with the bytes of a frame. -/
inductive FrameError where
  | insufficientData (needed present : Nat)
  | checksumMismatch (expected actual : UInt32) (length : Nat)
  | frameTooLarge (size : Nat)
  | invalidLength (length : UInt32)
  deriving DecidableEq, Repr

namespace FrameError

def message : FrameError → String
  | insufficientData needed present =>
    "insufficient data: need " ++ toString needed ++ " bytes, have " ++ toString present
  | checksumMismatch expected actual _ =>
    "checksum mismatch: expected 0x" ++ Bytes.hexWord expected ++ ", got 0x" ++ Bytes.hexWord actual
  | frameTooLarge size =>
    "frame too large: " ++ toString size ++ " bytes (max " ++ toString maxPayload ++ ")"
  | invalidLength length => "invalid frame length: " ++ toString length.toNat

/-- Whether the frame's end is known, so that reading can go on behind it. -/
def isRecoverable : FrameError → Bool
  | checksumMismatch .. => true
  | _ => false

end FrameError

/-! ## Header -/

/-- The first eight bytes of a frame. -/
structure FrameHeader where
  length : UInt32
  checksum : UInt32
  deriving DecidableEq, Repr

namespace FrameHeader

def toBytes (header : FrameHeader) : Bytes :=
  Bytes.littleEndian 4 header.length.toNat ++ Bytes.littleEndian 4 header.checksum.toNat

/-- Reads a header and checks the length it announces. -/
def ofBytes (bytes : Bytes) : Except FrameError FrameHeader :=
  if Bytes.isShorter headerSize bytes then .error (.insufficientData headerSize bytes.length)
  else
    let length := Bytes.ofLittleEndian (bytes.take 4)
    let checksum := Bytes.ofLittleEndian ((bytes.drop 4).take 4)
    if length < headerSize then .error (.invalidLength (UInt32.ofNat length))
    else if maxPayload < length - headerSize then .error (.frameTooLarge (length - headerSize))
    else .ok ⟨UInt32.ofNat length, UInt32.ofNat checksum⟩

theorem length_of_ofBytes {bytes : Bytes} {header : FrameHeader} (h : ofBytes bytes = .ok header) :
    headerSize ≤ header.length.toNat ∧ header.length.toNat ≤ headerSize + maxPayload := by
  simp only [ofBytes] at h
  split at h
  · cases h
  · split at h
    · cases h
    · split at h
      · cases h
      · rename_i notShort notLong
        cases h
        simp only [headerSize, maxPayload, UInt32.toNat_ofNat'] at notShort notLong ⊢
        omega

theorem ofBytes_ne_mismatch (bytes : Bytes) (expected actual : UInt32) (length : Nat) :
    ofBytes bytes ≠ .error (.checksumMismatch expected actual length) := by
  simp only [ofBytes]
  split
  · simp
  · split
    · simp
    · split <;> simp

theorem ofBytes_take {bytes : Bytes} (long : headerSize ≤ bytes.length) :
    ofBytes (bytes.take headerSize) = ofBytes bytes := by
  simp only [headerSize] at long
  have same : (bytes.take 8).length = 8 := by simp; omega
  simp only [ofBytes, headerSize, List.take_take, List.drop_take, same]
  have : ¬bytes.length < 8 := by omega
  simp only [Bytes.isShorter_iff, same, this, if_false]
  rfl

/-- Writes the header over the first eight bytes of a longer string. -/
def writeInto (header : FrameHeader) (bytes : Bytes) : Bytes :=
  header.toBytes ++ bytes.drop headerSize

end FrameHeader

/-! ## Whole frames -/

def frame (payload : Bytes) : Except FrameError Bytes :=
  if maxPayload < payload.length then .error (.frameTooLarge payload.length)
  else
    let header : FrameHeader := ⟨UInt32.ofNat (headerSize + payload.length), crc32c payload⟩
    .ok (header.toBytes ++ payload)

/-- The payload of the frame that `bytes` start with, and the frame's length; nothing if the frame
is not complete yet. -/
def deframe (bytes : Bytes) : Except FrameError (Option (Bytes × Nat)) :=
  if Bytes.isShorter headerSize bytes then .ok none
  else match FrameHeader.ofBytes bytes with
    | .error e => .error e
    | .ok header =>
      let length := header.length.toNat
      if Bytes.isShorter length bytes then .ok none
      else
        let payload := (bytes.take length).drop headerSize
        let actual := crc32c payload
        if actual = header.checksum then .ok (some (payload, length))
        else .error (.checksumMismatch header.checksum actual length)

theorem deframe_bounds {bytes payload : Bytes} {length : Nat}
    (h : deframe bytes = .ok (some (payload, length))) :
    headerSize ≤ length ∧ length ≤ bytes.length := by
  simp only [deframe, Bytes.isShorter_iff] at h
  split at h
  · cases h
  · split at h
    · cases h
    · rename_i header read
      split at h
      · cases h
      · split at h
        · cases h
          exact ⟨(FrameHeader.length_of_ofBytes read).1, by omega⟩
        · cases h

theorem deframe_mismatch_bounds {bytes : Bytes} {expected actual : UInt32} {length : Nat}
    (h : deframe bytes = .error (.checksumMismatch expected actual length)) :
    headerSize ≤ length ∧ length ≤ bytes.length := by
  simp only [deframe, Bytes.isShorter_iff] at h
  split at h
  · cases h
  · split at h
    · rename_i error read
      cases h
      exact absurd read (FrameHeader.ofBytes_ne_mismatch _ _ _ _)
    · rename_i header read
      split at h
      · cases h
      · split at h
        · cases h
        · cases h
          exact ⟨(FrameHeader.length_of_ofBytes read).1, by omega⟩

end Iso8583
