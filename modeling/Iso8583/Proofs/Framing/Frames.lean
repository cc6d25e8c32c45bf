import Iso8583.Proofs.Codec.Words
import Iso8583.Proofs.Framing.Splits

/-!
# Frames are told apart

A frame whose header states some checksum, right or wrong, is an envelope. What stands in front of a stream
is read as an envelope exactly if it is one, and a part of an envelope is read as nothing yet. So the frames
that are read are exactly those that are made, and a stream starts with one of them at most.
-/

namespace Iso8583

/-! ## Headers -/

namespace FrameHeader

theorem length_toBytes (header : FrameHeader) : header.toBytes.length = headerSize := by
  unfold toBytes headerSize
  simp only [List.length_append, Bytes.length_littleEndian]

theorem ofBytes_toBytes {header : FrameHeader} (least : headerSize ≤ header.length.toNat)
    (most : header.length.toNat ≤ headerSize + maxPayload) (more : Bytes) :
    ofBytes (header.toBytes ++ more) = .ok header := by
  have lengthFits : header.length.toNat < 256 ^ 4 := header.length.toNat_lt
  have checksumFits : header.checksum.toNat < 256 ^ 4 := header.checksum.toNat_lt
  have first := Bytes.length_littleEndian 4 header.length.toNat
  have second := Bytes.length_littleEndian 4 header.checksum.toNat
  have front : (header.toBytes ++ more).take 4 = Bytes.littleEndian 4 header.length.toNat := by
    unfold toBytes
    rw [List.append_assoc, List.take_left' first]
  have behind : ((header.toBytes ++ more).drop 4).take 4 =
      Bytes.littleEndian 4 header.checksum.toNat := by
    unfold toBytes
    rw [List.append_assoc, List.drop_left' first, List.take_left' second]
  have long : ¬(header.toBytes ++ more).length < headerSize := by
    rw [List.length_append, length_toBytes]
    omega
  unfold ofBytes
  simp only [Bytes.isShorter_iff, front, behind, Bytes.ofLittleEndian_littleEndian,
    Nat.mod_eq_of_lt lengthFits, Nat.mod_eq_of_lt checksumFits]
  rw [if_neg long, if_neg (by omega), if_neg (by omega), UInt32.ofNat_toNat, UInt32.ofNat_toNat]

theorem littleEndian_word {bytes : Bytes} (four : bytes.length = 4) :
    Bytes.littleEndian 4 (UInt32.ofNat (Bytes.ofLittleEndian bytes)).toNat = bytes := by
  have fits : Bytes.ofLittleEndian bytes < 256 ^ 4 := four ▸ Bytes.ofLittleEndian_lt bytes
  have same : (UInt32.ofNat (Bytes.ofLittleEndian bytes)).toNat = Bytes.ofLittleEndian bytes := by
    rw [UInt32.toNat_ofNat']
    exact Nat.mod_eq_of_lt fits
  have back := Bytes.littleEndian_ofLittleEndian bytes
  rw [four] at back
  rw [same, back]

theorem toBytes_of_ofBytes {bytes : Bytes} {header : FrameHeader} (read : ofBytes bytes = .ok header) :
    header.toBytes = bytes.take headerSize := by
  unfold ofBytes at read
  simp only [Bytes.isShorter_iff] at read
  split at read
  · cases read
  rename_i long
  unfold headerSize at long
  split at read
  · cases read
  split at read
  · cases read
  cases read
  have front : (bytes.take 4).length = 4 := by simp; omega
  have behind : ((bytes.drop 4).take 4).length = 4 := by simp; omega
  unfold toBytes
  rw [littleEndian_word front, littleEndian_word behind]
  exact List.take_add.symm

end FrameHeader

/-! ## Envelopes -/

/-- A payload that a frame can carry, with the checksum that the frame's header states. -/
structure Envelope where
  payload : Bytes
  checksum : UInt32
  short : payload.length ≤ maxPayload

namespace Envelope

def header (envelope : Envelope) : FrameHeader :=
  ⟨UInt32.ofNat (headerSize + envelope.payload.length), envelope.checksum⟩

def bytes (envelope : Envelope) : Bytes := envelope.header.toBytes ++ envelope.payload

theorem length_bytes (envelope : Envelope) :
    envelope.bytes.length = headerSize + envelope.payload.length := by
  unfold bytes
  rw [List.length_append, FrameHeader.length_toBytes]

theorem toNat_length_header (envelope : Envelope) :
    envelope.header.length.toNat = headerSize + envelope.payload.length := by
  have short := envelope.short
  unfold header headerSize maxPayload at *
  rw [UInt32.toNat_ofNat']
  exact Nat.mod_eq_of_lt (by omega)

/-- What reading answers to a stream that starts with the envelope. -/
def reading (envelope : Envelope) : Except FrameError (Option (Bytes × Nat)) :=
  if crc32c envelope.payload = envelope.checksum then
    .ok (some (envelope.payload, envelope.bytes.length))
  else .error (.checksumMismatch envelope.checksum (crc32c envelope.payload) envelope.bytes.length)

theorem deframe_append (envelope : Envelope) (more : Bytes) :
    deframe (envelope.bytes ++ more) = envelope.reading := by
  have announced := envelope.toNat_length_header
  have short := envelope.short
  have headerLength := envelope.header.length_toBytes
  have read : FrameHeader.ofBytes (envelope.bytes ++ more) = .ok envelope.header := by
    unfold bytes
    rw [List.append_assoc]
    exact FrameHeader.ofBytes_toBytes (by omega) (by omega) _
  have cut : ((envelope.bytes ++ more).take (headerSize + envelope.payload.length)).drop headerSize =
      envelope.payload := by
    rw [List.take_left' envelope.length_bytes]
    exact List.drop_left' headerLength
  have long : ¬(envelope.bytes ++ more).length < headerSize + envelope.payload.length := by
    rw [List.length_append, length_bytes]
    omega
  unfold deframe reading
  simp only [Bytes.isShorter_iff, read, announced, cut, length_bytes]
  rw [if_neg (by omega), if_neg long]
  rfl

/-- As long as bytes are missing nothing is read: a decided reading is not changed by more bytes, and it
lies inside the bytes that there are. -/
theorem deframe_of_part {envelope : Envelope} {part : Bytes} (starts : part <+: envelope.bytes)
    (strict : part ≠ envelope.bytes) : deframe part = .ok none := by
  by_contra decided
  obtain ⟨missing, whole⟩ := starts
  have same := Iso8583.deframe_append decided missing
  have all := envelope.deframe_append []
  rw [List.append_nil, ← whole, same] at all
  have inside : envelope.bytes.length ≤ part.length := by
    unfold reading at all
    split at all
    · exact (deframe_bounds all).2
    · exact (deframe_mismatch_bounds all).2
  have nothing : missing.length = 0 := by
    rw [← whole, List.length_append] at inside
    omega
  rw [List.eq_nil_of_length_eq_zero nothing, List.append_nil] at whole
  exact strict whole

theorem exists_of_header {stream : Bytes} {stated : FrameHeader}
    (read : FrameHeader.ofBytes stream = .ok stated) (long : stated.length.toNat ≤ stream.length) :
    ∃ envelope : Envelope, envelope.bytes = stream.take stated.length.toNat := by
  have bounds := FrameHeader.length_of_ofBytes read
  have size : ((stream.take stated.length.toNat).drop headerSize).length + headerSize =
      stated.length.toNat := by
    rw [List.length_drop, List.length_take]
    omega
  let envelope : Envelope :=
    ⟨(stream.take stated.length.toNat).drop headerSize, stated.checksum, by omega⟩
  have same : envelope.header = stated := by
    unfold header
    rw [Nat.add_comm, size, UInt32.ofNat_toNat]
  have front : stream.take headerSize = (stream.take stated.length.toNat).take headerSize := by
    rw [List.take_take, Nat.min_eq_left bounds.1]
  refine ⟨envelope, ?_⟩
  unfold bytes
  rw [same, FrameHeader.toBytes_of_ofBytes read, front]
  exact List.take_append_drop headerSize _

theorem exists_of_decided {stream : Bytes} (decided : deframe stream ≠ .ok none)
    (passes : ∀ error, deframe stream = .error error → error.isRecoverable = true) :
    ∃ envelope : Envelope, envelope.bytes <+: stream := by
  unfold deframe at decided passes
  simp only [Bytes.isShorter_iff] at decided passes
  split at decided
  · exact absurd rfl decided
  rename_i behindHeader
  rw [if_neg behindHeader] at passes
  cases read : FrameHeader.ofBytes stream with
  | error error =>
    simp only [read] at passes
    have recoverable := passes error rfl
    cases error with
    | checksumMismatch expected actual length => exact absurd read (FrameHeader.ofBytes_ne_mismatch _ _ _ _)
    | _ => cases recoverable
  | ok stated =>
    simp only [read] at decided
    have long : stated.length.toNat ≤ stream.length := Nat.not_lt.1 fun short => decided (if_pos short)
    obtain ⟨envelope, whole⟩ := exists_of_header read long
    exact ⟨envelope, whole ▸ List.take_prefix _ stream⟩

theorem deframe_cases (stream : Bytes) :
    deframe stream = .ok none ∨ (∃ error, deframe stream = .error error ∧ error.isRecoverable = false) ∨
      ∃ (envelope : Envelope) (more : Bytes), envelope.bytes ++ more = stream := by
  by_cases undecided : deframe stream = .ok none
  · exact .inl undecided
  · by_cases fatal : ∃ error, deframe stream = .error error ∧ error.isRecoverable = false
    · exact .inr (.inl fatal)
    · have passes (error : FrameError) (found : deframe stream = .error error) : error.isRecoverable = true := by
        by_contra refused
        exact fatal ⟨error, found, by simpa using refused⟩
      exact .inr (.inr (exists_of_decided undecided passes))

theorem exists_of_deframe {stream payload : Bytes} {length : Nat}
    (found : deframe stream = .ok (some (payload, length))) :
    ∃ envelope : Envelope, envelope.bytes <+: stream ∧ envelope.payload = payload ∧
      envelope.checksum = crc32c payload ∧ envelope.bytes.length = length := by
  obtain ⟨envelope, starts⟩ := exists_of_decided (by rw [found]; simp) (by simp [found])
  obtain ⟨more, whole⟩ := starts
  have read := envelope.deframe_append more
  rw [whole, found] at read
  unfold reading at read
  split at read
  · rename_i right
    cases read
    exact ⟨envelope, ⟨more, whole⟩, rfl, right.symm, rfl⟩
  · cases read

end Envelope

/-! ## Frames -/

theorem frame_eq_ok_iff {payload bytes : Bytes} :
    frame payload = .ok bytes ↔ ∃ envelope : Envelope, envelope.payload = payload ∧
      envelope.checksum = crc32c payload ∧ envelope.bytes = bytes := by
  unfold frame
  split
  · rename_i long
    constructor
    · intro framed
      cases framed
    · rintro ⟨envelope, rfl, -, -⟩
      exact absurd envelope.short (Nat.not_le.2 long)
  · rename_i short
    constructor
    · intro framed
      cases framed
      exact ⟨⟨payload, crc32c payload, Nat.not_lt.1 short⟩, rfl, rfl, rfl⟩
    · rintro ⟨envelope, rfl, right, rfl⟩
      rw [← right]
      rfl

theorem length_frame {payload bytes : Bytes} (framed : frame payload = .ok bytes) :
    payload.length ≤ maxPayload ∧ bytes.length = headerSize + payload.length := by
  obtain ⟨envelope, rfl, -, rfl⟩ := frame_eq_ok_iff.1 framed
  exact ⟨envelope.short, envelope.length_bytes⟩

theorem deframe_frame {payload bytes : Bytes} (framed : frame payload = .ok bytes) (more : Bytes) :
    deframe (bytes ++ more) = .ok (some (payload, bytes.length)) := by
  obtain ⟨envelope, rfl, right, rfl⟩ := frame_eq_ok_iff.1 framed
  rw [envelope.deframe_append]
  exact if_pos right.symm

theorem deframe_of_part_of_frame {payload bytes part : Bytes} (framed : frame payload = .ok bytes)
    (starts : part <+: bytes) (strict : part ≠ bytes) : deframe part = .ok none := by
  obtain ⟨envelope, -, -, rfl⟩ := frame_eq_ok_iff.1 framed
  exact Envelope.deframe_of_part starts strict

theorem deframe_eq_some_iff {stream payload : Bytes} {length : Nat} :
    deframe stream = .ok (some (payload, length)) ↔
      ∃ bytes, frame payload = .ok bytes ∧ bytes <+: stream ∧ bytes.length = length := by
  constructor
  · intro found
    obtain ⟨envelope, starts, same, right, size⟩ := Envelope.exists_of_deframe found
    exact ⟨envelope.bytes, frame_eq_ok_iff.2 ⟨envelope, same, right, rfl⟩, starts, size⟩
  · rintro ⟨bytes, framed, ⟨more, rfl⟩, rfl⟩
    exact deframe_frame framed more

theorem frame_unique {stream first second : Bytes} {payload other : Bytes}
    (firstFramed : frame payload = .ok first) (secondFramed : frame other = .ok second)
    (firstStarts : first <+: stream) (secondStarts : second <+: stream) :
    payload = other ∧ first = second := by
  have one := deframe_eq_some_iff.2 ⟨first, firstFramed, firstStarts, rfl⟩
  have two := deframe_eq_some_iff.2 ⟨second, secondFramed, secondStarts, rfl⟩
  rw [one] at two
  obtain rfl : payload = other := (Prod.mk.inj (Option.some.inj (Except.ok.inj two))).1
  rw [firstFramed] at secondFramed
  exact ⟨rfl, Except.ok.inj secondFramed⟩

/-- What is read from the front of a stream is exactly the frame that a payload makes, a part of a frame is
never more than incomplete, no frame is the beginning of another, and a stream starts with one at most. -/
theorem deframe_iff_frame :
    (∀ (stream payload : Bytes) (length : Nat), deframe stream = .ok (some (payload, length)) ↔
      ∃ bytes, frame payload = .ok bytes ∧ bytes <+: stream ∧ bytes.length = length) ∧
    (∀ payload bytes part : Bytes, frame payload = .ok bytes → part <+: bytes → part ≠ bytes →
      deframe part = .ok none) ∧
    (∀ payload other first second : Bytes, frame payload = .ok first → frame other = .ok second →
      first <+: second → payload = other ∧ first = second) ∧
    ∀ stream payload other first second : Bytes, frame payload = .ok first → frame other = .ok second →
      first <+: stream → second <+: stream → payload = other ∧ first = second := by
  refine ⟨?_, ?_, ?_, ?_⟩
  · intro stream payload length
    exact deframe_eq_some_iff
  · intro payload bytes part framed starts strict
    exact deframe_of_part_of_frame framed starts strict
  · intro payload other first second firstFramed secondFramed starts
    exact frame_unique firstFramed secondFramed starts (List.prefix_refl second)
  · intro stream payload other first second firstFramed secondFramed firstStarts secondStarts
    exact frame_unique firstFramed secondFramed firstStarts secondStarts

theorem deframe_iff_frame_of_two_bytes :
    let bytes : Bytes := [10, 0, 0, 0, 209, 247, 101, 7, 9, 9]
    frame [9, 9] = .ok bytes ∧ deframe (bytes ++ [8, 0]) = .ok (some ([9, 9], 10)) ∧
      deframe (bytes.take 9) = .ok none ∧
      ∀ payload other, frame payload = .ok other → other <+: bytes → payload = [9, 9] := by
  intro bytes
  have framed : frame [9, 9] = .ok bytes := by decide +kernel
  obtain ⟨read, part, -, unique⟩ := deframe_iff_frame
  refine ⟨framed, ?_, ?_, ?_⟩
  · exact (read _ _ _).2 ⟨bytes, framed, List.prefix_append bytes _, rfl⟩
  · exact part [9, 9] bytes _ framed (List.take_prefix 9 bytes) (by decide)
  · intro payload other otherFramed starts
    exact (unique bytes payload [9, 9] other bytes otherFramed framed starts (List.prefix_refl bytes)).1

end Iso8583
