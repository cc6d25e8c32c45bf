import Iso8583.Proofs.Checksum
import Iso8583.Proofs.Framing.Resynchronising

/-!
# A corrupted frame is noticed and passed over

Something happens to a frame on its way: to the bytes of its checksum, or to at most four bytes of its
payload next to each other. Whatever they become, the checksum no longer fits the payload, and since the
length is still right the reader drops this frame and nothing else.
-/

namespace Iso8583

/-! ## Bytes before and behind a change -/

section

variable {front old new back : Bytes}

theorem take_of_change {n : Nat} (before : n ≤ front.length) :
    (front ++ new ++ back).take n = (front ++ old ++ back).take n := by
  rw [List.append_assoc, List.append_assoc, List.take_append_of_le_length before,
    List.take_append_of_le_length before]

theorem drop_of_change (sameLength : new.length = old.length) {n : Nat}
    (behind : front.length + old.length ≤ n) :
    (front ++ new ++ back).drop n = (front ++ old ++ back).drop n := by
  have all (middle : Bytes) (fits : (front ++ middle).length ≤ n) :
      (front ++ middle ++ back).drop n = back.drop (n - (front ++ middle).length) := by
    rw [List.drop_append, List.drop_eq_nil_of_le fits, List.nil_append]
  rw [all new (by simp; omega), all old (by simp; omega)]
  simp [sameLength]

end

/-! ## The parts of a frame -/

theorem take_append_checksum (bytes : Bytes) :
    bytes.take 4 ++ ((bytes.drop 4).take 4 ++ bytes.drop headerSize) = bytes := by
  have split := List.take_append_drop 4 (bytes.drop 4)
  rw [List.drop_drop] at split
  unfold headerSize
  rw [split, List.take_append_drop]

def checksumIn (bytes : Bytes) : UInt32 := Checksum.word ((bytes.drop 4).take 4)

theorem Envelope.checksumIn_bytes (envelope : Envelope) : checksumIn envelope.bytes = envelope.checksum := by
  have first := Bytes.length_littleEndian 4 envelope.header.length.toNat
  have second := Bytes.length_littleEndian 4 envelope.header.checksum.toNat
  have fits : envelope.checksum.toNat < 256 ^ 4 := envelope.checksum.toNat_lt
  unfold checksumIn Checksum.word bytes FrameHeader.toBytes
  rw [List.append_assoc, List.drop_left' first, List.take_left' second,
    Bytes.ofLittleEndian_littleEndian]
  change UInt32.ofNat (envelope.checksum.toNat % 256 ^ 4) = envelope.checksum
  rw [Nat.mod_eq_of_lt fits, UInt32.ofNat_toNat]

theorem Envelope.drop_bytes (envelope : Envelope) : envelope.bytes.drop headerSize = envelope.payload :=
  List.drop_left' envelope.header.length_toBytes

theorem Envelope.exists_of_take (source : Envelope) {bytes : Bytes}
    (sameLength : bytes.length = source.bytes.length) (announced : bytes.take 4 = source.bytes.take 4) :
    ∃ envelope : Envelope, envelope.bytes = bytes := by
  have size := source.length_bytes
  have short := source.short
  have payloadLength : (bytes.drop headerSize).length = source.payload.length := by
    rw [List.length_drop]
    omega
  have four : ((bytes.drop 4).take 4).length = 4 := by
    unfold headerSize at size
    simp
    omega
  have length : source.bytes.take 4 = Bytes.littleEndian 4 source.header.length.toNat := by
    unfold Envelope.bytes FrameHeader.toBytes
    rw [List.append_assoc, List.take_left' (Bytes.length_littleEndian 4 _)]
  have checksum : Bytes.littleEndian 4 (checksumIn bytes).toNat = (bytes.drop 4).take 4 :=
    FrameHeader.littleEndian_word four
  let envelope : Envelope := ⟨bytes.drop headerSize, checksumIn bytes, by omega⟩
  have header : envelope.header = ⟨source.header.length, checksumIn bytes⟩ := by
    unfold Envelope.header
    rw [payloadLength]
  refine ⟨envelope, ?_⟩
  unfold Envelope.bytes FrameHeader.toBytes
  simp only [header]
  rw [← length, ← announced, checksum, List.append_assoc]
  exact take_append_checksum bytes

/-! ## The change shows -/

section

variable {front old new back : Bytes}

theorem eq_of_checksumIn_eq (sameLength : new.length = old.length) (behindLength : 4 ≤ front.length)
    (inHeader : front.length + old.length ≤ headerSize)
    (same : checksumIn (front ++ new ++ back) = checksumIn (front ++ old ++ back)) : new = old := by
  have start : (front ++ new ++ back).take 4 = (front ++ old ++ back).take 4 := take_of_change behindLength
  have rest : (front ++ new ++ back).drop headerSize = (front ++ old ++ back).drop headerSize :=
    drop_of_change sameLength inHeader
  have four : ((front ++ new ++ back).drop 4).take 4 = ((front ++ old ++ back).drop 4).take 4 := by
    refine Checksum.word_inj ?_ ?_ same
    · simp only [List.length_take, List.length_drop, List.length_append, sameLength]
    · rw [List.length_take]
      omega
  have equal : front ++ new ++ back = front ++ old ++ back := by
    rw [← take_append_checksum (front ++ new ++ back), start, four, rest]
    exact take_append_checksum (front ++ old ++ back)
  exact List.append_cancel_left (List.append_cancel_right equal)

theorem checksumIn_of_change (behindHeader : headerSize ≤ front.length) :
    checksumIn (front ++ new ++ back) = checksumIn (front ++ old ++ back) := by
  have first : (front ++ new ++ back).take 8 = (front ++ old ++ back).take 8 := take_of_change behindHeader
  unfold checksumIn
  rw [List.take_drop, List.take_drop, first]

/-- A change of the checksum, or of at most four bytes of the payload next to each other, leaves a checksum
that is not the payload's. -/
theorem checksumIn_ne_of_change {payload : Bytes} (framed : frame payload = .ok (front ++ old ++ back))
    (sameLength : new.length = old.length) (changed : new ≠ old)
    (place : 4 ≤ front.length ∧ front.length + old.length ≤ headerSize ∨
      headerSize ≤ front.length ∧ old.length ≤ 4) :
    crc32c ((front ++ new ++ back).drop headerSize) ≠ checksumIn (front ++ new ++ back) := by
  have right : crc32c ((front ++ old ++ back).drop headerSize) = checksumIn (front ++ old ++ back) := by
    obtain ⟨source, rfl, right, whole⟩ := frame_eq_ok_iff.1 framed
    rw [← whole, source.drop_bytes, source.checksumIn_bytes, right]
  intro same
  apply changed
  rcases place with ⟨behindLength, inHeader⟩ | ⟨behindHeader, short⟩
  · refine eq_of_checksumIn_eq sameLength behindLength inHeader (same.symm.trans (Eq.trans ?_ right))
    rw [drop_of_change sameLength inHeader]
  · have cut (middle : Bytes) :
        (front ++ middle ++ back).drop headerSize = front.drop headerSize ++ middle ++ back := by
      rw [List.append_assoc, List.drop_append_of_le_length behindHeader, List.append_assoc]
    rw [checksumIn_of_change behindHeader, ← right, cut, cut] at same
    exact eq_of_crc32c_eq sameLength (sameLength ▸ short) same

end

/-! ## The reader goes on -/

namespace FrameReader

theorem ingest_of_dropped {η : Type} {decode : Bytes → Except CodecError Message} {reader : FrameReader η}
    (empty : reader.buffered = []) {bytes more : Bytes} {error : ChannelError}
    (cut : cutFrames decode (bytes ++ more) = (cutFrames decode more).cons (.dropped error)) :
    let after := reader.ingest decode more
    reader.ingest decode (bytes ++ more) =
      (after.1, (reader.callFor (.dropped error)).toList ++ after.2.1, after.2.2) := by
  have calls (arrivals : List Arrival) :
      (.dropped error :: arrivals).filterMap reader.callFor =
        (reader.callFor (.dropped error)).toList ++ arrivals.filterMap reader.callFor := by
    cases called : reader.callFor (.dropped error) with
    | none => exact List.filterMap_cons_none called
    | some call => exact List.filterMap_cons_some called
  have count (arrivals : List Arrival) :
      (.dropped error :: arrivals).countP isMessage = arrivals.countP isMessage :=
    List.countP_cons_of_neg (by simp [isMessage])
  rw [ingest_eq, ingest_eq, empty, List.nil_append, List.nil_append, cut]
  simp only [Cut.cons, calls, count]

end FrameReader

/-- A frame of which the checksum was changed, or at most four bytes of the payload next to each other, is
read as a checksum mismatch of exactly its own length, whatever follows. A reader drops it and goes on as
if only the rest had come. -/
theorem corrupted_frame_is_dropped {payload front old new back : Bytes}
    (framed : frame payload = .ok (front ++ old ++ back)) (sameLength : new.length = old.length)
    (changed : new ≠ old)
    (place : 4 ≤ front.length ∧ front.length + old.length ≤ headerSize ∨
      headerSize ≤ front.length ∧ old.length ≤ 4) (more : Bytes) :
    let corrupted := front ++ new ++ back
    let error : FrameError := .checksumMismatch (checksumIn corrupted) (crc32c (corrupted.drop headerSize))
      (headerSize + payload.length)
    deframe (corrupted ++ more) = .error error ∧ corrupted.length = headerSize + payload.length ∧
      ∀ {η : Type} (decode : Bytes → Except CodecError Message) (reader : FrameReader η),
        reader.buffered = [] →
        let after := reader.ingest decode more
        reader.ingest decode (corrupted ++ more) =
          (after.1, (reader.callFor (.dropped (.wire error))).toList ++ after.2.1, after.2.2) := by
  intro corrupted error
  obtain ⟨-, size⟩ := length_frame framed
  obtain ⟨source, -, -, whole⟩ := frame_eq_ok_iff.1 framed
  have length : corrupted.length = headerSize + payload.length := by
    rw [← size]
    simp only [corrupted, List.length_append, sameLength]
  have announced : corrupted.take 4 = source.bytes.take 4 := by
    have four : 4 ≤ front.length := by
      unfold headerSize at place
      omega
    rw [whole]
    exact take_of_change four
  obtain ⟨envelope, same⟩ := source.exists_of_take (by rw [whole, length, size]) announced
  have wrong : crc32c envelope.payload ≠ envelope.checksum := by
    rw [← envelope.drop_bytes, ← envelope.checksumIn_bytes, same]
    exact checksumIn_ne_of_change framed sameLength changed place
  have read : envelope.reading = .error error := by
    unfold Envelope.reading
    rw [if_neg wrong, ← envelope.drop_bytes, ← envelope.checksumIn_bytes, same, length]
  have arrival (decode : Bytes → Except CodecError Message) :
      envelope.arrival decode = .dropped (.wire error) := by
    unfold Envelope.arrival
    rw [if_neg wrong, ← envelope.drop_bytes, ← envelope.checksumIn_bytes, same, length]
  refine ⟨?_, length, ?_⟩
  · rw [← same, envelope.deframe_append, read]
  · intro η decode reader empty
    apply FrameReader.ingest_of_dropped empty
    rw [← same, envelope.cutFrames_append, arrival]

/-- Four bytes of the payload are lost to zeros. -/
theorem corrupted_frame_is_dropped_after_burst :
    let payload : Bytes := [49, 50, 51, 52, 53, 54, 55, 56, 57]
    let front : Bytes := [17, 0, 0, 0, 131, 146, 6, 227, 49, 50]
    let old : Bytes := [51, 52, 53, 54]
    let new : Bytes := [0, 0, 0, 0]
    let back : Bytes := [55, 56, 57]
    let stream := front ++ new ++ back ++ [8, 0, 0]
    let fresh : FrameReader Unit := { onMessage := some (), onDropped := some () }
    let error : FrameError := .checksumMismatch 0xE3069283 0xBBD43D58 17
    frame payload = .ok (front ++ old ++ back) ∧ new.length = old.length ∧ new ≠ old ∧
      headerSize ≤ front.length ∧ old.length ≤ 4 ∧ deframe stream = .error error ∧
      fresh.ingest Binary.decode stream =
        ({ fresh with buffer := #[8, 0, 0] }, [.dropped () (.wire error)], .ok 0) := by
  intro payload front old new back stream fresh error
  have framed : frame payload = .ok (front ++ old ++ back) := by decide +kernel
  have sameLength : new.length = old.length := rfl
  have changed : new ≠ old := by decide
  have spec := corrupted_frame_is_dropped framed sameLength changed (.inr (by decide)) [8, 0, 0]
  have same : FrameError.checksumMismatch (checksumIn (front ++ new ++ back))
      (crc32c ((front ++ new ++ back).drop headerSize)) (headerSize + payload.length) = error := by
    decide +kernel
  simp only [same] at spec
  refine ⟨framed, sameLength, changed, by decide, by decide, spec.1, ?_⟩
  exact spec.2.2 Binary.decode fresh rfl

end Iso8583
