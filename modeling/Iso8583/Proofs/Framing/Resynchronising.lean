import Iso8583.Proofs.Framing.Frames

/-!
# Reading goes on behind every whole frame

A stream of whole frames, good, corrupted and undecodable ones in any order, ends inside one more. The reader
takes each frame by itself, hands on its message or reports why there is none, and keeps what is incomplete.
-/

namespace Iso8583

namespace Envelope

/-- What a whole frame brings. -/
def arrival (decode : Bytes → Except CodecError Message) (envelope : Envelope) : Arrival :=
  if crc32c envelope.payload = envelope.checksum then arrivalOf decode envelope.payload
  else .dropped (.wire (.checksumMismatch envelope.checksum (crc32c envelope.payload)
    envelope.bytes.length))

theorem cutFrames_append (decode : Bytes → Except CodecError Message) (envelope : Envelope)
    (more : Bytes) :
    cutFrames decode (envelope.bytes ++ more) =
      (cutFrames decode more).cons (envelope.arrival decode) := by
  have read := envelope.deframe_append more
  unfold reading at read
  unfold arrival
  split at read
  · rename_i right
    rw [if_pos right, cutFrames_of_some read, List.drop_left]
  · rename_i wrong
    rw [if_neg wrong, cutFrames_of_mismatch read, List.drop_left]

end Envelope

theorem cutFrames_envelopes (decode : Bytes → Except CodecError Message) (envelopes : List Envelope)
    {tail : Bytes} (incomplete : deframe tail = .ok none) :
    cutFrames decode ((envelopes.map Envelope.bytes).flatten ++ tail) =
      ⟨envelopes.map (Envelope.arrival decode), tail, none⟩ := by
  induction envelopes with
  | nil => exact cutFrames_of_none incomplete
  | cons envelope envelopes ih =>
    rw [List.map_cons, List.flatten_cons, List.append_assoc, Envelope.cutFrames_append, ih]
    rfl

/-! ## The calls of a reader -/

section

variable {η : Type}

def ReaderCall.isMessage : ReaderCall η → Bool
  | .message _ _ => true
  | .dropped _ _ => false

/-- The call that a whole frame leads to: its message goes to the handler, or the reason why there is none
to the hook. -/
def Envelope.call (decode : Bytes → Except CodecError Message) (handler hook : η)
    (envelope : Envelope) : ReaderCall η :=
  if crc32c envelope.payload = envelope.checksum then
    match decode envelope.payload with
    | .ok msg => .message handler msg
    | .error error => .dropped hook (.codec error)
  else
    .dropped hook (.wire (.checksumMismatch envelope.checksum (crc32c envelope.payload)
      (headerSize + envelope.payload.length)))

variable {decode : Bytes → Except CodecError Message} {reader : FrameReader η} {handler hook : η}

theorem FrameReader.callFor_arrival (handled : reader.onMessage = some handler)
    (hooked : reader.onDropped = some hook) (envelope : Envelope) :
    reader.callFor (envelope.arrival decode) = some (envelope.call decode handler hook) := by
  unfold Envelope.arrival Envelope.call arrivalOf callFor
  rw [handled, hooked, envelope.length_bytes]
  by_cases right : crc32c envelope.payload = envelope.checksum
  · rw [if_pos right, if_pos right]
    cases decode envelope.payload <;> rfl
  · rw [if_neg right, if_neg right]
    rfl

theorem FrameReader.isMessage_of_callFor {arrival : Arrival} {call : ReaderCall η}
    (called : reader.callFor arrival = some call) : call.isMessage = isMessage arrival := by
  cases arrival with
  | message msg =>
    obtain ⟨name, -, rfl⟩ := Option.map_eq_some_iff.1 called
    rfl
  | dropped error =>
    obtain ⟨name, -, rfl⟩ := Option.map_eq_some_iff.1 called
    rfl

/-- Whole frames one behind the other, and a part of one more, lead to one call for each frame in the order
of the stream. The count is that of the messages handed on, and exactly the part is kept. -/
theorem FrameReader.ingest_envelopes (decode : Bytes → Except CodecError Message) (handler hook : η)
    (envelopes : List Envelope) {last : Envelope} {tail : Bytes} (starts : tail <+: last.bytes)
    (strict : tail ≠ last.bytes) :
    let fresh : FrameReader η := { onMessage := some handler, onDropped := some hook }
    let calls := envelopes.map (Envelope.call decode handler hook)
    fresh.ingest decode ((envelopes.map Envelope.bytes).flatten ++ tail) =
      ({ fresh with buffer := tail.toArray }, calls, .ok (calls.countP ReaderCall.isMessage)) := by
  intro fresh calls
  have made (envelope : Envelope) :
      fresh.callFor (envelope.arrival decode) = some (envelope.call decode handler hook) :=
    callFor_arrival rfl rfl envelope
  have cut := cutFrames_envelopes decode envelopes (Envelope.deframe_of_part starts strict)
  have all : (envelopes.map (Envelope.arrival decode)).filterMap fresh.callFor = calls := by
    have each : fresh.callFor ∘ Envelope.arrival decode = some ∘ Envelope.call decode handler hook :=
      funext made
    rw [List.filterMap_map, each, List.filterMap_eq_map]
  have count : (envelopes.map (Envelope.arrival decode)).countP isMessage =
      calls.countP ReaderCall.isMessage := by
    rw [List.countP_map, List.countP_map]
    congr 1
    funext envelope
    exact (isMessage_of_callFor (made envelope)).symm
  have empty : fresh.buffered = [] := rfl
  rw [ingest_eq, empty, List.nil_append, cut]
  simp only [all, count]

end

/-- A good frame, one whose checksum is wrong, one whose payload is no message, and five bytes of a header. -/
theorem FrameReader.ingest_envelopes_of_each_kind :
    let good : Envelope := ⟨[4, 48, 50, 48, 48, 0, 0], 0x1029A1FB, by decide⟩
    let wrong : Envelope := ⟨[4, 48, 50, 48, 48, 0, 0], 0, by decide⟩
    let garbage : Envelope := ⟨[9, 9], 0x0765F7D1, by decide⟩
    let tail : Bytes := [15, 0, 0, 0, 251]
    let fresh : FrameReader Bool := { onMessage := some true, onDropped := some false }
    let calls : List (ReaderCall Bool) := [.message true ⟨"0200", .empty⟩,
      .dropped false (.wire (.checksumMismatch 0 0x1029A1FB 15)), .dropped false (.codec (.truncated 9 1)),
      .message true ⟨"0200", .empty⟩]
    tail <+: good.bytes ∧ tail ≠ good.bytes ∧
      fresh.ingest Binary.decode (([good, wrong, garbage, good].map Envelope.bytes).flatten ++ tail) =
        ({ fresh with buffer := tail.toArray }, calls, .ok 2) := by
  intro good wrong garbage tail fresh calls
  have starts : tail <+: good.bytes := by decide +kernel
  have strict : tail ≠ good.bytes := by decide +kernel
  have spec := ingest_envelopes Binary.decode true false [good, wrong, garbage, good] starts strict
  have made : [good, wrong, garbage, good].map (Envelope.call Binary.decode true false) = calls := by
    decide +kernel
  refine ⟨starts, strict, ?_⟩
  rw [made] at spec
  exact spec

end Iso8583
