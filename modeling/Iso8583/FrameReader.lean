import Iso8583.Error

/-!
# Reading frames from a stream

A frame reader keeps the bytes of the frame that is not complete yet. Each chunk is cut into frames;
every payload is decoded and handed to the handler. A frame with a wrong checksum or an undecodable
payload is reported and passed over; a header that announces an impossible length ends the stream.
-/

namespace Iso8583

/-! ## Cutting a stream -/

/-- What a frame brings: a message, or the reason why it is dropped. -/
inductive Arrival where
  | message (msg : Message)
  | dropped (error : ChannelError)
  deriving DecidableEq

/-- What becomes of a stream: the arrivals in order, what is left of it, and the error that ended
it, if any. -/
structure Cut where
  arrivals : List Arrival
  rest : Bytes
  error : Option FrameError
  deriving DecidableEq

def Cut.cons (arrival : Arrival) (cut : Cut) : Cut :=
  { cut with arrivals := arrival :: cut.arrivals }

def arrivalOf (decode : Bytes → Except CodecError Message) (payload : Bytes) : Arrival :=
  match decode payload with
  | .ok msg => .message msg
  | .error error => .dropped (.codec error)

def cutFrames (decode : Bytes → Except CodecError Message) (stream : Bytes) : Cut :=
  match _cut : deframe stream with
  | .ok none => ⟨[], stream, none⟩
  | .ok (some (payload, length)) =>
    (cutFrames decode (stream.drop length)).cons (arrivalOf decode payload)
  | .error (.checksumMismatch expected actual length) =>
    (cutFrames decode (stream.drop length)).cons
      (.dropped (.wire (.checksumMismatch expected actual length)))
  | .error error => ⟨[], [], some error⟩
  termination_by stream.length
  decreasing_by
    · have := deframe_bounds _cut
      simp only [headerSize] at this
      simp only [List.length_drop]
      omega
    · have := deframe_mismatch_bounds _cut
      simp only [headerSize] at this
      simp only [List.length_drop]
      omega

theorem cutFrames_of_none {decode : Bytes → Except CodecError Message} {stream : Bytes}
    (h : deframe stream = .ok none) : cutFrames decode stream = ⟨[], stream, none⟩ := by
  rw [cutFrames]
  split <;> simp_all

theorem cutFrames_of_some {decode : Bytes → Except CodecError Message} {stream payload : Bytes}
    {length : Nat} (h : deframe stream = .ok (some (payload, length))) :
    cutFrames decode stream =
      (cutFrames decode (stream.drop length)).cons (arrivalOf decode payload) := by
  rw [cutFrames]
  split <;> simp_all

theorem cutFrames_of_mismatch {decode : Bytes → Except CodecError Message} {stream : Bytes}
    {expected actual : UInt32} {length : Nat}
    (h : deframe stream = .error (.checksumMismatch expected actual length)) :
    cutFrames decode stream =
      (cutFrames decode (stream.drop length)).cons
        (.dropped (.wire (.checksumMismatch expected actual length))) := by
  rw [cutFrames]
  split <;> simp_all

theorem cutFrames_of_fatal {decode : Bytes → Except CodecError Message} {stream : Bytes}
    {error : FrameError} (h : deframe stream = .error error) (fatal : error.isRecoverable = false) :
    cutFrames decode stream = ⟨[], [], some error⟩ := by
  rw [cutFrames]
  split
  · simp_all
  · simp_all
  · rename_i found
    rw [h] at found
    cases found
    cases fatal
  · simp_all

/-! ## Readers -/

/-- The inbound half of a connection. `η` names handlers. -/
structure FrameReader (η : Type) where
  /-- The bytes of the frame that is not complete yet. -/
  buffer : Array UInt8 := #[]
  onMessage : Option η := none
  onDropped : Option η := none

/-- A call that the reader makes. -/
inductive ReaderCall (η : Type) where
  | message (handler : η) (msg : Message)
  | dropped (handler : η) (error : ChannelError)
  deriving DecidableEq

namespace FrameReader

variable {η : Type}

def buffered (reader : FrameReader η) : Bytes :=
  reader.buffer.toList

/-- The call that an arrival leads to, if someone is registered for it. -/
def callFor (reader : FrameReader η) : Arrival → Option (ReaderCall η)
  | .message msg => reader.onMessage.map fun handler => .message handler msg
  | .dropped error => reader.onDropped.map fun handler => .dropped handler error

def isMessage : Arrival → Bool
  | .message _ => true
  | .dropped _ => false

/-- Whether the buffer's header announces more bytes than there are, so that there is nothing to cut
yet. -/
def isWaiting (buffer : Array UInt8) : Bool :=
  if buffer.size < headerSize then true
  else match FrameHeader.ofBytes (buffer.extract 0 headerSize).toList with
    | .ok header => buffer.size < header.length.toNat
    | .error _ => false

theorem deframe_of_isWaiting {buffer : Array UInt8} (h : isWaiting buffer = true) :
    deframe buffer.toList = .ok none := by
  simp only [isWaiting] at h
  simp only [deframe, Bytes.isShorter_iff, Array.length_toList]
  split at h
  · rename_i short
    simp [short]
  · rename_i long
    have header : FrameHeader.ofBytes (buffer.extract 0 headerSize).toList =
        FrameHeader.ofBytes buffer.toList := by
      rw [← FrameHeader.ofBytes_take (show headerSize ≤ buffer.toList.length by simpa using long)]
      simp
    rw [header] at h
    split at h
    · rename_i found
      simp only [decide_eq_true_eq] at h
      simp [long, found, h]
    · cases h

/-- Takes in a chunk of the stream: the reader after it, the calls made, and how many messages were
decoded or the error that ended the stream. -/
def ingest (decode : Bytes → Except CodecError Message) (reader : FrameReader η) (chunk : Bytes) :
    FrameReader η × List (ReaderCall η) × Except FrameError Nat :=
  let buffer := reader.buffer ++ chunk
  if isWaiting buffer then ({ reader with buffer := buffer }, [], .ok 0)
  else
    let cut := cutFrames decode buffer.toList
    ({ reader with buffer := cut.rest.toArray }, cut.arrivals.filterMap reader.callFor,
      match cut.error with
      | none => .ok (cut.arrivals.countP isMessage)
      | some error => .error error)

/-- A chunk is taken in as if all bytes kept were cut anew. -/
theorem ingest_eq (decode : Bytes → Except CodecError Message) (reader : FrameReader η)
    (chunk : Bytes) :
    reader.ingest decode chunk =
      let cut := cutFrames decode (reader.buffered ++ chunk)
      ({ reader with buffer := cut.rest.toArray }, cut.arrivals.filterMap reader.callFor,
        match cut.error with
        | none => .ok (cut.arrivals.countP isMessage)
        | some error => .error error) := by
  have whole : (reader.buffer ++ chunk).toList = reader.buffered ++ chunk := by simp [buffered]
  simp only [ingest]
  split
  · rename_i waiting
    rw [← whole, cutFrames_of_none (deframe_of_isWaiting waiting)]
    rfl
  · rw [whole]

end FrameReader

end Iso8583
