import Iso8583.Proofs.Framing.Resynchronising

/-!
# What the count of a chunk counts

A stream that is taken in without an error is a list of whole frames and a part of one more. The count that a
reader answers is that of the messages among the frames, whether or not there is a handler for them. So it is
the number of messages handed on exactly if a handler is registered, or if no message came.
-/

namespace Iso8583

/-! ## Streams without a fatal header -/

theorem exists_envelopes_of_cutFrames (decode : Bytes → Except CodecError Message) (stream : Bytes)
    (passed : (cutFrames decode stream).error = none) :
    ∃ envelopes : List Envelope,
      stream = (envelopes.map Envelope.bytes).flatten ++ (cutFrames decode stream).rest ∧
      (cutFrames decode stream).arrivals = envelopes.map (Envelope.arrival decode) := by
  rcases Envelope.deframe_cases stream with undecided | ⟨error, refused, fatal⟩ | ⟨envelope, more, starts⟩
  · rw [cutFrames_of_none undecided]
    exact ⟨[], rfl, rfl⟩
  · rw [cutFrames_of_fatal refused fatal] at passed
    cases passed
  · -- Behind the first frame the same holds of fewer bytes.
    rw [← starts, envelope.cutFrames_append] at passed ⊢
    obtain ⟨envelopes, whole, arrivals⟩ := exists_envelopes_of_cutFrames decode more passed
    refine ⟨envelope :: envelopes, ?_, ?_⟩
    · rw [List.map_cons, List.flatten_cons, List.append_assoc]
      exact congrArg _ whole
    · rw [List.map_cons, ← arrivals]
      rfl
  termination_by stream.length
  decreasing_by
    rw [← starts, List.length_append, envelope.length_bytes]
    unfold headerSize
    omega

/-! ## What is handed on -/

/-- The message of a whole frame, if its checksum is right and its payload is one. -/
def Envelope.message? (decode : Bytes → Except CodecError Message) (envelope : Envelope) : Option Message :=
  if crc32c envelope.payload = envelope.checksum then (decode envelope.payload).toOption else none

section

variable {η : Type}

/-- The handler that is called with a message, and the message. -/
def ReaderCall.handed? : ReaderCall η → Option (η × Message)
  | .message handler msg => some (handler, msg)
  | .dropped _ _ => none

namespace FrameReader

variable {decode : Bytes → Except CodecError Message}

theorem isMessage_arrival (envelope : Envelope) :
    isMessage (envelope.arrival decode) = (envelope.message? decode).isSome := by
  unfold Envelope.arrival Envelope.message? arrivalOf
  split
  · cases decode envelope.payload <;> rfl
  · rfl

theorem handed?_arrival (reader : FrameReader η) (envelope : Envelope) :
    (reader.callFor (envelope.arrival decode)).bind ReaderCall.handed? =
      reader.onMessage.bind fun handler => (envelope.message? decode).map fun msg => (handler, msg) := by
  unfold Envelope.arrival Envelope.message? arrivalOf
  have reported (error : ChannelError) : (reader.callFor (.dropped error)).bind ReaderCall.handed? = none := by
    unfold callFor
    cases reader.onDropped <;> rfl
  split
  · cases decode envelope.payload with
    | ok msg =>
      change (reader.onMessage.map fun handler => ReaderCall.message handler msg).bind _ = _
      cases reader.onMessage <;> rfl
    | error error =>
      refine (reported _).trans ?_
      cases reader.onMessage <;> rfl
  · refine (reported _).trans ?_
    cases reader.onMessage <;> rfl

theorem countP_isMessage (envelopes : List Envelope) :
    (envelopes.map (Envelope.arrival decode)).countP isMessage =
      (envelopes.filterMap (Envelope.message? decode)).length := by
  induction envelopes with
  | nil => rfl
  | cons envelope envelopes ih =>
    have here : isMessage (envelope.arrival decode) = (envelope.message? decode).isSome :=
      isMessage_arrival envelope
    rw [List.map_cons, List.countP_cons, ih, List.filterMap_cons, here]
    cases envelope.message? decode <;> rfl

theorem filterMap_handed? (decode : Bytes → Except CodecError Message) (reader : FrameReader η)
    (envelopes : List Envelope) :
    ((envelopes.map (Envelope.arrival decode)).filterMap reader.callFor).filterMap ReaderCall.handed? =
      reader.onMessage.elim [] fun handler =>
        (envelopes.filterMap (Envelope.message? decode)).map fun msg => (handler, msg) := by
  have each : ((fun arrival => (reader.callFor arrival).bind ReaderCall.handed?) ∘ Envelope.arrival decode) =
      fun envelope => reader.onMessage.bind fun handler =>
        (envelope.message? decode).map fun msg => (handler, msg) :=
    funext fun envelope => handed?_arrival reader envelope
  rw [List.filterMap_filterMap, List.filterMap_map, each]
  cases reader.onMessage with
  | none => exact List.filterMap_eq_nil_iff.2 fun _ _ => rfl
  | some handler => exact List.map_filterMap.symm

/-- A chunk that is taken in without an error completes some whole frames, good, corrupted and undecodable
ones. The count is that of the messages among them. They are handed to the handler, each once and in order, if
there is one; without a handler they are counted all the same. So the count is that of the messages handed on
exactly if a handler is registered or no message came. -/
theorem length_handed_eq_count_iff {reader next : FrameReader η} {chunk : Bytes}
    {calls : List (ReaderCall η)} {count : Nat}
    (taken : reader.ingest decode chunk = (next, calls, .ok count)) :
    ∃ envelopes : List Envelope,
      reader.buffered ++ chunk = (envelopes.map Envelope.bytes).flatten ++ next.buffered ∧
      deframe next.buffered = .ok none ∧
      let messages := envelopes.filterMap (Envelope.message? decode)
      let handed := calls.filterMap ReaderCall.handed?
      count = messages.length ∧
      handed = (reader.onMessage.elim [] fun handler => messages.map fun msg => (handler, msg)) ∧
      (handed.length = count ↔ reader.onMessage.isSome = true ∨ messages = []) := by
  have rest := deframe_rest_cutFrames decode (reader.buffered ++ chunk)
  rw [ingest_eq] at taken
  obtain ⟨rfl, result⟩ := Prod.mk.inj taken
  obtain ⟨rfl, counted⟩ := Prod.mk.inj result
  cases passed : (cutFrames decode (reader.buffered ++ chunk)).error with
  | some error =>
    rw [passed] at counted
    cases counted
  | none =>
    rw [passed] at counted
    obtain ⟨envelopes, whole, arrivals⟩ := exists_envelopes_of_cutFrames decode _ passed
    rw [arrivals] at counted ⊢
    have count : count = (envelopes.filterMap (Envelope.message? decode)).length :=
      (Except.ok.inj counted).symm.trans (countP_isMessage envelopes)
    have handed := filterMap_handed? decode reader envelopes
    refine ⟨envelopes, whole, rest, count, handed, ?_⟩
    rw [handed, count]
    cases reader.onMessage with
    | none =>
      refine ⟨fun same => .inr (List.eq_nil_of_length_eq_zero same.symm), ?_⟩
      rintro (registered | nothing)
      · cases registered
      · rw [nothing]
        rfl
    | some handler => exact ⟨fun _ => .inl rfl, fun _ => List.length_map _⟩

/-- A part of a frame is kept; the rest of it comes with a frame whose checksum is wrong and one more. -/
theorem length_handed_eq_count_iff_behind_part :
    let frame : Bytes := [15, 0, 0, 0, 50, 117, 108, 165, 4, 48, 56, 48, 48, 0, 0]
    let wrong : Bytes := [15, 0, 0, 0, 0, 0, 0, 0, 4, 48, 56, 48, 48, 0, 0]
    let reader : FrameReader Bool :=
      { buffer := (frame.take 5).toArray, onMessage := some true, onDropped := some false }
    let msg : Message := ⟨"0800", .empty⟩
    let calls : List (ReaderCall Bool) := [.message true msg,
      .dropped false (.wire (.checksumMismatch 0 0xA56C7532 15)), .message true msg]
    let chunk := frame.drop 5 ++ wrong ++ frame
    (reader.ingest Binary.decode chunk).2 = (calls, .ok 2) ∧
      calls.filterMap ReaderCall.handed? = [(true, msg), (true, msg)] ∧
      (calls.filterMap ReaderCall.handed?).length = 2 := by
  intro frame wrong reader msg calls chunk
  have result : (reader.ingest Binary.decode chunk).2 = (calls, .ok 2) := by decide +kernel
  obtain ⟨next, taken⟩ : ∃ next, reader.ingest Binary.decode chunk = (next, calls, .ok 2) := by
    generalize reader.ingest Binary.decode chunk = ingested at result
    exact ⟨ingested.1, Prod.ext rfl result⟩
  have registered : reader.onMessage.isSome = true := rfl
  obtain ⟨envelopes, -, -, -, -, truthful⟩ := length_handed_eq_count_iff taken
  exact ⟨result, rfl, truthful.2 (.inl registered)⟩

/-- Nobody is registered: a message is counted and handed to no one. -/
theorem count_without_handler :
    let reader : FrameReader Bool := {}
    let frame : Bytes := [15, 0, 0, 0, 50, 117, 108, 165, 4, 48, 56, 48, 48, 0, 0]
    (reader.ingest Binary.decode frame).2 = ([], .ok 1) := by
  decide +kernel

end FrameReader

end

end Iso8583
