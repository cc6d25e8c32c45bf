import Iso8583.Proofs.Channel.Pump
import Iso8583.Proofs.Codec.BinaryLayout
import Iso8583.Proofs.Codec.JsonRoundTrip
import Iso8583.Proofs.Framing.Frames

/-!
# What is written to an outbox is what a reader delivers

Messages are written one after the other, and some of the writes are refused. The frames that are then
taken from the outbox, joined and cut into chunks anywhere, bring a reader of the same codec exactly the
messages whose write was accepted.
-/

namespace Iso8583

/-! ## One message -/

theorem Codec.decode_encode_of_short {codec : Codec} (known : codec = .binary ∨ codec = .json)
    {msg : Message} {payload : Bytes} (written : codec.encode msg = .ok payload)
    (short : payload.length ≤ maxPayload) : codec.decode payload = .ok msg := by
  rcases known with rfl | rfl
  · unfold maxPayload at short
    exact Binary.decode_encode_of_short written (by omega)
  · have same : Json.writeMessage msg = payload := Except.ok.inj written
    rw [← same]
    exact json_decode_writeMessage msg

theorem Outbox.frameOf_eq_ok {codec : Codec} {msg : Message} {bytes : Bytes}
    (framed : frameOf codec msg = .ok bytes) :
    ∃ payload, codec.encode msg = .ok payload ∧ frame payload = .ok bytes := by
  unfold frameOf at framed
  split at framed
  · cases framed
  · rename_i payload written
    refine ⟨payload, written, ?_⟩
    cases made : frame payload with
    | error error => rw [made] at framed; cases framed
    | ok other => rw [made] at framed; cases framed; rfl

theorem cutFrames_frameOf {codec : Codec} (known : codec = .binary ∨ codec = .json) {msg : Message}
    {bytes : Bytes} (framed : Outbox.frameOf codec msg = .ok bytes) (more : Bytes) :
    cutFrames codec.decode (bytes ++ more) = (cutFrames codec.decode more).cons (.message msg) := by
  obtain ⟨payload, written, made⟩ := Outbox.frameOf_eq_ok framed
  have read := Codec.decode_encode_of_short known written (length_frame made).1
  rw [cutFrames_of_some (deframe_frame made more), List.drop_left]
  unfold arrivalOf
  rw [read]

/-! ## Many messages -/

namespace Outbox

/-- Writes messages one after the other: the outbox after the last one, and what each write answers. -/
def writeAll (codec : Codec) : Outbox → List Message → Outbox × List (Except ChannelError Unit)
  | outbox, [] => (outbox, [])
  | outbox, msg :: msgs =>
    match outbox.write codec msg with
    | .ok next =>
      let (last, results) := writeAll codec next msgs
      (last, .ok () :: results)
    | .error error =>
      let (last, results) := writeAll codec outbox msgs
      (last, .error error :: results)

def takeAll (outbox : Outbox) : List Bytes :=
  match _taken : outbox.pop? with
  | none => []
  | some (frame, rest) => frame :: takeAll rest
  termination_by outbox.queue.length
  decreasing_by
    unfold pop? at _taken
    split at _taken
    · cases _taken
    · rename_i queue
      cases _taken
      simp [queue]

def acceptedOf (msgs : List Message) (results : List (Except ChannelError Unit)) : List Message :=
  (msgs.zip results).filterMap fun (msg, result) => if result.isOk then some msg else none

def framesOf (codec : Codec) (msgs : List Message) : List Bytes :=
  msgs.filterMap fun msg => (frameOf codec msg).toOption

def answerTo (codec : Codec) (msg : Message) : Except ChannelError Unit :=
  (frameOf codec msg).map fun _ => ()

section

variable {codec : Codec} {msg : Message} {msgs : List Message}

theorem framesOf_cons_of_ok {bytes : Bytes} (framed : frameOf codec msg = .ok bytes) :
    framesOf codec (msg :: msgs) = bytes :: framesOf codec msgs :=
  List.filterMap_cons_some (by rw [framed]; rfl)

theorem framesOf_cons_of_error {error : ChannelError} (framed : frameOf codec msg = .error error) :
    framesOf codec (msg :: msgs) = framesOf codec msgs :=
  List.filterMap_cons_none (by rw [framed]; rfl)

theorem acceptedOf_cons_ok (msg : Message) (msgs : List Message)
    (results : List (Except ChannelError Unit)) :
    acceptedOf (msg :: msgs) (.ok () :: results) = msg :: acceptedOf msgs results := rfl

theorem acceptedOf_cons_error (msg : Message) (msgs : List Message) (error : ChannelError)
    (results : List (Except ChannelError Unit)) :
    acceptedOf (msg :: msgs) (.error error :: results) = acceptedOf msgs results := rfl

end

theorem write_of_isOpen {outbox : Outbox} (opened : outbox.isOpen = true) (codec : Codec)
    (msg : Message) : outbox.write codec msg = (frameOf codec msg).map outbox.push := by
  have bound : outbox.status = .bound := of_decide_eq_true opened
  unfold write
  rw [bound]

theorem writeAll_of_isOpen {outbox : Outbox} (opened : outbox.isOpen = true) (codec : Codec)
    (msgs : List Message) :
    (outbox.writeAll codec msgs).1.queue = outbox.queue ++ framesOf codec msgs ∧
      (outbox.writeAll codec msgs).2 = msgs.map (answerTo codec) := by
  induction msgs generalizing outbox with
  | nil => exact ⟨(List.append_nil _).symm, rfl⟩
  | cons msg msgs ih =>
    have now := write_of_isOpen opened codec msg
    rw [List.map_cons]
    unfold writeAll
    cases framed : frameOf codec msg with
    | error error =>
      obtain ⟨queue, results⟩ := ih opened
      rw [framed] at now
      rw [now, framesOf_cons_of_error framed]
      refine ⟨queue, ?_⟩
      simp only [Except.map, results, answerTo, framed]
    | ok bytes =>
      have still : (outbox.push bytes).isOpen = true := opened
      obtain ⟨queue, results⟩ := ih still
      rw [framed] at now
      rw [now, framesOf_cons_of_ok framed]
      refine ⟨queue.trans (List.append_assoc _ [bytes] _), ?_⟩
      simp only [Except.map, results, answerTo, framed]

theorem takeAll_eq_queue (outbox : Outbox) : outbox.takeAll = outbox.queue := by
  fun_induction takeAll outbox with
  | case1 outbox empty =>
    unfold pop? at empty
    split at empty
    · rename_i queue
      exact queue.symm
    · cases empty
  | case2 outbox frame rest taken ih =>
    unfold pop? at taken
    split at taken
    · cases taken
    · rename_i queue
      cases taken
      rw [ih, queue]

end Outbox

/-- The frames of messages, one behind the other, bring exactly the messages that have a frame. -/
theorem cutFrames_framesOf {codec : Codec} (known : codec = .binary ∨ codec = .json)
    (msgs : List Message) :
    cutFrames codec.decode (Outbox.framesOf codec msgs).flatten =
      ⟨(Outbox.acceptedOf msgs (msgs.map (Outbox.answerTo codec))).map .message, [], none⟩ := by
  induction msgs with
  | nil => exact cutFrames_of_none rfl
  | cons msg msgs ih =>
    rw [List.map_cons]
    cases framed : Outbox.frameOf codec msg with
    | error error =>
      have answer : Outbox.answerTo codec msg = .error error := by rw [Outbox.answerTo, framed]; rfl
      rw [Outbox.framesOf_cons_of_error framed, answer, Outbox.acceptedOf_cons_error, ih]
    | ok bytes =>
      have answer : Outbox.answerTo codec msg = .ok () := by rw [Outbox.answerTo, framed]; rfl
      rw [Outbox.framesOf_cons_of_ok framed, answer, Outbox.acceptedOf_cons_ok, List.flatten_cons,
        cutFrames_frameOf known framed, ih]
      rfl

/-- Messages are written to an open outbox, some with success and some not, and the frames then taken
from it reach a reader in any chunks. It delivers exactly the messages whose write was accepted, each as
it was and in this order; it drops nothing, does not fail and keeps nothing. A write is refused only
because the message has no payload, or none that a frame can carry. -/
theorem feed_of_writeAll {codec : Codec} (known : codec = .binary ∨ codec = .json) {outbox : Outbox}
    (opened : outbox.isOpen = true) (empty : outbox.queue = []) (msgs : List Message) {η : Type}
    (handler : η) (onDropped : Option η) {chunks : List Bytes}
    (split : chunks.flatten = (outbox.writeAll codec msgs).1.takeAll.flatten) :
    let results := (outbox.writeAll codec msgs).2
    let accepted := Outbox.acceptedOf msgs results
    let fresh : FrameReader η := { onMessage := some handler, onDropped := onDropped }
    fresh.feed codec.decode chunks = (fresh, accepted.map (.message handler), .ok accepted.length) ∧
      results.length = msgs.length ∧
      ∀ error, .error error ∈ results →
        (∃ cause, error = .codec cause) ∨ ∃ cause, error = .wire cause := by
  intro results accepted fresh
  obtain ⟨queue, answers⟩ := Outbox.writeAll_of_isOpen opened codec msgs
  rw [empty, List.nil_append] at queue
  have same : results = msgs.map (Outbox.answerTo codec) := answers
  refine ⟨?_, ?_, fun error refused => ?_⟩
  · have joined : fresh.buffered ++ chunks.flatten = (Outbox.framesOf codec msgs).flatten := by
      rw [split, Outbox.takeAll_eq_queue, queue]
      rfl
    have cut := FrameReader.feed_eq_outcome codec.decode fresh rfl chunks
    rw [joined, cutFrames_framesOf known, ← same] at cut
    rw [cut]
    have calls : (accepted.map Arrival.message).filterMap fresh.callFor =
        accepted.map (.message handler) := by
      rw [List.filterMap_map, ← List.filterMap_eq_map]
      rfl
    have count : (accepted.map Arrival.message).countP FrameReader.isMessage = accepted.length := by
      rw [List.countP_map, ← List.countP_true]
      rfl
    unfold FrameReader.outcome
    rw [calls, count]
  · rw [same, List.length_map]
  · rw [same] at refused
    obtain ⟨msg, -, refused⟩ := List.mem_map.1 refused
    unfold Outbox.answerTo at refused
    cases framed : Outbox.frameOf codec msg with
    | error other =>
      rw [framed] at refused
      cases refused
      exact Channel.frameOf_error framed
    | ok bytes =>
      rw [framed] at refused
      cases refused

/-- Between two messages stands one whose type indicator is too long, and the second chunk ends inside a
header. -/
theorem feed_of_writeAll_with_refusal :
    let first := (⟨"0200", .empty⟩ : Message).set 41 (.text "TERM01")
    let long : Message := ⟨String.ofList (List.replicate 256 'x'), .empty⟩
    let second := (⟨"0800", .empty⟩ : Message).set 52 (.binary [0, 255])
    let outbox : Outbox := { status := .bound }
    let stream := (outbox.writeAll .binary [first, long, second]).1.takeAll.flatten
    let fresh : FrameReader Unit := { onMessage := some () }
    (outbox.writeAll .binary [first, long, second]).2 =
        [.ok (), .error (.codec (.mtiTooLong 256)), .ok ()] ∧
      fresh.feed Binary.decode [[], stream.take 3, stream.drop 3] =
        (fresh, [.message () first, .message () second], .ok 2) := by
  intro first long second outbox stream fresh
  have results : (outbox.writeAll .binary [first, long, second]).2 =
      [.ok (), .error (.codec (.mtiTooLong 256)), .ok ()] := by decide +kernel
  have whole : ([[], stream.take 3, stream.drop 3] : List Bytes).flatten = stream := by simp
  have spec := (feed_of_writeAll (.inl rfl) rfl rfl [first, long, second] () none whole).1
  rw [results] at spec
  exact ⟨results, spec⟩

end Iso8583
