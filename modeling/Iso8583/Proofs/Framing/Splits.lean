import Iso8583.Codec.Binary
import Iso8583.Proofs.Framing.Payloads

/-!
# Reading does not depend on how a stream is split

A stream reaches a reader in chunks. Whatever the chunks are, the reader makes the same calls, counts
the same messages, keeps the same bytes, and stops at the same header if there is one that it cannot
pass over.
-/

namespace Iso8583

/-! ## A decided frame stays decided -/

theorem FrameHeader.ofBytes_append {bytes : Bytes} (long : headerSize ≤ bytes.length) (more : Bytes) :
    ofBytes (bytes ++ more) = ofBytes bytes := by
  have longer : headerSize ≤ (bytes ++ more).length := by rw [List.length_append]; omega
  rw [← ofBytes_take longer, ← ofBytes_take long, List.take_append_of_le_length long]

theorem deframe_append {bytes : Bytes} (decided : deframe bytes ≠ .ok none) (more : Bytes) :
    deframe (bytes ++ more) = deframe bytes := by
  unfold deframe at decided ⊢
  simp only [Bytes.isShorter_iff, List.length_append] at decided ⊢
  have long : headerSize ≤ bytes.length := Nat.not_lt.1 fun short => decided (if_pos short)
  rw [if_neg (by omega : ¬bytes.length < headerSize)] at decided
  rw [if_neg (by omega : ¬bytes.length + more.length < headerSize),
    if_neg (by omega : ¬bytes.length < headerSize), FrameHeader.ofBytes_append long]
  cases read : FrameHeader.ofBytes bytes with
  | error error => rfl
  | ok header =>
    simp only [read] at decided ⊢
    have whole : header.length.toNat ≤ bytes.length :=
      Nat.not_lt.1 fun short => decided (if_pos short)
    rw [if_neg (by omega : ¬bytes.length + more.length < header.length.toNat),
      if_neg (by omega : ¬bytes.length < header.length.toNat), List.take_append_of_le_length whole]

/-! ## Cutting in two rounds -/

/-- What becomes of a stream that goes on with `more` after it has been cut. -/
def Cut.resume (decode : Bytes → Except CodecError Message) (cut : Cut) (more : Bytes) : Cut :=
  match cut.error with
  | some _ => cut
  | none =>
    let next := cutFrames decode (cut.rest ++ more)
    { next with arrivals := cut.arrivals ++ next.arrivals }

theorem Cut.resume_cons (decode : Bytes → Except CodecError Message) (arrival : Arrival) (cut : Cut)
    (more : Bytes) : (cut.cons arrival).resume decode more = (cut.resume decode more).cons arrival := by
  obtain ⟨arrivals, rest, error⟩ := cut
  cases error <;> rfl

/-- A stream can be cut as far as it goes, and the rest together with what follows. -/
theorem cutFrames_append (decode : Bytes → Except CodecError Message) (stream more : Bytes) :
    cutFrames decode (stream ++ more) = (cutFrames decode stream).resume decode more := by
  fun_induction cutFrames decode stream with
  | case1 stream undecided => rfl
  | case2 stream payload length found ih =>
    have bounds := deframe_bounds found
    have still := (deframe_append (by rw [found]; simp) more).trans found
    rw [cutFrames_of_some still, List.drop_append_of_le_length bounds.2, ih, Cut.resume_cons]
  | case3 stream expected actual length found ih =>
    have bounds := deframe_mismatch_bounds found
    have still := (deframe_append (by rw [found]; simp) more).trans found
    rw [cutFrames_of_mismatch still, List.drop_append_of_le_length bounds.2, ih, Cut.resume_cons]
  | case4 stream error notMismatch found =>
    have fatal : error.isRecoverable = false := by
      cases error <;> first | rfl | exact absurd rfl (notMismatch _ _ _)
    have still := (deframe_append (by rw [found]; simp) more).trans found
    rw [cutFrames_of_fatal still fatal]
    rfl

theorem deframe_rest_cutFrames (decode : Bytes → Except CodecError Message) (stream : Bytes) :
    deframe (cutFrames decode stream).rest = .ok none := by
  fun_induction cutFrames decode stream with
  | case1 stream undecided => exact undecided
  | case2 stream payload length found ih => exact ih
  | case3 stream expected actual length found ih => exact ih
  | case4 stream error notMismatch found => rfl

theorem rest_cutFrames_of_error {decode : Bytes → Except CodecError Message} {stream : Bytes}
    {error : FrameError} (h : (cutFrames decode stream).error = some error) :
    (cutFrames decode stream).rest = [] := by
  fun_induction cutFrames decode stream with
  | case1 stream undecided => cases h
  | case2 stream payload length found ih => exact ih h
  | case3 stream expected actual length found ih => exact ih h
  | case4 stream fatal notMismatch found => rfl

/-! ## Where frames start -/

/-- The places of a stream at which a frame starts, right behind the frames before it. -/
inductive FrameStart (stream : Bytes) : Nat → Prop where
  | first : FrameStart stream 0
  | behind {place length : Nat} {payload : Bytes} (start : FrameStart stream place)
      (found : deframe (stream.drop place) = .ok (some (payload, length))) :
      FrameStart stream (place + length)
  | behindMismatch {place length : Nat} {expected actual : UInt32} (start : FrameStart stream place)
      (found : deframe (stream.drop place) = .error (.checksumMismatch expected actual length)) :
      FrameStart stream (place + length)

/-- A stream holds a header that cannot be passed over. -/
def EndsAt (stream : Bytes) (error : FrameError) : Prop :=
  ∃ place, FrameStart stream place ∧ deframe (stream.drop place) = .error error ∧
    error.isRecoverable = false

theorem FrameStart.shift {stream : Bytes} {length place : Nat} (next : FrameStart stream length)
    (h : FrameStart (stream.drop length) place) : FrameStart stream (length + place) := by
  induction h with
  | first => exact next
  | behind start found ih =>
    rw [List.drop_drop] at found
    rw [← Nat.add_assoc]
    exact .behind ih found
  | behindMismatch start found ih =>
    rw [List.drop_drop] at found
    rw [← Nat.add_assoc]
    exact .behindMismatch ih found

theorem EndsAt.shift {stream : Bytes} {length : Nat} {error : FrameError}
    (next : FrameStart stream length) (h : EndsAt (stream.drop length) error) :
    EndsAt stream error := by
  obtain ⟨place, start, found, fatal⟩ := h
  rw [List.drop_drop] at found
  exact ⟨length + place, next.shift start, found, fatal⟩

theorem error_cutFrames_drop (decode : Bytes → Except CodecError Message) {stream : Bytes}
    {place : Nat} (h : FrameStart stream place) :
    (cutFrames decode stream).error = (cutFrames decode (stream.drop place)).error := by
  induction h with
  | first => rfl
  | behind start found ih => rw [ih, cutFrames_of_some found, List.drop_drop]; rfl
  | behindMismatch start found ih => rw [ih, cutFrames_of_mismatch found, List.drop_drop]; rfl

theorem error_cutFrames_iff {decode : Bytes → Except CodecError Message} {stream : Bytes}
    {error : FrameError} : (cutFrames decode stream).error = some error ↔ EndsAt stream error := by
  constructor
  · intro h
    fun_induction cutFrames decode stream with
    | case1 stream undecided => cases h
    | case2 stream payload length found ih =>
      have next : FrameStart stream (0 + length) := .behind .first found
      rw [Nat.zero_add] at next
      exact (ih h).shift next
    | case3 stream expected actual length found ih =>
      have next : FrameStart stream (0 + length) := .behindMismatch .first found
      rw [Nat.zero_add] at next
      exact (ih h).shift next
    | case4 stream fatal notMismatch found =>
      cases h
      exact ⟨0, .first, found, by cases error <;> first | rfl | exact absurd rfl (notMismatch _ _ _)⟩
  · rintro ⟨place, start, found, fatal⟩
    rw [error_cutFrames_drop decode start, cutFrames_of_fatal found fatal]

namespace FrameReader

variable {η : Type}

/-! ## Chunk after chunk -/

/-- Feeds chunks one by one, up to the first one that fails: the reader after it, all calls, and the
number of messages or the error. -/
def feed (decode : Bytes → Except CodecError Message) (reader : FrameReader η) :
    List Bytes → FrameReader η × List (ReaderCall η) × Except FrameError Nat
  | [] => (reader, [], .ok 0)
  | chunk :: chunks =>
    match reader.ingest decode chunk with
    | (reader, calls, .error error) => (reader, calls, .error error)
    | (reader, calls, .ok count) =>
      let (reader, more, result) := feed decode reader chunks
      (reader, calls ++ more, result.map (count + ·))

def outcome (reader : FrameReader η) (cut : Cut) :
    FrameReader η × List (ReaderCall η) × Except FrameError Nat :=
  ({ reader with buffer := cut.rest.toArray }, cut.arrivals.filterMap reader.callFor,
    match cut.error with
    | none => .ok (cut.arrivals.countP isMessage)
    | some error => .error error)

theorem callFor_buffer (reader : FrameReader η) (buffer : Array UInt8) :
    callFor { reader with buffer := buffer } = reader.callFor := by
  funext arrival
  cases arrival <;> rfl

theorem feed_eq_outcome (decode : Bytes → Except CodecError Message) (reader : FrameReader η)
    (undecided : deframe reader.buffered = .ok none) (chunks : List Bytes) :
    reader.feed decode chunks = reader.outcome (cutFrames decode (reader.buffered ++ chunks.flatten)) := by
  induction chunks generalizing reader with
  | nil =>
    rw [List.flatten_nil, List.append_nil, cutFrames_of_none undecided]
    rfl
  | cons chunk chunks ih =>
    have first : reader.ingest decode chunk =
        reader.outcome (cutFrames decode (reader.buffered ++ chunk)) := ingest_eq decode reader chunk
    rw [List.flatten_cons, ← List.append_assoc, cutFrames_append]
    unfold feed Cut.resume
    rw [first]
    have rest := deframe_rest_cutFrames decode (reader.buffered ++ chunk)
    generalize cutFrames decode (reader.buffered ++ chunk) = cut at rest
    obtain ⟨arrivals, left, error⟩ := cut
    cases error with
    | some error => rfl
    | none =>
      -- The reader after the first chunk keeps what the first cut has left.
      have next := ih { reader with buffer := left.toArray } rest
      have kept : buffered { reader with buffer := left.toArray } = left := rfl
      rw [kept] at next
      simp only [outcome, next, callFor_buffer, List.filterMap_append, List.countP_append]
      cases (cutFrames decode (left ++ chunks.flatten)).error <;> rfl

/-- Two ways to split a stream lead to the same calls in the same order, the same count, and the same
bytes kept. Feeding fails exactly if the stream holds a header that cannot be passed over, with that
header's error, and then no bytes are kept. -/
theorem feed_eq_of_flatten_eq (decode : Bytes → Except CodecError Message) (onMessage onDropped : Option η)
    {first second : List Bytes} (same : first.flatten = second.flatten) :
    let fresh : FrameReader η := { onMessage := onMessage, onDropped := onDropped }
    fresh.feed decode first = fresh.feed decode second ∧
      (∀ error, (fresh.feed decode first).2.2 = .error error ↔ EndsAt first.flatten error) ∧
      ∀ error, (fresh.feed decode first).2.2 = .error error →
        (fresh.feed decode first).1.buffered = [] := by
  intro fresh
  have whole (chunks : List Bytes) :
      fresh.feed decode chunks = fresh.outcome (cutFrames decode chunks.flatten) :=
    feed_eq_outcome decode fresh rfl chunks
  have failed (error : FrameError) : (fresh.feed decode first).2.2 = .error error ↔
      (cutFrames decode first.flatten).error = some error := by
    rw [whole]
    unfold outcome
    cases (cutFrames decode first.flatten).error <;> simp
  refine ⟨by rw [whole, whole, same], fun error => (failed error).trans error_cutFrames_iff, ?_⟩
  intro error h
  rw [whole]
  exact rest_cutFrames_of_error ((failed error).1 h)

theorem feed_split_in_header :
    ([[7, 0, 0], [], [0, 1, 2, 3, 4, 9]] : List Bytes).flatten =
        ([[7, 0, 0, 0, 1, 2, 3], [4, 9]] : List Bytes).flatten ∧
      ({ onMessage := some () } : FrameReader Unit).feed Binary.decode
          [[7, 0, 0], [], [0, 1, 2, 3, 4, 9]] =
        ({ onMessage := some () } : FrameReader Unit).feed Binary.decode
          [[7, 0, 0, 0, 1, 2, 3], [4, 9]] ∧
      (({ onMessage := some () } : FrameReader Unit).feed Binary.decode
          [[7, 0, 0], [], [0, 1, 2, 3, 4, 9]]).2.2 = .error (.invalidLength 7) := by
  have spec := feed_eq_of_flatten_eq Binary.decode (some ()) none
    (show ([[7, 0, 0], [], [0, 1, 2, 3, 4, 9]] : List Bytes).flatten =
      ([[7, 0, 0, 0, 1, 2, 3], [4, 9]] : List Bytes).flatten from rfl)
  have header : EndsAt ([[7, 0, 0], [], [0, 1, 2, 3, 4, 9]] : List Bytes).flatten
      (.invalidLength 7) := ⟨0, .first, rfl, rfl⟩
  exact ⟨rfl, spec.1, (spec.2.1 _).2 header⟩

end FrameReader

end Iso8583
