import Iso8583.Proofs.Framing.Resynchronising

/-!
# Reading ends, and keeps less than a frame

The length by which a reader goes on was announced by a header, and headers may announce anything. A length
that passes the checks of the header is that of a frame which lies whole in the buffer, so each round that goes
on takes away at least a header, and what cannot go on is shorter than the longest frame.
-/

namespace Iso8583

/-! ## Checked steps -/

/-- What stops a reader that checks its steps. -/
inductive ReadFault where
  /-- More bytes are to be removed than there are. -/
  | pastEnd (count present : Nat)
  | tooManyRounds
  deriving DecidableEq

def drain (count : Nat) (buffer : Bytes) : Except ReadFault Bytes :=
  if count ≤ buffer.length then .ok (buffer.drop count) else .error (.pastEnd count buffer.length)

/-- What a round of reading comes to. -/
inductive ReadRound where
  /-- A frame is removed, and the rest of the buffer is read. -/
  | goesOn (arrival : Arrival) (rest : Bytes)
  | ends (rest : Bytes) (error : Option FrameError)
  deriving DecidableEq

def readRound (decode : Bytes → Except CodecError Message) (buffer : Bytes) : Except ReadFault ReadRound :=
  match deframe buffer with
  | .ok none => return .ends buffer none
  | .ok (some (payload, length)) => return .goesOn (arrivalOf decode payload) (← drain length buffer)
  | .error (.checksumMismatch expected actual length) =>
    return .goesOn (.dropped (.wire (.checksumMismatch expected actual length))) (← drain length buffer)
  | .error error => return .ends [] (some error)

/-- Cuts a stream in rounds, of which no more than the given number go on. -/
def cutWithin (decode : Bytes → Except CodecError Message) (rounds : Nat) (stream : Bytes) :
    Except ReadFault Cut := do
  match ← readRound decode stream with
  | .ends rest error => return ⟨[], rest, error⟩
  | .goesOn arrival rest =>
    match rounds with
    | 0 => throw .tooManyRounds
    | rounds + 1 => return (← cutWithin decode rounds rest).cons arrival

/-! ## Rounds -/

variable {decode : Bytes → Except CodecError Message}

theorem Envelope.readRound_append (envelope : Envelope) (more : Bytes) :
    readRound decode (envelope.bytes ++ more) = .ok (.goesOn (envelope.arrival decode) more) := by
  have read := envelope.deframe_append more
  have present : envelope.bytes.length ≤ (envelope.bytes ++ more).length := by
    rw [List.length_append]
    omega
  have drained : drain envelope.bytes.length (envelope.bytes ++ more) = .ok more := by
    unfold drain
    rw [if_pos present, List.drop_left]
  unfold reading at read
  unfold readRound arrival
  split at read
  · rename_i right
    rw [if_pos right, read]
    dsimp only
    rw [drained]
    rfl
  · rename_i wrong
    rw [if_neg wrong, read]
    dsimp only
    rw [drained]
    rfl

theorem readRound_cases (decode : Bytes → Except CodecError Message) (buffer : Bytes) :
    (∃ rest error, readRound decode buffer = .ok (.ends rest error) ∧
      cutFrames decode buffer = ⟨[], rest, error⟩) ∨
    ∃ (envelope : Envelope) (more : Bytes), buffer = envelope.bytes ++ more := by
  rcases Envelope.deframe_cases buffer with undecided | ⟨error, refused, fatal⟩ | ⟨envelope, more, starts⟩
  · refine .inl ⟨buffer, none, ?_, cutFrames_of_none undecided⟩
    unfold readRound
    rw [undecided]
    rfl
  · refine .inl ⟨[], some error, ?_, cutFrames_of_fatal refused fatal⟩
    unfold readRound
    rw [refused]
    cases error with
    | checksumMismatch expected actual length => cases fatal
    | _ => rfl
  · exact .inr ⟨envelope, more, starts.symm⟩

theorem removed_of_goesOn {buffer rest : Bytes} {arrival : Arrival}
    (round : readRound decode buffer = .ok (.goesOn arrival rest)) :
    ∃ removed, buffer = removed ++ rest ∧ headerSize ≤ removed.length := by
  rcases readRound_cases decode buffer with ⟨other, error, ends, -⟩ | ⟨envelope, more, rfl⟩
  · rw [ends] at round
    cases round
  · rw [envelope.readRound_append] at round
    cases round
    refine ⟨envelope.bytes, rfl, ?_⟩
    rw [envelope.length_bytes]
    omega

/-- As many rounds go on as frames are cut off. -/
theorem cutWithin_eq (decode : Bytes → Except CodecError Message) (rounds : Nat) (stream : Bytes) :
    cutWithin decode rounds stream =
      if rounds < (cutFrames decode stream).arrivals.length then .error .tooManyRounds
      else .ok (cutFrames decode stream) := by
  induction rounds generalizing stream with
  | zero =>
    unfold cutWithin
    rcases readRound_cases decode stream with ⟨rest, error, ends, cut⟩ | ⟨envelope, more, rfl⟩
    · rw [ends, cut]
      rfl
    · rw [envelope.readRound_append, envelope.cutFrames_append]
      rfl
  | succ rounds ih =>
    unfold cutWithin
    rcases readRound_cases decode stream with ⟨rest, error, ends, cut⟩ | ⟨envelope, more, rfl⟩
    · rw [ends, cut]
      rfl
    · rw [envelope.readRound_append, envelope.cutFrames_append]
      change (cutWithin decode rounds more >>= fun cut => pure (cut.cons (envelope.arrival decode))) = _
      rw [ih]
      have counted : ((cutFrames decode more).cons (envelope.arrival decode)).arrivals.length =
          (cutFrames decode more).arrivals.length + 1 := rfl
      simp only [counted, Nat.add_lt_add_iff_right]
      split <;> rfl

/-! ## Lengths -/

theorem length_of_undecided {stream : Bytes} (undecided : deframe stream = .ok none) :
    stream.length < headerSize + maxPayload := by
  unfold deframe at undecided
  simp only [Bytes.isShorter_iff] at undecided
  split at undecided
  · rename_i short
    exact Nat.lt_add_right maxPayload short
  · split at undecided
    · cases undecided
    · rename_i header read
      have most := (FrameHeader.length_of_ofBytes read).2
      split at undecided
      · omega
      · split at undecided <;> cases undecided

theorem length_cutFrames_le (decode : Bytes → Except CodecError Message) (stream : Bytes) :
    headerSize * (cutFrames decode stream).arrivals.length + (cutFrames decode stream).rest.length ≤
      stream.length := by
  fun_induction cutFrames decode stream with
  | case1 stream undecided => simp
  | case2 stream payload length found ih =>
    have bounds := deframe_bounds found
    rw [List.length_drop] at ih
    simp only [Cut.cons, List.length_cons, Nat.mul_add]
    omega
  | case3 stream expected actual length found ih =>
    have bounds := deframe_mismatch_bounds found
    rw [List.length_drop] at ih
    simp only [Cut.cons, List.length_cons, Nat.mul_add]
    omega
  | case4 stream error notMismatch found => simp

/-! ## Calls of a reader -/

/-- One chunk taken in: the reader before and after it, what it called, and what it answered. -/
structure Reading (η : Type) where
  before : FrameReader η
  chunk : Bytes
  after : FrameReader η
  calls : List (ReaderCall η)
  result : Except FrameError Nat

namespace FrameReader

variable {η : Type}

def readings (decode : Bytes → Except CodecError Message) (reader : FrameReader η) :
    List Bytes → List (Reading η)
  | [] => []
  | chunk :: chunks =>
    let taken := reader.ingest decode chunk
    ⟨reader, chunk, taken.1, taken.2.1, taken.2.2⟩ :: taken.1.readings decode chunks

/-- Takes in a chunk with every step checked. -/
def ingestWithin (decode : Bytes → Except CodecError Message) (rounds : Nat) (reader : FrameReader η)
    (chunk : Bytes) : Except ReadFault (FrameReader η × List (ReaderCall η) × Except FrameError Nat) :=
  (cutWithin decode rounds (reader.buffered ++ chunk)).map reader.outcome

theorem ingest_of_mem_readings {reader : FrameReader η} {chunks : List Bytes} {reading : Reading η}
    (mem : reading ∈ reader.readings decode chunks) :
    reading.before.ingest decode reading.chunk = (reading.after, reading.calls, reading.result) := by
  induction chunks generalizing reader with
  | nil => cases mem
  | cons chunk chunks ih =>
    rcases List.mem_cons.1 mem with rfl | later
    · rfl
    · exact ih later

theorem result_outcome_eq_error_iff {reader : FrameReader η} {cut : Cut} {error : FrameError} :
    (reader.outcome cut).2.2 = .error error ↔ cut.error = some error := by
  unfold outcome
  cases cut.error <;> simp

theorem ingestWithin_eq (decode : Bytes → Except CodecError Message) (rounds : Nat) (reader : FrameReader η)
    (chunk : Bytes) : reader.ingestWithin decode rounds chunk =
      if rounds < (cutFrames decode (reader.buffered ++ chunk)).arrivals.length then .error .tooManyRounds
      else .ok (reader.ingest decode chunk) := by
  have taken : reader.ingest decode chunk = reader.outcome (cutFrames decode (reader.buffered ++ chunk)) :=
    ingest_eq decode reader chunk
  unfold ingestWithin
  rw [cutWithin_eq, taken]
  split <;> rfl

theorem buffered_ingest_dropLast (decode : Bytes → Except CodecError Message) (envelope : Envelope) :
    (({} : FrameReader η).ingest decode envelope.bytes.dropLast).1.buffered = envelope.bytes.dropLast := by
  have length := envelope.length_bytes
  have strict : envelope.bytes.dropLast ≠ envelope.bytes := by
    intro same
    have shorter := congrArg List.length same
    rw [List.length_dropLast] at shorter
    unfold headerSize at length
    omega
  have part := Envelope.deframe_of_part (List.dropLast_prefix envelope.bytes) strict
  have empty : ({} : FrameReader η).buffered = [] := rfl
  rw [ingest_eq, empty, List.nil_append, cutFrames_of_none part]
  rfl

theorem exists_length_buffered (decode : Bytes → Except CodecError Message) :
    ∃ chunk, (({} : FrameReader η).ingest decode chunk).1.buffered.length = headerSize + maxPayload - 1 := by
  obtain ⟨envelope, full⟩ : ∃ envelope : Envelope, envelope.payload.length = maxPayload :=
    ⟨⟨List.replicate maxPayload 0, 0, Nat.le_of_eq List.length_replicate⟩, List.length_replicate⟩
  refine ⟨envelope.bytes.dropLast, ?_⟩
  rw [buffered_ingest_dropLast, List.length_dropLast, envelope.length_bytes, full]

/-- Whatever a reader takes in, between calls it keeps less than the longest frame, and nothing behind an error.
Each call ends, with as many rounds going on as frames are cut off, and each of these rounds removes at least a
header of bytes that are in the buffer. -/
theorem reading_is_bounded (decode : Bytes → Except CodecError Message) (reader : FrameReader η)
    (chunks : List Bytes) :
    (∀ reading ∈ reader.readings decode chunks,
      let stream := reading.before.buffered ++ reading.chunk
      let frames := (cutFrames decode stream).arrivals.length
      reading.after.buffered.length ≤ headerSize + maxPayload - 1 ∧
      (∀ error, reading.result = .error error → reading.after.buffered = []) ∧
      headerSize * frames + reading.after.buffered.length ≤ stream.length ∧
      ∀ rounds, reading.before.ingestWithin decode rounds reading.chunk =
        if rounds < frames then .error .tooManyRounds
        else .ok (reading.after, reading.calls, reading.result)) ∧
    (∀ buffer arrival rest, readRound decode buffer = .ok (.goesOn arrival rest) →
      ∃ removed, buffer = removed ++ rest ∧ headerSize ≤ removed.length) ∧
    ∃ chunk, (({} : FrameReader η).ingest decode chunk).1.buffered.length = headerSize + maxPayload - 1 := by
  refine ⟨?_, ?_, exists_length_buffered decode⟩
  · intro reading mem stream frames
    have ingested := ingest_of_mem_readings mem
    have taken : reading.before.outcome (cutFrames decode stream) =
        (reading.after, reading.calls, reading.result) :=
      (ingest_eq decode reading.before reading.chunk).symm.trans ingested
    have kept : reading.after.buffered = (cutFrames decode stream).rest :=
      congrArg (fun taken => taken.1.buffered) taken.symm
    have result : reading.result = (reading.before.outcome (cutFrames decode stream)).2.2 :=
      congrArg (fun taken => taken.2.2) taken.symm
    refine ⟨?_, ?_, ?_, ?_⟩
    · rw [kept]
      exact Nat.le_sub_one_of_lt (length_of_undecided (deframe_rest_cutFrames decode stream))
    · intro error failed
      rw [result, result_outcome_eq_error_iff] at failed
      rw [kept]
      exact rest_cutFrames_of_error failed
    · rw [kept]
      exact length_cutFrames_le decode stream
    · intro rounds
      rw [← ingested]
      exact ingestWithin_eq decode rounds reading.before reading.chunk
  · intro buffer arrival rest round
    exact removed_of_goesOn round

/-- The second chunk ends a good frame, brings one whose checksum is wrong and begins a header that announces
seven bytes; the third ends that header. -/
theorem reading_is_bounded_across_error :
    let good : Bytes := [15, 0, 0, 0, 50, 117, 108, 165, 4, 48, 56, 48, 48, 0, 0]
    let wrong : Bytes := [15, 0, 0, 0, 0, 0, 0, 0, 4, 48, 56, 48, 48, 0, 0]
    let reader : FrameReader Bool := { onMessage := some true, onDropped := some false }
    let chunks : List Bytes := [good.take 5, good.drop 5 ++ wrong ++ [7, 0, 0], [0, 1, 2, 3, 4, 9], [1, 2]]
    let readings := reader.readings Binary.decode chunks
    let mismatch : Arrival := .dropped (.wire (.checksumMismatch 0 0xA56C7532 15))
    ∃ second third : Reading Bool, readings[1]? = some second ∧ readings[2]? = some third ∧
      second.before.ingestWithin Binary.decode 1 second.chunk = .error .tooManyRounds ∧
      second.before.ingestWithin Binary.decode 2 second.chunk = .ok (second.after, second.calls, .ok 1) ∧
      second.after.buffered = [7, 0, 0] ∧
      third.result = .error (.invalidLength 7) ∧ third.after.buffered = [] ∧
      readRound Binary.decode (wrong ++ [7, 0, 0]) = .ok (.goesOn mismatch [7, 0, 0]) ∧
      ∃ removed : Bytes, wrong ++ [7, 0, 0] = removed ++ [7, 0, 0] ∧ headerSize ≤ removed.length := by
  intro good wrong reader chunks readings mismatch
  have round : readRound Binary.decode (wrong ++ [7, 0, 0]) = .ok (.goesOn mismatch [7, 0, 0]) := by
    decide +kernel
  obtain ⟨bounded, progress, -⟩ := reading_is_bounded Binary.decode reader chunks
  obtain ⟨second, found, kept, counted, frames⟩ : ∃ second, readings[1]? = some second ∧
      second.after.buffered = [7, 0, 0] ∧ second.result = .ok 1 ∧
      (cutFrames Binary.decode (second.before.buffered ++ second.chunk)).arrivals.length = 2 :=
    ⟨_, rfl, by decide +kernel, by decide +kernel, by decide +kernel⟩
  obtain ⟨third, next, failed⟩ : ∃ third, readings[2]? = some third ∧
      third.result = .error (.invalidLength 7) :=
    ⟨_, rfl, by decide +kernel⟩
  obtain ⟨-, -, -, ends⟩ := bounded second (List.mem_of_getElem? found)
  obtain ⟨-, emptied, -, -⟩ := bounded third (List.mem_of_getElem? next)
  refine ⟨second, third, found, next, ?_, ?_, kept, failed, emptied _ failed, round, progress _ _ _ round⟩
  · exact (ends 1).trans (if_pos (by rw [frames]; decide))
  · have result := (ends 2).trans (if_neg (by rw [frames]; decide))
    rw [counted] at result
    exact result

end FrameReader

end Iso8583
