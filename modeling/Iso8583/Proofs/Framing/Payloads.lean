import Iso8583.FrameReader

/-!
# Where messages come from

Every message that a reader hands on was decoded from the payload of a frame, which has its limit.
-/

namespace Iso8583

theorem length_of_deframe {bytes payload : Bytes} {length : Nat}
    (h : deframe bytes = .ok (some (payload, length))) : payload.length ≤ maxPayload := by
  simp only [deframe] at h
  split at h
  · cases h
  split at h
  · cases h
  rename_i header read
  split at h
  · cases h
  split at h
  · cases h
    have bound := (FrameHeader.length_of_ofBytes read).2
    rw [List.length_drop, List.length_take]
    omega
  · cases h

/-- A message that can arrive in a frame. -/
def Codec.Receives (codec : Codec) (msg : Message) : Prop :=
  ∃ payload : Bytes, payload.length ≤ maxPayload ∧ codec.decode payload = .ok msg

theorem receives_of_arrival {codec : Codec} {stream : Bytes} {msg : Message}
    (h : .message msg ∈ (cutFrames codec.decode stream).arrivals) : codec.Receives msg := by
  fun_induction cutFrames codec.decode stream with
  | case1 stream undecided => cases h
  | case2 stream payload length found ih =>
    rcases List.mem_cons.1 h with first | later
    · unfold arrivalOf at first
      split at first
      · rename_i read
        cases first
        exact ⟨payload, length_of_deframe found, read⟩
      · cases first
    · exact ih later
  | case3 stream expected actual length found ih =>
    rcases List.mem_cons.1 h with first | later
    · cases first
    · exact ih later
  | case4 stream error notMismatch found => cases h

namespace FrameReader

variable {η : Type}

theorem receives_of_ingest {codec : Codec} {reader : FrameReader η} {chunk : Bytes} {handler : η}
    {msg : Message} (h : .message handler msg ∈ (reader.ingest codec.decode chunk).2.1) :
    codec.Receives msg := by
  rw [ingest_eq] at h
  obtain ⟨arrival, arrived, call⟩ := List.mem_filterMap.1 h
  cases arrival with
  | message other =>
    obtain ⟨name, -, same⟩ := Option.map_eq_some_iff.1 call
    cases same
    exact receives_of_arrival arrived
  | dropped error =>
    obtain ⟨name, -, same⟩ := Option.map_eq_some_iff.1 call
    cases same

end FrameReader

end Iso8583
