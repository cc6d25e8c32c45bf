import Iso8583.Proofs.Codec.BinaryRoundTrip
import Iso8583.Proofs.Codec.JsonRoundTrip
import Iso8583.Proofs.Framing.Payloads

/-!
# Messages that were received survive being stored

A message is stored as the bytes of its codec. Whoever takes them reads the same message again.
-/

namespace Iso8583.Codec

theorem decode_of_receives {codec : Codec} (known : codec = .binary ∨ codec = .json) {msg : Message}
    {bytes : Bytes} (received : codec.Receives msg) (written : codec.encode msg = .ok bytes) :
    codec.decode bytes = .ok msg := by
  obtain ⟨payload, short, read⟩ := received
  rcases known with rfl | rfl
  · have small : payload.length < 2 ^ 32 := by
      unfold maxPayload at short
      omega
    exact Binary.decode_encode_of_decode small read written
  · have same : Json.writeMessage msg = bytes := Except.ok.inj written
    rw [← same]
    exact json_decode_writeMessage msg

end Iso8583.Codec
