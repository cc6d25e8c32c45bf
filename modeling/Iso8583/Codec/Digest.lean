import Iso8583.Checksum
import Iso8583.Codec.Binary

/-!
# Payloads too large to be made

A text can be longer than a list of its bytes could be kept. The length and the checksum of what
`Binary.encode` writes are found here without writing it.
-/

namespace Iso8583.Binary

def contentLength : FieldValue → Nat
  | .text text => text.utf8ByteSize
  | .binary bytes => bytes.length

def feedContent (remainder : UInt32) : FieldValue → UInt32
  | .text text => Checksum.feedText text 0 remainder
  | .binary bytes => bytes.foldl Checksum.feedByTable remainder

/-- The length and the remainder after one more field. -/
def digestField (digest : Nat × UInt32) (field : UInt32 × FieldValue) : Nat × UInt32 :=
  let front := Bytes.bigEndian 4 field.1.toNat ++ kind field.2 ::
    Bytes.bigEndian 4 (contentLength field.2)
  (digest.1 + front.length + contentLength field.2,
    feedContent (front.foldl Checksum.feedByTable digest.2) field.2)

/-- The length and the checksum of a payload. -/
def digest (msg : Message) : Except CodecError (Nat × UInt32) :=
  if 256 ≤ msg.mti.utf8ByteSize then .error (.mtiTooLong msg.mti.utf8ByteSize)
  else if 65536 ≤ msg.fields.size then .error (.tooManyFields msg.fields.size)
  else
    let front := Bytes.bigEndian 1 msg.mti.utf8ByteSize ++ Bytes.ofText msg.mti ++
      Bytes.bigEndian 2 msg.fields.size
    let (length, remainder) := msg.fields.toList.foldl digestField
      (front.length, front.foldl Checksum.feedByTable 0xFFFFFFFF)
    .ok (length, remainder ^^^ 0xFFFFFFFF)

end Iso8583.Binary
