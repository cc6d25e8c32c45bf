import Iso8583.Codec

/-!
# The binary layout

A payload is the length of the type indicator in one byte, the indicator, the number of fields in
two bytes, and for each field its number in four bytes, its kind in one, the length of its value in
four and the value. Numbers have the most significant byte first. A field may be repeated when
reading; the last one counts.
-/

namespace Iso8583.Binary

/-! ## Writing -/

def kind : FieldValue → UInt8
  | .text _ => 0
  | .binary _ => 1

def content : FieldValue → Bytes
  | .text text => Bytes.ofText text
  | .binary bytes => bytes

def encodeField (field : UInt32 × FieldValue) : Bytes :=
  Bytes.bigEndian 4 field.1.toNat ++ kind field.2 ::
    Bytes.bigEndian 4 (content field.2).length ++ content field.2

def encode (msg : Message) : Except CodecError Bytes :=
  let mti := Bytes.ofText msg.mti
  if 256 ≤ mti.length then .error (.mtiTooLong mti.length)
  else if 65536 ≤ msg.fields.size then .error (.tooManyFields msg.fields.size)
  else .ok (Bytes.bigEndian 1 mti.length ++ mti ++ Bytes.bigEndian 2 msg.fields.size ++
    msg.fields.toList.flatMap encodeField)

/-! ## Reading -/

/-- Cuts off the first `n` bytes. -/
def take (n : Nat) (bytes : Bytes) : Except CodecError (Bytes × Bytes) :=
  let (front, rest) := bytes.splitAt n
  if front.length < n then .error (.truncated n bytes.length) else .ok (front, rest)

/-- Cuts off a word of `width` bytes. -/
def takeWord (width : Nat) (bytes : Bytes) : Except CodecError (Nat × Bytes) :=
  (take width bytes).map fun (word, rest) => (Bytes.ofBigEndian word, rest)

/-- The value of a field, from its kind and its bytes. -/
def decodeValue (id : UInt32) (kind : UInt8) (raw : Bytes) : Except CodecError FieldValue :=
  if kind = 0 then
    match Bytes.toText? raw with
    | some text => .ok (.text text)
    | none => .error (.invalidUtf8 (.field id))
  else if kind = 1 then .ok (.binary raw)
  else .error (.unknownKind id kind)

def decodeField (bytes : Bytes) : Except CodecError ((UInt32 × FieldValue) × Bytes) := do
  let (id, bytes) ← takeWord 4 bytes
  let (kind, bytes) ← takeWord 1 bytes
  let (length, bytes) ← takeWord 4 bytes
  let (raw, bytes) ← take length bytes
  let value ← decodeValue (UInt32.ofNat id) (UInt8.ofNat kind) raw
  return ((UInt32.ofNat id, value), bytes)

/-- Cuts off `count` fields and sets them one after the other. -/
def decodeFields : (count : Nat) → Fields → Bytes → Except CodecError (Fields × Bytes)
  | 0, fields, bytes => .ok (fields, bytes)
  | count + 1, fields, bytes =>
    match decodeField bytes with
    | .error e => .error e
    | .ok ((id, value), rest) => decodeFields count (fields.insert id value) rest

def decode (bytes : Bytes) : Except CodecError Message := do
  let (mtiLength, bytes) ← takeWord 1 bytes
  let (mtiBytes, bytes) ← take mtiLength bytes
  let some mti := Bytes.toText? mtiBytes | .error (.invalidUtf8 .mti)
  let (count, bytes) ← takeWord 2 bytes
  let (fields, bytes) ← decodeFields count .empty bytes
  if bytes.isEmpty then return ⟨mti, fields⟩ else .error (.trailingBytes bytes.length)

end Iso8583.Binary

namespace Iso8583

def Codec.binary : Codec := ⟨Binary.encode, Binary.decode⟩

end Iso8583
