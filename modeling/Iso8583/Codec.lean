import Iso8583.Json.Problem
import Iso8583.Message

/-!
# Codecs

A codec turns a message into a payload and a payload back into a message.
-/

namespace Iso8583

/-- The text inside a payload that is not UTF-8. -/
inductive PayloadText where
  | mti
  | field (id : UInt32)
  deriving DecidableEq, Repr

/-- Why a message has no payload, or a payload no message. -/
inductive CodecError where
  | truncated (needed present : Nat)
  | unknownKind (field : UInt32) (kind : UInt8)
  | invalidUtf8 (what : PayloadText)
  | trailingBytes (count : Nat)
  | mtiTooLong (length : Nat)
  | tooManyFields (count : Nat)
  | json (problem : Json.Problem)
  deriving DecidableEq, Repr

def CodecError.message : CodecError → String
  | truncated needed present =>
    "truncated payload: need " ++ toString needed ++ " bytes, have " ++ toString present
  | unknownKind field kind =>
    "unknown kind " ++ toString kind.toNat ++ " for field " ++ toString field.toNat
  | invalidUtf8 .mti => "invalid utf-8 in mti"
  | invalidUtf8 (.field id) => "invalid utf-8 in field " ++ toString id.toNat
  | trailingBytes count => toString count ++ " trailing bytes after message"
  | mtiTooLong length => "MTI too long: " ++ toString length ++ " bytes"
  | tooManyFields count => "too many fields: " ++ toString count
  | json problem => "json codec error: " ++ problem.message

/-- A way to write messages as payloads and to read them. -/
structure Codec where
  encode : Message → Except CodecError Bytes
  decode : Bytes → Except CodecError Message

end Iso8583
