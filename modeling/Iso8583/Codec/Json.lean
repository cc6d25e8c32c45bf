import Iso8583.Codec
import Iso8583.Json.Value

/-!
# The JSON layout

A message is an object with `mti` and `fields`; `fields` is an object from field numbers to values;
a value is an object with `kind`, which is `text` or `binary`, and `value`, which is a string or an
array of bytes. When reading, messages and values may also be arrays of their parts in that order,
the parts of a value may come in either order, and other members are passed over.
-/

namespace Iso8583.Json

/-! ## Writing -/

def ascii (text : String) : Bytes :=
  text.toList.map fun c => UInt8.ofNat c.toNat

def decimal (n : Nat) : Bytes :=
  (Nat.toDigits 10 n).map fun c => UInt8.ofNat c.toNat

def hexByte (n : Nat) : UInt8 :=
  UInt8.ofNat (Bytes.hexDigit n).toNat

/-- One byte inside a string: the quote, the backslash and controls are escaped. -/
def escapeByte (b : UInt8) : Bytes :=
  if b = 0x22 then [0x5C, 0x22]
  else if b = 0x5C then [0x5C, 0x5C]
  else if b = 0x08 then [0x5C, 0x62]
  else if b = 0x0C then [0x5C, 0x66]
  else if b = 0x0A then [0x5C, 0x6E]
  else if b = 0x0D then [0x5C, 0x72]
  else if b = 0x09 then [0x5C, 0x74]
  else if b < 0x20 then
    [0x5C, 0x75, 0x30, 0x30, hexByte (b.toNat / 16), hexByte (b.toNat % 16)]
  else [b]

def writeString (text : String) : Bytes :=
  0x22 :: (Bytes.ofText text).flatMap escapeByte ++ [0x22]

def separated : List Bytes → Bytes
  | [] => []
  | item :: items => item ++ items.flatMap fun item => 0x2C :: item

def writeValue : FieldValue → Bytes
  | .text text => ascii "\x7b\"kind\":\"text\",\"value\":" ++ writeString text ++ [0x7D]
  | .binary bytes =>
    ascii "\x7b\"kind\":\"binary\",\"value\":[" ++
      separated (bytes.map fun b => decimal b.toNat) ++ [0x5D, 0x7D]

def writeField (field : UInt32 × FieldValue) : Bytes :=
  0x22 :: decimal field.1.toNat ++ [0x22, 0x3A] ++ writeValue field.2

def writeMessage (msg : Message) : Bytes :=
  ascii "\x7b\"mti\":" ++ writeString msg.mti ++ ascii ",\"fields\":\x7b" ++
    separated (msg.fields.toList.map writeField) ++ [0x7D, 0x7D]

/-! ## Reading field values -/

/-- The kinds of field values. -/
inductive Kind where
  | text
  | binary
  deriving DecidableEq, Repr

def Kind.ofName? (name : String) : Option Kind :=
  if name = "text" then some .text else if name = "binary" then some .binary else none

/-- Reads the name of a kind with `read`. -/
def readKindName (read : Reader String) : Reader Kind := fun s => do
  let (name, rest) ← read s
  match Kind.ofName? name with
  | some kind => return (kind, rest)
  | none => .error .mismatch

/-- Reads a kind: its name, or an object from its name to `null`. -/
def readKind : Reader Kind := fun s =>
  match skipBlanks s with
  | [] => .error .unfinished
  | b :: rest =>
    if b = 0x22 then readKindName readString rest
    else if b = 0x7B then do
      let (kind, rest) ← readKindName readText rest
      let rest ← readColon rest
      let (_, rest) ← readNull rest
      match skipBlanks rest with
      | [] => .error .unfinished
      | b :: rest => if b = 0x7D then return (kind, rest) else .error .malformed
    else .error .malformed

/-- Reads the content of a value whose kind is known. -/
def readContent : Kind → Reader FieldValue
  | .text, s => (readText s).map fun (text, rest) => (.text text, rest)
  | .binary, s => (readArray (readNatural 256) s).map fun (bytes, rest) =>
      (.binary (bytes.map UInt8.ofNat), rest)

def byteOf? : Value → Option UInt8
  | .number (.natural n) => if n < 256 then some (UInt8.ofNat n) else none
  | _ => none

/-- The content that was kept until the kind became known. -/
def contentOf? : Kind → Value → Option FieldValue
  | .text, .string text => some (.text text)
  | .binary, .array elements => (elements.mapM byteOf?).map .binary
  | _, _ => none

/-- What has been read of an object that is a field value. -/
inductive Parts where
  | none
  | kind (kind : Kind)
  | content (value : Value)
  | both (value : FieldValue)

/-- Takes in one member of a field value. Nothing may be repeated. A content that comes before its
kind is kept as it is, if fewer than `depth` brackets are open in it at once. -/
def readPart (depth : Nat) (parts : Parts) : Reader Parts := fun s => do
  let (key, s) ← readString s
  if key = "kind" then
    match parts with
    | .none =>
      let (kind, s) ← readKind (← readColon s)
      return (.kind kind, s)
    | .content value =>
      let (kind, s) ← readKind (← readColon s)
      match contentOf? kind value with
      | some value => return (.both value, s)
      | .none => .error .mismatch
    | .kind _ => .error .mismatch
    | .both _ => .error .mismatch
  else if key = "value" then
    match parts with
    | .none =>
      let (value, s) ← readValue depth (← readColon s)
      return (.content value, s)
    | .kind kind =>
      let (value, s) ← readContent kind (← readColon s)
      return (.both value, s)
    | .content _ => .error .mismatch
    | .both _ => .error .mismatch
  else
    return (parts, ← skipMember s)

def Parts.value : Parts → Except Problem FieldValue
  | .both value => .ok value
  | _ => .error .mismatch

/-- Reads a field value behind the bracket of its array form. -/
def readPair : Reader FieldValue := fun s => do
  let some s ← nextElement true s | .error .mismatch
  let (kind, s) ← readKind s
  let some s ← nextElement false s | .error .mismatch
  let (value, s) ← readContent kind s
  return (value, ← endArray s)

/-- Reads the value of a field, in whose content fewer than `depth` brackets may be open at once. -/
def readFieldValue (depth : Nat) : Reader FieldValue := fun s =>
  match skipBlanks s with
  | [] => .error .unfinished
  | b :: rest =>
    if b = 0x5B then readPair rest
    else if b = 0x7B then readObjectTail (readPart depth) .none Parts.value rest
    else .error (refuse (b :: rest))

/-! ## Reading messages -/

def depthLimit : Nat := 127

/-- Reads a field number behind the opening quote of its key. -/
def readFieldId : Reader UInt32 := fun s =>
  if s.head?.any fun b => isDigit b || b = 0x2D then
    match readNatural UInt32.size s with
    | .error problem => .error problem
    | .ok (id, rest) =>
      match rest with
      | 0x22 :: rest => .ok (UInt32.ofNat id, rest)
      | _ => .error .malformed
  else .error .malformed

def readField (fields : Fields) : Reader Fields := fun s => do
  let (id, s) ← readFieldId s
  let (value, s) ← readFieldValue (depthLimit - 2) (← readColon s)
  return (fields.insert id value, s)

def readFields : Reader Fields := fun s =>
  match skipBlanks s with
  | [] => .error .unfinished
  | b :: rest =>
    if b = 0x7B then readObjectTail readField .empty .ok rest
    else .error (refuse (b :: rest))

/-- What has been read of an object that is a message. -/
structure Halves where
  mti : Option String := none
  fields : Option Fields := none

/-- Takes in one member of a message. Nothing known may be repeated. -/
def readHalf (halves : Halves) : Reader Halves := fun s => do
  let (key, s) ← readString s
  if key = "mti" then
    if halves.mti.isSome then .error .mismatch
    let (mti, s) ← readText (← readColon s)
    return ({ halves with mti := some mti }, s)
  else if key = "fields" then
    if halves.fields.isSome then .error .mismatch
    let (fields, s) ← readFields (← readColon s)
    return ({ halves with fields := some fields }, s)
  else
    return (halves, ← skipMember s)

def Halves.message : Halves → Except Problem Message
  | ⟨some mti, some fields⟩ => .ok ⟨mti, fields⟩
  | _ => .error .mismatch

/-- Reads a message behind the bracket of its array form. -/
def readMessagePair : Reader Message := fun s => do
  let some s ← nextElement true s | .error .mismatch
  let (mti, s) ← readText s
  let some s ← nextElement false s | .error .mismatch
  let (fields, s) ← readFields s
  return (⟨mti, fields⟩, ← endArray s)

def readMessage : Reader Message := fun s =>
  match skipBlanks s with
  | [] => .error .unfinished
  | b :: rest =>
    if b = 0x5B then readMessagePair rest
    else if b = 0x7B then readObjectTail readHalf {} Halves.message rest
    else .error (refuse (b :: rest))

end Iso8583.Json

namespace Iso8583

def Codec.json : Codec where
  encode msg := .ok (Json.writeMessage msg)
  decode payload := (Json.readDocument Json.readMessage payload).mapError .json

end Iso8583
