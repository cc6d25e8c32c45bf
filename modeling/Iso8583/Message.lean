import Iso8583.Fields
import Iso8583.Text.Quoted

/-!
# Messages

A message is a type indicator (MTI) and numbered fields. The third digit of a four-digit indicator
tells the function: an even digit is a request, the odd digit after it its response.
-/

namespace Iso8583

/-- A message: its type indicator and its fields. -/
structure Message where
  mti : String
  fields : Fields := .empty
  deriving DecidableEq, Inhabited

/-- Why a message has no response indicator. -/
inductive MtiError where
  | malformed (mti : String)
  | notARequest (mti : String)
  deriving DecidableEq, Repr

def MtiError.message : MtiError → String
  | .malformed mti => s!"malformed MTI " ++ quoted mti
  | .notARequest mti => "MTI " ++ mti ++ " is not a request"

/-! ## Type indicators -/

def handshakeMti : String := "2800"

/-- The third digit of a type indicator of exactly four ASCII digits. -/
def functionDigit? (mti : String) : Option Nat :=
  match mti.toList with
  | [a, b, c, d] =>
    if a.isDigit && b.isDigit && c.isDigit && d.isDigit then some (c.toNat - '0'.toNat) else none
  | _ => none

/-- The indicator that answers `mti`: the third digit goes up by one. -/
def responseMti (mti : String) : Except MtiError String :=
  match functionDigit? mti, mti.toList with
  | some digit, [a, b, c, d] =>
    if digit % 2 = 1 then .error (.notARequest mti)
    else .ok (String.ofList [a, b, Char.ofNat (c.toNat + 1), d])
  | _, _ => .error (.malformed mti)

namespace Message

def isRequest (msg : Message) : Bool :=
  (functionDigit? msg.mti).any (· % 2 = 0)

def isResponse (msg : Message) : Bool :=
  (functionDigit? msg.mti).any (· % 2 = 1)

/-- The message with its response indicator and the same fields. -/
def toResponse (msg : Message) : Except MtiError Message :=
  match responseMti msg.mti with
  | .ok mti => .ok { msg with mti := mti }
  | .error e => .error e

/-! ## Fields -/

def set (msg : Message) (id : UInt32) (value : FieldValue) : Message :=
  { msg with fields := msg.fields.insert id value }

def setAll (msg : Message) (fields : List (UInt32 × FieldValue)) : Message :=
  fields.foldl (fun msg field => msg.set field.1 field.2) msg

/-- The message with `count` fields from the number `first` on set to the same value. -/
def setRange (msg : Message) (first count : Nat) (value : FieldValue) : Message :=
  (List.range' first count).foldl (fun msg id => msg.set (UInt32.ofNat id) value) msg

def unset (msg : Message) (id : UInt32) : Message :=
  { msg with fields := msg.fields.erase id }

def get? (msg : Message) (id : UInt32) : Option FieldValue :=
  msg.fields.get? id

/-- The key text of a field: text as it is, bytes in hexadecimal. -/
def getString? (msg : Message) (id : UInt32) : Option String :=
  (msg.get? id).map (·.keyPart)

/-! ## Text -/

def fieldSummary : UInt32 × FieldValue → String
  | (id, .text text) => " [" ++ toString id.toNat ++ "]=" ++ text
  | (id, .binary bytes) => " [" ++ toString id.toNat ++ "]=<" ++ toString bytes.length ++ " bytes>"

/-- The message on one line: the indicator, then each field in ascending order. -/
def summary (msg : Message) : String :=
  msg.fields.toList.foldl (fun line field => line ++ fieldSummary field) msg.mti

end Message

end Iso8583
