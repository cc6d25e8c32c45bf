import Iso8583.Error
import Iso8583.Text.Blank
import Iso8583.Text.Number

/-!
# Correlation keys

The key of a message is the text of its key fields, one after the other. A reply carries the key of
its request.
-/

namespace Iso8583

/-- The fields that make up a key, in order; there is at least one. -/
structure KeyFields where
  ids : List UInt32
  nonempty : ids ≠ []
  deriving DecidableEq

namespace KeyFields

def single (id : UInt32) : KeyFields := ⟨[id], by simp⟩

def default : KeyFields := single 1000

instance : Inhabited KeyFields := ⟨default⟩

def ofList (ids : List UInt32) : Except ConfigError KeyFields :=
  if h : ids = [] then .error (.invalidKeyFields "") else .ok ⟨ids, h⟩

/-- The field number that a part of a list spells, without the blanks around it. -/
def parseId? (part : List Char) : Option UInt32 :=
  match Text.readNat UInt32.size (String.ofList (Text.trim part)) with
  | .ok id => some (UInt32.ofNat id)
  | .error _ => none

def parse (text : String) : Except ConfigError KeyFields :=
  match (Text.splitCommas text.toList).mapM parseId? with
  | none => .error (.invalidKeyFields text)
  | some ids => (ofList ids).mapError fun _ => .invalidKeyFields text

/-- The key of a message under a list of fields, or the first field that it lacks. -/
def keyOf (msg : Message) : List UInt32 → Except ClientError String
  | [] => .ok ""
  | id :: ids =>
    match msg.getString? id with
    | none => .error (.missingKeyField id)
    | some part => (keyOf msg ids).map (part ++ ·)

/-- The key of a message, or the first key field that it lacks. -/
def keyFor (fields : KeyFields) (msg : Message) : Except ClientError String :=
  keyOf msg fields.ids

/-- Sets the key fields in order, the `n`-th to the text of the number `n` after `first`. The key
put together from these texts, and the message. -/
def stampList (unique : Nat → String) (first : Nat) (msg : Message) :
    List UInt32 → String × Message
  | [] => ("", msg)
  | id :: ids =>
    let part := unique first
    let (key, stamped) := stampList unique (first + 1) (msg.set id (.text part)) ids
    (part ++ key, stamped)

/-- Sets every key field to a text of its own. -/
def stamp (fields : KeyFields) (unique : Nat → String) (first : Nat) (msg : Message) :
    String × Message :=
  stampList unique first msg fields.ids

end KeyFields

end Iso8583
