import Iso8583.Message
import Iso8583.Uuid

/-!
# Identifiers in messages

Identifiers are drawn at random, so two runs do not show the same ones. A table numbers them in the
order in which they first appear, and a handshake is shown with the numbers in their place.
-/

namespace Iso8583.Simulation

/-- The identifiers seen so far, in order. -/
structure Identifiers where
  seen : List String := []
  deriving DecidableEq, Repr

namespace Identifiers

/-- The number of an identifier, counted from one, and the table with the identifier in it. -/
def number (table : Identifiers) (identifier : String) : Nat × Identifiers :=
  (table.seen.idxOf identifier + 1,
    if table.seen.contains identifier then table else ⟨table.seen ++ [identifier]⟩)

def maskFields (table : Identifiers) :
    List (UInt32 × FieldValue) → List (UInt32 × FieldValue) × Identifiers
  | [] => ([], table)
  | (id, .text text) :: fields =>
    if isUuidText text then
      let (number, table) := table.number text
      let (fields, table) := table.maskFields fields
      ((id, .text ("<uuid " ++ toString number ++ ">")) :: fields, table)
    else
      let (fields, table) := table.maskFields fields
      ((id, .text text) :: fields, table)
  | field :: fields =>
    let (fields, table) := table.maskFields fields
    (field :: fields, table)

/-- Replaces the identifiers in a handshake, the fields in ascending order; any other message stays as
it is. -/
def mask (table : Identifiers) (msg : Message) : Message × Identifiers :=
  if msg.mti = handshakeMti then
    let (fields, table) := table.maskFields msg.fields.toList
    (⟨msg.mti, Fields.ofList fields⟩, table)
  else (msg, table)

/-- Replaces the identifiers in messages, one after the other. -/
def maskAll (table : Identifiers) : List Message → List Message × Identifiers
  | [] => ([], table)
  | msg :: msgs =>
    let (msg, table) := table.mask msg
    let (msgs, table) := table.maskAll msgs
    (msg :: msgs, table)

end Identifiers

end Iso8583.Simulation
