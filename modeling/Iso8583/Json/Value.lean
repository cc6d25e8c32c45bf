import Iso8583.Json.Reader

/-!
# JSON values of any shape

A value that has to be kept before it is known what it should be. Brackets may be nested to a
limited depth only.
-/

namespace Iso8583.Json

/-- A JSON value. Members of objects, and numbers other than whole ones, are of no interest once
they are known to be well-formed. -/
inductive Value where
  | null
  | bool
  | number (n : Number)
  | string (text : String)
  | array (elements : List Value)
  | object

/-- Reads a value; fewer than `depth` brackets may be open at once. -/
def readValue : (depth : Nat) → Reader Value
  | 0, _ => .error .malformed
  | depth + 1, s =>
    match skipBlanks s with
    | [] => .error .unfinished
    | b :: rest =>
      if b = 0x6E then (readWord nullTail rest).map fun rest => (.null, rest)
      else if b = 0x74 then (readWord trueTail rest).map fun rest => (.bool, rest)
      else if b = 0x66 then (readWord falseTail rest).map fun rest => (.bool, rest)
      else if b = 0x2D then (readNumber true rest).map fun (n, rest) => (.number n, rest)
      else if isDigit b then (readNumber false (b :: rest)).map fun (n, rest) => (.number n, rest)
      else if b = 0x22 then (readString rest).map fun (text, rest) => (.string text, rest)
      else if b = 0x5B then
        if depth = 0 then .error .malformed
        else match readElements (readValue depth) (b :: rest) true [] rest with
          | .error problem => .error problem
          | .ok (elements, rest) => (endArray rest).map fun rest => (.array elements, rest)
      else if b = 0x7B then
        if depth = 0 then .error .malformed
        else
          let member (_ : Unit) : Reader Unit := fun s => do
            let (_, s) ← readString s
            let s ← readColon s
            let (_, s) ← readValue depth s
            return ((), s)
          readObjectTail member () (fun _ => .ok .object) rest
      else .error .malformed

end Iso8583.Json
