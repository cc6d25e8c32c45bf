import Iso8583.Json.Lexeme

/-!
# Reading JSON of a known shape

Arrays, objects and scalars, read from left to right. A value of the wrong shape is a mismatch only
if it is well-formed as far as it has to be looked at. Values under unknown keys are passed over.
-/

namespace Iso8583.Json

/-- Reads a value from the front of the text, or reports the first problem. -/
abbrev Reader (α : Type) := Bytes → Except Problem (α × Bytes)

/-! ## Scalars -/

/-- The problem with a value of a shape that is not wanted. `s` stands at its first byte. -/
def refuse (s : Bytes) : Problem :=
  let after {α : Type} (result : Except Problem α) : Problem :=
    match result with
    | .error problem => problem
    | .ok _ => .mismatch
  match s with
  | [] => .malformed
  | b :: rest =>
    if b = 0x6E then after (readWord nullTail rest)
    else if b = 0x74 then after (readWord trueTail rest)
    else if b = 0x66 then after (readWord falseTail rest)
    else if b = 0x2D then after (readNumber true rest)
    else if isDigit b then after (readNumber false s)
    else if b = 0x22 then after (readString rest)
    else if b = 0x5B ∨ b = 0x7B then .mismatch
    else .malformed

def readText : Reader String := fun s =>
  match skipBlanks s with
  | [] => .error .unfinished
  | b :: rest => if b = 0x22 then readString rest else .error (refuse (b :: rest))

/-- Reads a whole number below `limit`. -/
def readNatural (limit : Nat) : Reader Nat := fun s =>
  match skipBlanks s with
  | [] => .error .unfinished
  | b :: rest =>
    let number :=
      if b = 0x2D then readNumber true rest
      else if isDigit b then readNumber false (b :: rest)
      else .error (refuse (b :: rest))
    match number with
    | .error problem => .error problem
    | .ok (.natural n, rest) => if n < limit then .ok (n, rest) else .error .mismatch
    | .ok (.other, _) => .error .mismatch

/-- Reads `null`. -/
def readNull : Reader Unit := fun s =>
  match skipBlanks s with
  | [] => .error .unfinished
  | b :: rest =>
    if b = 0x6E then (readWord nullTail rest).map fun rest => ((), rest)
    else .error (refuse (b :: rest))

/-- Reads `null` as nothing, and any other value with `read`. -/
def readOptional {α : Type} (read : Reader α) : Reader (Option α) := fun s =>
  match skipBlanks s with
  | 0x6E :: rest => (readWord nullTail rest).map fun rest => (none, rest)
  | s => (read s).map fun (value, rest) => (some value, rest)

/-! ## Arrays -/

/-- Goes to the next element of an array: the text where it starts, or nothing if the closing
bracket is next. -/
def nextElement (first : Bool) (s : Bytes) : Except Problem (Option Bytes) :=
  match skipBlanks s with
  | [] => .error .unfinished
  | b :: rest =>
    if b = 0x5D then .ok none
    else if first then .ok (some (b :: rest))
    else if b = 0x2C then
      match skipBlanks rest with
      | [] => .error .unfinished
      | b :: rest => if b = 0x5D then .error .malformed else .ok (some (b :: rest))
    else .error .malformed

def endArray (s : Bytes) : Except Problem Bytes :=
  match skipBlanks s with
  | [] => .error .unfinished
  | b :: rest => if b = 0x5D then .ok rest else .error .malformed

/-- Reads the elements of an array up to its closing bracket. Each takes at least one byte, so that
there is no need for more rounds than the text is long. `read` holds those before, the last one first. -/
def readElements {α : Type} (element : Reader α) :
    (rounds : Bytes) → (first : Bool) → (read : List α) → Reader (List α)
  | [], _, _, _ => .error .malformed
  | _ :: rounds, first, read, s =>
    match nextElement first s with
    | .error problem => .error problem
    | .ok none => .ok (read.reverse, s)
    | .ok (some s) =>
      match element s with
      | .error problem => .error problem
      | .ok (value, rest) => readElements element rounds false (value :: read) rest

def readArray {α : Type} (element : Reader α) : Reader (List α) := fun s =>
  match skipBlanks s with
  | [] => .error .unfinished
  | b :: rest =>
    if b = 0x5B then
      match readElements element (b :: rest) true [] rest with
      | .error problem => .error problem
      | .ok (values, rest) => (endArray rest).map fun rest => (values, rest)
    else .error (refuse (b :: rest))

/-! ## Objects -/

def readColon (s : Bytes) : Except Problem Bytes :=
  match skipBlanks s with
  | [] => .error .unfinished
  | b :: rest => if b = 0x3A then .ok rest else .error .malformed

/-- Goes to the next key of an object: the text behind its opening quote, or nothing if the closing
brace is next. -/
def nextKey (first : Bool) (s : Bytes) : Except Problem (Option Bytes) :=
  let key (b : UInt8) (rest : Bytes) : Except Problem (Option Bytes) :=
    if b = 0x22 then .ok (some rest) else .error .malformed
  match skipBlanks s with
  | [] => .error .unfinished
  | b :: rest =>
    if b = 0x7D then .ok none
    else if first then key b rest
    else if b = 0x2C then
      match skipBlanks rest with
      | [] => .error .unfinished
      | b :: rest => key b rest
    else .error .malformed

/-- Reads the members of an object up to its closing brace. `member` reads one from behind its
key's opening quote and takes it into the state. Each takes at least one byte, so that there is no need
for more rounds than the text is long. -/
def readMembers {σ : Type} (member : σ → Reader σ) :
    (rounds : Bytes) → (first : Bool) → σ → Reader σ
  | [], _, _, _ => .error .malformed
  | _ :: rounds, first, state, s =>
    match nextKey first s with
    | .error problem => .error problem
    | .ok none => .ok (state, s)
    | .ok (some s) =>
      match member state s with
      | .error problem => .error problem
      | .ok (state, rest) => readMembers member rounds false state rest

/-- Reads an object behind its opening brace: its members from `start` on, what they make
together, and the closing brace. -/
def readObjectTail {σ α : Type} (member : σ → Reader σ) (start : σ)
    (finish : σ → Except Problem α) : Reader α := fun s => do
  let (state, rest) ← readMembers member (0x7B :: s) true start s
  let value ← finish state
  match skipBlanks rest with
  | [] => .error .unfinished
  | b :: rest => if b = 0x7D then .ok (value, rest) else .error .malformed

/-! ## Values passed over -/

/-- A bracket that is still open. -/
inductive Bracket where
  | array
  | object
  deriving DecidableEq

def Bracket.closing : Bracket → UInt8
  | .array => 0x5D
  | .object => 0x7D

/-- What comes behind a value that is passed over. -/
inductive Behind where
  /-- Nothing that has to be passed over. -/
  | done (rest : Bytes)
  /-- Another value, inside the brackets `enclosing`. -/
  | value (enclosing : List Bracket) (rest : Bytes)

/-- Goes to the value of the next item: behind a bracket that opens an object a key comes first. -/
def toValue (bracket : Bracket) (s : Bytes) : Except Problem Bytes :=
  match bracket with
  | .array => .ok s
  | .object =>
    match skipBlanks s with
    | [] => .error .unfinished
    | b :: rest =>
      if b = 0x22 then
        match skipString rest with
        | .error problem => .error problem
        | .ok rest => readColon rest
      else .error .malformed

/-- Closes brackets up to the next value inside the brackets `enclosing`. A comma may come first if
`comma`; right behind an opening bracket it may not. -/
def skipClosing : (comma : Bool) → (enclosing : List Bracket) → Bytes → Except Problem Behind
  | _, [], s => .ok (.done s)
  | comma, bracket :: outer, s =>
    let next (s : Bytes) : Except Problem Behind :=
      (toValue bracket s).map (.value (bracket :: outer))
    match skipBlanks s with
    | [] => .error .unfinished
    | b :: rest =>
      if comma && b = 0x2C then next rest
      else if b = bracket.closing then skipClosing true outer rest
      else if comma then .error .malformed
      else next (b :: rest)

/-- Passes over the first part of a value: all of a scalar, or the opening bracket. Also answers the
bracket. -/
def skipFront (s : Bytes) : Except Problem (Option Bracket × Bytes) :=
  let scalar (rest : Except Problem Bytes) : Except Problem (Option Bracket × Bytes) :=
    rest.map fun rest => (none, rest)
  match skipBlanks s with
  | [] => .error .unfinished
  | b :: rest =>
    if b = 0x6E then scalar (readWord nullTail rest)
    else if b = 0x74 then scalar (readWord trueTail rest)
    else if b = 0x66 then scalar (readWord falseTail rest)
    else if b = 0x2D then scalar (skipNumber rest)
    else if isDigit b then scalar (skipNumber (b :: rest))
    else if b = 0x22 then scalar (skipString rest)
    else if b = 0x5B then .ok (some .array, rest)
    else if b = 0x7B then .ok (some .object, rest)
    else .error .malformed

/-- Passes over a value inside the brackets `enclosing`, and then over what is left of them. Each round
takes at least one byte, so that there is no need for more rounds than the text is long. -/
def skipInside : (rounds : Bytes) → (enclosing : List Bracket) → Bytes → Except Problem Bytes
  | [], _, s => (skipFront s).bind fun _ => .error .malformed
  | _ :: rounds, enclosing, s =>
    match skipFront s with
    | .error problem => .error problem
    | .ok (bracket, rest) =>
      match skipClosing bracket.isNone (bracket.toList ++ enclosing) rest with
      | .error problem => .error problem
      | .ok (.done rest) => .ok rest
      | .ok (.value enclosing rest) => skipInside rounds enclosing rest

/-- Passes over a value of any shape and depth. -/
def skipValue (s : Bytes) : Except Problem Bytes := skipInside s [] s

/-- Passes over the rest of a member whose key is not known. -/
def skipMember (s : Bytes) : Except Problem Bytes := do
  skipValue (← readColon s)

/-! ## Whole texts -/

/-- Reads a text that holds one value and nothing else. -/
def readDocument {α : Type} (read : Reader α) (s : Bytes) : Except Problem α :=
  match read s with
  | .error problem => .error problem
  | .ok (value, rest) => if (skipBlanks rest).isEmpty then .ok value else .error .malformed

end Iso8583.Json
