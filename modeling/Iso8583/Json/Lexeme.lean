import Iso8583.Bytes
import Iso8583.Json.Problem

/-!
# Literals, numbers and strings of JSON

Each reader takes the text from where it stands and answers the rest behind what it read, or the
first problem from the left.
-/

namespace Iso8583.Json

/-! ## Bytes of the grammar -/

def isBlank (b : UInt8) : Bool := b = 0x20 || b = 0x09 || b = 0x0A || b = 0x0D

def skipBlanks (s : Bytes) : Bytes := s.dropWhile isBlank

def isDigit (b : UInt8) : Bool := 0x30 ≤ b && b ≤ 0x39

def digitValue (b : UInt8) : Nat := b.toNat - 0x30

/-! ## Literals -/

/-- Reads exactly `word`. -/
def readWord : (word : Bytes) → Bytes → Except Problem Bytes
  | [], s => .ok s
  | _ :: _, [] => .error .unfinished
  | w :: word, b :: s => if b = w then readWord word s else .error .malformed

/-- `ull`, which follows the first letter of `null`. -/
def nullTail : Bytes := [0x75, 0x6C, 0x6C]

/-- `rue`, which follows the first letter of `true`. -/
def trueTail : Bytes := [0x72, 0x75, 0x65]

/-- `alse`, which follows the first letter of `false`. -/
def falseTail : Bytes := [0x61, 0x6C, 0x73, 0x65]

/-! ## Numbers -/

/-- A number, as far as it matters here: a whole number of 64 bits written without sign, fraction
or exponent, or any other. -/
inductive Number where
  | natural (n : Nat)
  | other
  deriving DecidableEq, Repr

/-- One more than the largest whole number of 64 bits. -/
def wordLimit : Nat := UInt64.size

/-- Whether `significand * 10 ^ exponent` lies beyond the finite numbers of double precision, when
the power of ten and the product are each rounded. -/
def beyondDouble (significand : Nat) (exponent : Int) : Bool :=
  if exponent < 0 then false
  else if 308 < exponent then significand ≠ 0
  else ((UInt64.ofNat significand).toFloat * Float.ofScientific 1 false exponent.toNat).isInf

/-- The end of a number that is not whole. -/
def finishNumber (significand : Nat) (exponent : Int) (s : Bytes) :
    Except Problem (Number × Bytes) :=
  if beyondDouble significand exponent then .error .malformed else .ok (.other, s)

def digitsValue (digits : Bytes) : Nat :=
  digits.foldl (fun n d => n * 10 + digitValue d) 0

def readExponent (significand : Nat) (exponent : Int) (s : Bytes) :
    Except Problem (Number × Bytes) :=
  let (down, s) := match s with
    | 0x2B :: rest => (false, rest)
    | 0x2D :: rest => (true, rest)
    | _ => (false, s)
  match s with
  | [] => .error .unfinished
  | b :: _ =>
    if isDigit b then
      let value := digitsValue (s.takeWhile isDigit)
      finishNumber significand (if down then exponent - value else exponent + value)
        (s.dropWhile isDigit)
    else .error .malformed

/-- Takes the digits of a fraction into a significand of 64 bits, for as long as they fit; each
one taken lowers the exponent by one. -/
def fractionDigits : (significand : Nat) → (exponent : Int) → Bytes → Nat × Int
  | significand, exponent, [] => (significand, exponent)
  | significand, exponent, b :: s =>
    let next := significand * 10 + digitValue b
    if isDigit b && next < wordLimit then fractionDigits next (exponent - 1) s
    else (significand, exponent)

/-- Reads what follows the digits of a number: an exponent, if its letter is next. -/
def readTail (significand : Nat) (exponent : Int) (s : Bytes) : Except Problem (Number × Bytes) :=
  match s with
  | 0x65 :: rest => readExponent significand exponent rest
  | 0x45 :: rest => readExponent significand exponent rest
  | _ => finishNumber significand exponent s

def readFraction (significand : Nat) (exponent : Int) (s : Bytes) :
    Except Problem (Number × Bytes) :=
  match s with
  | [] => .error .unfinished
  | b :: _ =>
    if isDigit b then
      let (significand, exponent) := fractionDigits significand exponent s
      readTail significand exponent (s.dropWhile isDigit)
    else .error .malformed

/-- Takes the digits of a whole number into a significand of 64 bits, for as long as they fit, and
counts those left over. -/
def wholeDigits : (significand : Nat) → Bytes → Nat × Nat
  | significand, [] => (significand, 0)
  | significand, b :: s =>
    if isDigit b then
      let next := significand * 10 + digitValue b
      if next < wordLimit then wholeDigits next s
      else (significand, ((b :: s).takeWhile isDigit).length)
    else (significand, 0)

def readNumber (negative : Bool) (s : Bytes) : Except Problem (Number × Bytes) :=
  match s with
  | [] => .error .unfinished
  | b :: rest =>
    if !isDigit b then .error .malformed
    else if b = 0x30 && (rest.head?.any isDigit) then .error .malformed
    else
      let (significand, dropped) := wholeDigits 0 s
      match s.dropWhile isDigit with
      | 0x2E :: rest => readFraction significand dropped rest
      | 0x65 :: rest => readExponent significand dropped rest
      | 0x45 :: rest => readExponent significand dropped rest
      | rest =>
        if dropped = 0 then .ok (if negative then .other else .natural significand, rest)
        else finishNumber significand dropped rest

/-! ## Strings -/

def hexValue? (b : UInt8) : Option Nat :=
  if 0x30 ≤ b && b ≤ 0x39 then some (b.toNat - 0x30)
  else if 0x41 ≤ b && b ≤ 0x46 then some (b.toNat - 0x37)
  else if 0x61 ≤ b && b ≤ 0x66 then some (b.toNat - 0x57)
  else none

def unit? (a b c d : UInt8) : Option Nat := do
  return (((← hexValue? a) * 16 + (← hexValue? b)) * 16 + (← hexValue? c)) * 16 + (← hexValue? d)

def escapedByte? (letter : UInt8) : Option UInt8 :=
  if letter = 0x22 then some 0x22
  else if letter = 0x5C then some 0x5C
  else if letter = 0x2F then some 0x2F
  else if letter = 0x62 then some 0x08
  else if letter = 0x66 then some 0x0C
  else if letter = 0x6E then some 0x0A
  else if letter = 0x72 then some 0x0D
  else if letter = 0x74 then some 0x09
  else none

/-- The UTF-8 form of a code point, its bytes in reverse order. -/
def codePointReversed (code : Nat) : Bytes :=
  (String.utf8EncodeChar (Char.ofNat code)).reverse

/-- Reads a string behind its opening quote. `read` holds the bytes read so far, the last one
first. A unit of a surrogate pair must come with the other one. -/
def readRaw : (read : Bytes) → Bytes → Except Problem (Bytes × Bytes)
  | _, [] => .error .unfinished
  | read, b :: s =>
    if b = 0x22 then .ok (read.reverse, s)
    else if b = 0x5C then
      match s with
      | [] => .error .unfinished
      | letter :: s =>
        if letter = 0x75 then
          match s with
          | h₁ :: h₂ :: h₃ :: h₄ :: s =>
            match unit? h₁ h₂ h₃ h₄ with
            | none => .error .malformed
            | some high =>
              if 0xDC00 ≤ high ∧ high ≤ 0xDFFF then .error .malformed
              else if 0xD800 ≤ high ∧ high ≤ 0xDBFF then
                match s with
                | [] => .error .unfinished
                | [b] => .error (if b = 0x5C then .unfinished else .malformed)
                | b :: u :: s =>
                  if b ≠ 0x5C ∨ u ≠ 0x75 then .error .malformed
                  else match s with
                    | l₁ :: l₂ :: l₃ :: l₄ :: s =>
                      match unit? l₁ l₂ l₃ l₄ with
                      | none => .error .malformed
                      | some low =>
                        if low < 0xDC00 ∨ 0xDFFF < low then .error .malformed
                        else
                          let code := (high - 0xD800) * 1024 + (low - 0xDC00) + 0x10000
                          readRaw (codePointReversed code ++ read) s
                    | _ => .error .unfinished
              else readRaw (codePointReversed high ++ read) s
          | _ => .error .unfinished
        else match escapedByte? letter with
          | none => .error .malformed
          | some byte => readRaw (byte :: read) s
    else if b < 0x20 then .error .malformed
    else readRaw (b :: read) s

/-- Reads a string behind its opening quote, as text. -/
def readString (s : Bytes) : Except Problem (String × Bytes) :=
  match readRaw [] s with
  | .error e => .error e
  | .ok (raw, rest) =>
    match Bytes.toText? raw with
    | some text => .ok (text, rest)
    | none => .error .malformed

/-- Passes over a string behind its opening quote. Neither surrogates nor UTF-8 are checked. -/
def skipString : Bytes → Except Problem Bytes
  | [] => .error .unfinished
  | b :: s =>
    if b = 0x22 then .ok s
    else if b = 0x5C then
      match s with
      | [] => .error .unfinished
      | letter :: s =>
        if letter = 0x75 then
          match s with
          | h₁ :: h₂ :: h₃ :: h₄ :: s =>
            if (unit? h₁ h₂ h₃ h₄).isSome then skipString s else .error .malformed
          | _ => .error .unfinished
        else if (escapedByte? letter).isSome then skipString s
        else .error .malformed
    else if b < 0x20 then .error .malformed
    else skipString s

/-! ## Numbers passed over -/

def skipExponent (s : Bytes) : Except Problem Bytes :=
  let s := match s with
    | 0x2B :: rest => rest
    | 0x2D :: rest => rest
    | _ => s
  if s.head?.any isDigit then .ok (s.dropWhile isDigit) else .error .malformed

/-- Passes over a number behind its sign. However large it is, only its form counts. -/
def skipNumber (s : Bytes) : Except Problem Bytes :=
  match s with
  | [] => .error .malformed
  | b :: rest =>
    if !isDigit b || (b = 0x30 && rest.head?.any isDigit) then .error .malformed
    else match s.dropWhile isDigit with
      | 0x2E :: rest =>
        if rest.head?.any isDigit then
          match rest.dropWhile isDigit with
          | 0x65 :: rest => skipExponent rest
          | 0x45 :: rest => skipExponent rest
          | rest => .ok rest
        else .error .malformed
      | 0x65 :: rest => skipExponent rest
      | 0x45 :: rest => skipExponent rest
      | rest => .ok rest

end Iso8583.Json
