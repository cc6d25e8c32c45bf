/-!
# Whole numbers in text

An optional plus sign and one or more ASCII digits, below a limit.
-/

namespace Iso8583.Text

/-- Why a text is no number. -/
inductive NumberError where
  | empty
  | invalidDigit
  | tooLarge
  deriving DecidableEq, Repr

def NumberError.message : NumberError → String
  | .empty => "cannot parse integer from empty string"
  | .invalidDigit => "invalid digit found in string"
  | .tooLarge => "number too large to fit in target type"

/-- Reads the remaining digits after those worth `value`. The first fault from the left counts: a
character that is no digit, or a value that reaches the limit. -/
def readDigits (limit : Nat) : (value : Nat) → List Char → Except NumberError Nat
  | value, [] => .ok value
  | value, c :: rest =>
    if c.isDigit then
      let next := value * 10 + (c.toNat - '0'.toNat)
      if next < limit then readDigits limit next rest else .error .tooLarge
    else .error .invalidDigit

/-- The number below `limit` that a text spells. -/
def readNat (limit : Nat) (text : String) : Except NumberError Nat :=
  match text.toList with
  | [] => .error .empty
  | ['+'] => .error .invalidDigit
  | '+' :: digits => readDigits limit 0 digits
  | digits => readDigits limit 0 digits

end Iso8583.Text
