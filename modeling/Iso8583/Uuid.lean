import Iso8583.Bytes

/-!
# Unique identifiers

The text form of version 4 identifiers.
-/

namespace Iso8583

/-- The last `count` hexadecimal digits of `n`. -/
def hexDigits : (count n : Nat) → List Char
  | 0, _ => []
  | count + 1, n => hexDigits count (n / 16) ++ [Bytes.hexDigit (n % 16)]

/-- The version 4 identifier whose free bits, the version and the variant left out, are the low 122
bits of `n`. -/
def uuidText (n : Nat) : String :=
  String.ofList (
    hexDigits 8 (n >>> 90) ++ '-' :: hexDigits 4 (n >>> 74) ++ '-' ::
    '4' :: hexDigits 3 (n >>> 62) ++ '-' ::
    Bytes.hexDigit (8 + (n >>> 60) % 4) :: hexDigits 3 (n >>> 48) ++ '-' :: hexDigits 12 n)

/-- Whether a text is a lower-case version 4 identifier. -/
def isUuidText (text : String) : Bool :=
  let isHex (c : Char) : Bool := c.isDigit || ('a' ≤ c && c ≤ 'f')
  let chars := text.toList
  chars.length = 36 && (chars.zipIdx.all fun (c, i) =>
    if i = 8 || i = 13 || i = 18 || i = 23 then c = '-'
    else if i = 14 then c = '4'
    else if i = 19 then c = '8' || c = '9' || c = 'a' || c = 'b'
    else isHex c)

end Iso8583
