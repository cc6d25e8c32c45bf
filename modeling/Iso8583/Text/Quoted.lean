import Iso8583.Text.Unprintable

/-!
# Quoted text

Text as it is quoted inside an error: between double quotes, with the quote, the backslash and
everything that would not show as itself written as an escape.
-/

namespace Iso8583

namespace Text

def showsAsItself (c : Char) : Bool :=
  (0x20 ≤ c.toNat && c.toNat < 0x7F) ||
    (!inRuns graphemeExtend c.toNat && !inRuns unprintable c.toNat)

def escaped (c : Char) : List Char :=
  if c = '\x00' then ['\\', '0']
  else if c = '\t' then ['\\', 't']
  else if c = '\r' then ['\\', 'r']
  else if c = '\n' then ['\\', 'n']
  else if c = '"' then ['\\', '"']
  else if c = '\\' then ['\\', '\\']
  else if showsAsItself c then [c]
  else ['\\', 'u', '\x7b'] ++ Nat.toDigits 16 c.toNat ++ ['\x7d']

end Text

def quoted (text : String) : String :=
  String.ofList ('"' :: text.toList.flatMap Text.escaped ++ ['"'])

end Iso8583
