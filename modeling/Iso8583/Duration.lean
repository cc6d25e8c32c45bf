/-!
# Durations

A length of time in nanoseconds, and its text: the largest of the units s, ms, µs and ns that it
reaches, with as many decimals as it needs.
-/

namespace Iso8583

/-- A length of time. -/
structure Duration where
  nanos : Nat
  deriving DecidableEq, Repr, Inhabited

namespace Duration

def ofSeconds (n : Nat) : Duration := ⟨n * 1000000000⟩

def ofMillis (n : Nat) : Duration := ⟨n * 1000000⟩

def millis (d : Duration) : Nat := d.nanos / 1000000

instance : Add Duration := ⟨fun a b => ⟨a.nanos + b.nanos⟩⟩
instance : LE Duration := ⟨fun a b => a.nanos ≤ b.nanos⟩
instance : LT Duration := ⟨fun a b => a.nanos < b.nanos⟩
instance (a b : Duration) : Decidable (a ≤ b) := inferInstanceAs (Decidable (a.nanos ≤ b.nanos))
instance (a b : Duration) : Decidable (a < b) := inferInstanceAs (Decidable (a.nanos < b.nanos))

/-- The last `places` decimal digits of `n`. -/
def decimals : (places n : Nat) → List Char
  | 0, _ => []
  | places + 1, n => decimals places (n / 10) ++ [Char.ofNat (48 + n % 10)]

/-- `n / 10 ^ places` in decimal, without zeros at the end of the fraction. -/
def fixed (places n : Nat) : String :=
  let fraction := ((decimals places n).reverse.dropWhile (· = '0')).reverse
  toString (n / Nat.pow 10 places) ++ if fraction.isEmpty then "" else "." ++ String.ofList fraction

/-- The duration in the largest unit that it reaches. -/
def text (d : Duration) : String :=
  if 1000000000 ≤ d.nanos then fixed 9 d.nanos ++ "s"
  else if 1000000 ≤ d.nanos then fixed 6 d.nanos ++ "ms"
  else if 1000 ≤ d.nanos then fixed 3 d.nanos ++ "µs"
  else fixed 0 d.nanos ++ "ns"

end Duration

end Iso8583
