import Iso8583.Uuid
import Mathlib.Algebra.Group.Nat.Defs

/-!
# Hexadecimal text

A hexadecimal text of known length has only one number behind it, so identifiers differ when the numbers
that they are drawn with do.
-/

namespace Iso8583

namespace Bytes

theorem hexDigit_inj {m n : Nat} (first : m < 16) (second : n < 16) (same : hexDigit m = hexDigit n) :
    m = n := by
  have all : ∀ m n : Fin 16, hexDigit m = hexDigit n → m = n := by decide
  exact congrArg Fin.val (all ⟨m, first⟩ ⟨n, second⟩ same)

theorem hex_injective {first second : Bytes} (same : first.hex = second.hex) : first = second := by
  have chars := String.ofList_inj.1 same
  clear same
  induction first generalizing second with
  | nil =>
    cases second with
    | nil => rfl
    | cons b second => cases chars
  | cons a first ih =>
    cases second with
    | nil => cases chars
    | cons b second =>
      simp only [List.flatMap_cons, List.cons_append, List.nil_append, List.cons.injEq] at chars
      obtain ⟨high, low, rest⟩ := chars
      have bounds := And.intro a.toNat_lt b.toNat_lt
      have high := hexDigit_inj (by omega) (by omega) high
      have low := hexDigit_inj (by omega) (by omega) low
      rw [ih rest, UInt8.toNat_inj.1 (by omega : a.toNat = b.toNat)]

end Bytes

/-! ## Identifiers -/

theorem length_hexDigits (count n : Nat) : (hexDigits count n).length = count := by
  induction count generalizing n with
  | zero => rfl
  | succ count ih => simp [hexDigits, ih]

theorem mod_eq_of_hexDigits {count m n : Nat} (same : hexDigits count m = hexDigits count n) :
    m % 16 ^ count = n % 16 ^ count := by
  induction count generalizing m n with
  | zero => omega
  | succ count ih =>
    obtain ⟨front, last⟩ := List.append_inj same (by simp [length_hexDigits])
    have low := Bytes.hexDigit_inj (by omega) (by omega) (List.head_eq_of_cons_eq last)
    have high := ih front
    rw [Nat.pow_succ, Nat.mul_comm, Nat.mod_mul, Nat.mod_mul, low, high]

theorem length_uuidText (n : Nat) : (uuidText n).length = 36 := by
  simp [uuidText, length_hexDigits, ← String.length_toList]

theorem mod_eq_of_uuidText {m n : Nat} (same : uuidText m = uuidText n) :
    m % 2 ^ 122 = n % 2 ^ 122 := by
  have chars := String.ofList_inj.1 same
  have apart (count : Nat) {m n : Nat} {rest other : List Char}
      (same : hexDigits count m ++ rest = hexDigits count n ++ other) :
      m % 16 ^ count = n % 16 ^ count ∧ rest = other := by
    obtain ⟨front, back⟩ := List.append_inj same (by rw [length_hexDigits, length_hexDigits])
    exact ⟨mod_eq_of_hexDigits front, back⟩
  simp only [List.append_assoc, List.cons_append] at chars
  obtain ⟨time, chars⟩ := apart 8 chars
  obtain ⟨middle, chars⟩ := apart 4 (List.tail_eq_of_cons_eq chars)
  obtain ⟨high, chars⟩ := apart 3 (List.tail_eq_of_cons_eq (List.tail_eq_of_cons_eq chars))
  obtain ⟨variant, chars⟩ := List.cons_eq_cons.1 (List.tail_eq_of_cons_eq chars)
  obtain ⟨clock, chars⟩ := apart 3 chars
  have node := mod_eq_of_hexDigits (List.tail_eq_of_cons_eq chars)
  have variant := Bytes.hexDigit_inj (by omega) (by omega) variant
  simp only [Nat.shiftRight_eq_div_pow] at time middle high variant clock
  omega

end Iso8583
