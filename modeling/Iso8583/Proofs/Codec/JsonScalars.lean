import Iso8583.Codec.Json
import Mathlib.Tactic.SplitIfs

/-!
# JSON strings and numbers are read back

A string is read back from its escaped form, and a number of 64 bits from its decimal digits.
-/

namespace Iso8583.Json

theorem skipBlanks_cons {b : UInt8} (visible : isBlank b = false) (s : Bytes) :
    skipBlanks (b :: s) = b :: s := List.dropWhile_cons_of_neg (by simp [visible])

/-! ## Strings -/

theorem unit?_escape {n : Nat} (control : n < 32) :
    unit? 0x30 0x30 (hexByte (n / 16)) (hexByte (n % 16)) = some n ∧
      codePointReversed n = [UInt8.ofNat n] := by
  revert n
  decide

theorem readRaw_letter {letter byte : UInt8} (known : escapedByte? letter = some byte)
    (read s : Bytes) : readRaw read (0x5C :: letter :: s) = readRaw (byte :: read) s := by
  have notUnit : letter ≠ 0x75 := by
    rintro rfl
    cases known
  rw [readRaw.eq_def read]
  simp only [if_neg notUnit, known]
  rfl

theorem readRaw_control {b : UInt8} (control : b < 32) (read s : Bytes) :
    readRaw read ([0x5C, 0x75, 0x30, 0x30, hexByte (b.toNat / 16), hexByte (b.toNat % 16)] ++ s) =
      readRaw (b :: read) s := by
  have low : b.toNat < 32 := UInt8.lt_iff_toNat_lt.1 control
  obtain ⟨unit, point⟩ := unit?_escape low
  rw [UInt8.ofNat_toNat] at point
  rw [readRaw.eq_def read]
  simp only [List.cons_append, List.nil_append, if_true, unit, point]
  rw [if_neg (by decide), if_neg (by omega), if_neg (by omega)]

theorem readRaw_escapeByte (read : Bytes) (b : UInt8) (s : Bytes) :
    readRaw read (escapeByte b ++ s) = readRaw (b :: read) s := by
  unfold escapeByte
  split_ifs with quote backslash backspace formFeed lineFeed carriageReturn tab control
  · subst quote
    exact readRaw_letter rfl read s
  · subst backslash
    exact readRaw_letter rfl read s
  · subst backspace
    exact readRaw_letter rfl read s
  · subst formFeed
    exact readRaw_letter rfl read s
  · subst lineFeed
    exact readRaw_letter rfl read s
  · subst carriageReturn
    exact readRaw_letter rfl read s
  · subst tab
    exact readRaw_letter rfl read s
  · exact readRaw_control control read s
  · rw [List.singleton_append, readRaw.eq_def read (b :: s)]
    simp only [if_neg quote, if_neg backslash, if_neg control]

theorem readRaw_flatMap (read bytes rest : Bytes) :
    readRaw read (bytes.flatMap escapeByte ++ 0x22 :: rest) = .ok (read.reverse ++ bytes, rest) := by
  induction bytes generalizing read with
  | nil =>
    unfold readRaw
    simp
  | cons b bytes ih => rw [List.flatMap_cons, List.append_assoc, readRaw_escapeByte, ih]; simp

theorem readString_write (text : String) (rest : Bytes) :
    readString ((Bytes.ofText text).flatMap escapeByte ++ 0x22 :: rest) = .ok (text, rest) := by
  unfold readString
  rw [readRaw_flatMap, List.reverse_nil, List.nil_append]
  simp only [Bytes.toText?_ofText]

theorem readText_writeString (text : String) (rest : Bytes) :
    readText (writeString text ++ rest) = .ok (text, rest) := by
  unfold readText writeString
  rw [List.cons_append, List.cons_append, skipBlanks_cons rfl, List.append_assoc]
  simp only [if_true, List.singleton_append]
  exact readString_write text rest

/-! ## Numbers -/

theorem decimal_of_lt {n : Nat} (digit : n < 10) : decimal n = [UInt8.ofNat (0x30 + n)] := by
  unfold decimal
  rw [Nat.toDigits_of_lt_base digit]
  revert n
  decide

theorem decimal_of_le {n : Nat} (more : 10 ≤ n) :
    decimal n = decimal (n / 10) ++ [UInt8.ofNat (0x30 + n % 10)] := by
  have last := decimal_of_lt (Nat.mod_lt n (by omega : 0 < 10))
  unfold decimal at last ⊢
  rw [Nat.toDigits_of_base_le (by omega) more, List.map_append]
  rw [Nat.toDigits_of_lt_base (Nat.mod_lt n (by omega))] at last
  rw [← last]

theorem digit_facts {d : Nat} (h : d < 10) :
    isDigit (UInt8.ofNat (0x30 + d)) = true ∧ digitValue (UInt8.ofNat (0x30 + d)) = d ∧
      (UInt8.ofNat (0x30 + d) = 0x30 ↔ d = 0) := by
  revert d
  decide

theorem isDigit_of_mem_decimal {n : Nat} {b : UInt8} (h : b ∈ decimal n) : isDigit b = true := by
  induction n using Nat.strongRecOn with
  | _ n ih =>
    rcases Nat.lt_or_ge n 10 with digit | more
    · rw [decimal_of_lt digit, List.mem_singleton] at h
      rw [h]
      exact (digit_facts digit).1
    · rw [decimal_of_le more, List.mem_append, List.mem_singleton] at h
      rcases h with h | rfl
      · exact ih (n / 10) (by omega) h
      · exact (digit_facts (Nat.mod_lt n (by omega))).1

theorem digitsValue_decimal (n : Nat) : digitsValue (decimal n) = n := by
  induction n using Nat.strongRecOn with
  | _ n ih =>
    rcases Nat.lt_or_ge n 10 with digit | more
    · have value := (digit_facts digit).2.1
      rw [decimal_of_lt digit]
      unfold digitsValue
      rw [List.foldl_cons, List.foldl_nil, value]
      omega
    · have before := ih (n / 10) (by omega)
      have last := (digit_facts (Nat.mod_lt n (by omega : 0 < 10))).2.1
      unfold digitsValue at before ⊢
      rw [decimal_of_le more, List.foldl_append, before]
      simp only [List.foldl_cons, List.foldl_nil, last]
      omega

/-- Only zero starts with the digit zero. -/
theorem decimal_eq_cons (n : Nat) :
    ∃ b digits, decimal n = b :: digits ∧ isDigit b = true ∧ (b = 0x30 → digits = []) := by
  have head : ∃ b digits, decimal n = b :: digits ∧ (b = 0x30 → n = 0) := by
    induction n using Nat.strongRecOn with
    | _ n ih =>
      rcases Nat.lt_or_ge n 10 with digit | more
      · exact ⟨_, [], decimal_of_lt digit, (digit_facts digit).2.2.1⟩
      · obtain ⟨b, digits, same, zero⟩ := ih (n / 10) (by omega)
        refine ⟨b, digits ++ [UInt8.ofNat (0x30 + n % 10)], ?_, fun h => ?_⟩
        · rw [decimal_of_le more, same, List.cons_append]
        · have := zero h
          omega
  obtain ⟨b, digits, same, zero⟩ := head
  refine ⟨b, digits, same, isDigit_of_mem_decimal (same ▸ List.mem_cons_self), fun h => ?_⟩
  have isZero := zero h
  subst isZero
  exact (List.cons.inj same).2.symm

/-- Text behind a number that does not go on with it. -/
def EndsNumber (rest : Bytes) : Prop :=
  ∃ b s, rest = b :: s ∧ isDigit b = false ∧ b ≠ 0x2E ∧ b ≠ 0x65 ∧ b ≠ 0x45

theorem le_foldl_digits (n : Nat) (digits : Bytes) :
    n ≤ digits.foldl (fun n d => n * 10 + digitValue d) n := by
  induction digits generalizing n with
  | nil => exact Nat.le_refl n
  | cons d digits ih =>
    have := ih (n * 10 + digitValue d)
    simp only [List.foldl_cons]
    omega

theorem wholeDigits_append {digits rest : Bytes} (significand : Nat)
    (allDigits : ∀ d ∈ digits, isDigit d = true) (stops : EndsNumber rest)
    (fits : digits.foldl (fun n d => n * 10 + digitValue d) significand < wordLimit) :
    wholeDigits significand (digits ++ rest) =
      (digits.foldl (fun n d => n * 10 + digitValue d) significand, 0) := by
  induction digits generalizing significand with
  | nil =>
    obtain ⟨b, s, rfl, notDigit, -⟩ := stops
    simp [wholeDigits, notDigit]
  | cons d digits ih =>
    rw [List.foldl_cons] at fits ⊢
    have below := Nat.lt_of_le_of_lt (le_foldl_digits _ digits) fits
    rw [List.cons_append, wholeDigits, if_pos (allDigits d List.mem_cons_self)]
    simp only [if_pos below]
    exact ih _ (fun d mem => allDigits d (List.mem_cons_of_mem _ mem)) fits

theorem dropWhile_decimal (n : Nat) {rest : Bytes} (stops : EndsNumber rest) :
    (decimal n ++ rest).dropWhile isDigit = rest := by
  obtain ⟨b, s, rfl, notDigit, -⟩ := stops
  rw [List.dropWhile_append_of_pos (fun b mem => isDigit_of_mem_decimal mem)]
  exact List.dropWhile_cons_of_neg (by simp [notDigit])

theorem readNumber_decimal {n : Nat} (fits : n < wordLimit) {rest : Bytes} (stops : EndsNumber rest) :
    readNumber false (decimal n ++ rest) = .ok (.natural n, rest) := by
  have value := digitsValue_decimal n
  unfold digitsValue at value
  have whole := wholeDigits_append 0 (fun b (mem : b ∈ decimal n) => isDigit_of_mem_decimal mem) stops
    (by rw [value]; exact fits)
  have behind := dropWhile_decimal n stops
  obtain ⟨b, digits, same, digit, zero⟩ := decimal_eq_cons n
  rw [value] at whole
  rw [same, List.cons_append] at whole behind ⊢
  unfold readNumber
  simp only [digit, whole, behind]
  obtain ⟨c, s, rfl, notDigit, notPoint, notSmall, notLarge⟩ := stops
  have noZero : (b = 0x30 && (digits ++ c :: s).head?.any isDigit) = false := by
    by_cases isZero : b = 0x30
    · simp [zero isZero, notDigit]
    · simp [isZero]
  simp only [noZero]
  simp_all

theorem isBlank_of_isDigit {b : UInt8} (digit : isDigit b = true) : isBlank b = false := by
  unfold isDigit at digit
  unfold isBlank
  simp only [Bool.and_eq_true, decide_eq_true_eq, UInt8.le_iff_toNat_le] at digit
  have notLow (c : UInt8) (low : c.toNat < 48) : b ≠ c := by
    rintro rfl
    exact absurd digit.1 (Nat.not_le.2 low)
  simp [notLow]

theorem readNatural_decimal {n limit : Nat} (below : n < limit) (word : limit ≤ wordLimit)
    {rest : Bytes} (stops : EndsNumber rest) :
    readNatural limit (decimal n ++ rest) = .ok (n, rest) := by
  have number := readNumber_decimal (Nat.lt_of_lt_of_le below word) stops
  obtain ⟨b, digits, same, digit, -⟩ := decimal_eq_cons n
  rw [same, List.cons_append] at number ⊢
  have notSign : b ≠ 0x2D := by
    rintro rfl
    cases digit
  unfold readNatural
  rw [skipBlanks_cons (isBlank_of_isDigit digit)]
  simp only [if_neg notSign, digit, if_true, number]
  exact if_pos below

end Iso8583.Json
