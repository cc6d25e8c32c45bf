import Iso8583.KeyFields
import Mathlib.Data.List.Forall2
import Mathlib.Data.List.TakeWhile

/-!
# The texts that list key fields

A list of key fields is any text whose parts between commas each spell a number of 32 bits, with blanks
around it or not. The parser accepts these texts and no others.
-/

namespace Iso8583

namespace Text

variable {limit n : Nat} {before after body part chars : List Char}

/-- One or more digits for a number, with or without a plus sign before them. -/
def IsNumeral (chars : List Char) (n : Nat) : Prop :=
  ∃ digits, (chars = digits ∨ chars = '+' :: digits) ∧ digits ≠ [] ∧ (∀ c ∈ digits, c.isDigit) ∧
    Nat.ofDigitChars 10 digits 0 = n

/-- Whether `part` is `body` with any number of blanks on both sides. -/
def Padded (body part : List Char) : Prop :=
  ∃ before after, part = before ++ body ++ after ∧ (∀ c ∈ before, isBlank c) ∧ ∀ c ∈ after, isBlank c

/-- A numeral, with or without blanks around it. -/
def Spells (part : List Char) (n : Nat) : Prop :=
  ∃ body, Padded body part ∧ IsNumeral body n

/-! ## Digits -/

theorem readDigits_eq_ok_iff {value : Nat} (below : value < limit) :
    readDigits limit value chars = .ok n ↔
      (∀ c ∈ chars, c.isDigit) ∧ Nat.ofDigitChars 10 chars value = n ∧ n < limit := by
  induction chars generalizing value with
  | nil =>
    simp only [readDigits, Except.ok.injEq, Nat.ofDigitChars_nil, List.not_mem_nil, false_implies,
      implies_true, true_and]
    constructor
    · rintro rfl; exact ⟨rfl, below⟩
    · exact And.left
  | cons c rest ih =>
    simp only [readDigits, Nat.ofDigitChars_cons, List.forall_mem_cons, Nat.mul_comm value]
    split
    · rename_i digit
      split
      · rename_i room
        rw [ih room]
        simp [digit]
      · -- Later digits never make the value smaller.
        rename_i full
        have positive := Nat.pow_pos (n := rest.length) (by decide : 0 < 10)
        have := Nat.le_mul_of_pos_left (10 * value + (c.toNat - '0'.toNat)) positive
        rw [Nat.ofDigitChars_eq_ofDigitChars_zero]
        simp only [reduceCtorEq, false_iff]
        omega
    · simp [*]

theorem readNat_eq_ok_iff (room : 0 < limit) :
    readNat limit (String.ofList chars) = .ok n ↔ IsNumeral chars n ∧ n < limit := by
  have plus : '+'.isDigit = false := by decide
  unfold readNat IsNumeral
  rw [String.toList_ofList]
  split
  · simp
  · simp [plus]
  · rename_i digits bare
    rw [readDigits_eq_ok_iff room]
    constructor
    · rintro ⟨all, value, below⟩
      exact ⟨⟨digits, .inr rfl, fun none => bare (none ▸ rfl), all, value⟩, below⟩
    · rintro ⟨⟨others, rfl | same, -, all, value⟩, below⟩
      · simp [plus] at all
      · cases same
        exact ⟨all, value, below⟩
  · rename_i some bare signed
    rw [readDigits_eq_ok_iff room]
    constructor
    · rintro ⟨all, value, below⟩
      exact ⟨⟨chars, .inl rfl, some, all, value⟩, below⟩
    · rintro ⟨⟨others, rfl | same, -, all, value⟩, below⟩
      · exact ⟨all, value, below⟩
      · exact (signed others same).elim

theorem IsNumeral.ne_nil (numeral : IsNumeral chars n) : chars ≠ [] := by
  obtain ⟨digits, rfl | rfl, some, -⟩ := numeral
  · exact some
  · simp

theorem isBlank_of_isDigit {c : Char} (digit : c.isDigit) : isBlank c = false := by
  simp only [Char.isDigit, Bool.and_eq_true, decide_eq_true_eq, ge_iff_le] at digit
  have low : 48 ≤ c.toNat := digit.1
  have high : c.toNat ≤ 57 := digit.2
  simp [isBlank]
  omega

theorem IsNumeral.isBlank_eq_false (numeral : IsNumeral chars n) {c : Char} (inside : c ∈ chars) :
    isBlank c = false := by
  obtain ⟨digits, rfl | rfl, -, all, -⟩ := numeral
  · exact isBlank_of_isDigit (all c inside)
  · obtain rfl | inside := List.mem_cons.1 inside
    · decide
    · exact isBlank_of_isDigit (all c inside)

/-! ## Blanks -/

theorem dropWhile_isBlank_of_solid (after : List Char) (front : ∀ c ∈ before, isBlank c)
    (some : body ≠ []) (solid : ∀ c ∈ body, isBlank c = false) :
    (before ++ (body ++ after)).dropWhile isBlank = body ++ after := by
  obtain ⟨c, body, rfl⟩ := List.exists_cons_of_ne_nil some
  rw [List.dropWhile_append_of_pos front]
  simp [solid c]

theorem Padded.trim_eq (padded : Padded body part) (some : body ≠ [])
    (solid : ∀ c ∈ body, isBlank c = false) : trim part = body := by
  obtain ⟨before, after, rfl, front, back⟩ := padded
  have reversed : (after.reverse ++ (body.reverse ++ [])).dropWhile isBlank = body.reverse ++ [] :=
    dropWhile_isBlank_of_solid [] (by simpa using back) (by simpa using some) (by simpa using solid)
  simp only [List.append_nil] at reversed
  rw [trim, List.append_assoc, dropWhile_isBlank_of_solid after front some solid, List.reverse_append,
    reversed, List.reverse_reverse]

theorem padded_trim (part : List Char) : Padded (trim part) part := by
  let rest := part.dropWhile isBlank
  refine ⟨part.takeWhile isBlank, (rest.reverse.takeWhile isBlank).reverse, ?_,
    fun c => List.mem_takeWhile_imp, fun c inside => List.mem_takeWhile_imp (List.mem_reverse.1 inside)⟩
  have back := congrArg List.reverse
    (List.takeWhile_append_dropWhile (p := isBlank) (l := rest.reverse))
  rw [List.reverse_append, List.reverse_reverse] at back
  rw [trim, List.append_assoc, back, List.takeWhile_append_dropWhile]

theorem Padded.spells (padded : Padded body part) (numeral : IsNumeral body n) : Spells part n :=
  ⟨body, padded, numeral⟩

theorem spells_iff_isNumeral_trim : Spells part n ↔ IsNumeral (trim part) n := by
  constructor
  · rintro ⟨body, padded, numeral⟩
    rwa [padded.trim_eq numeral.ne_nil fun c => numeral.isBlank_eq_false]
  · exact fun numeral => ⟨trim part, padded_trim part, numeral⟩

/-! ## Commas -/

theorem splitCommas_eq_splitOn (chars : List Char) : splitCommas chars = chars.splitOn ',' := by
  induction chars with
  | nil => rfl
  | cons c rest ih =>
    rw [splitCommas, List.splitOn_cons_eq_if_modifyHead, ih]
    obtain ⟨part, parts, split⟩ := List.exists_cons_of_ne_nil (List.splitOn_ne_nil ',' rest)
    simp [split]

theorem IsNumeral.notMem_comma (numeral : IsNumeral chars n) : ',' ∉ chars := by
  obtain ⟨digits, rfl | rfl, -, all, -⟩ := numeral
  · exact fun inside => absurd (all _ inside) (by decide)
  · intro inside
    obtain wrong | inside := List.mem_cons.1 inside
    · exact absurd wrong (by decide)
    · exact absurd (all _ inside) (by decide)

theorem Spells.notMem_comma (spelt : Spells part n) : ',' ∉ part := by
  obtain ⟨body, ⟨before, after, rfl, front, back⟩, numeral⟩ := spelt
  intro inside
  simp only [List.mem_append] at inside
  obtain (inside | inside) | inside := inside
  · exact absurd (front _ inside) (by decide)
  · exact numeral.notMem_comma inside
  · exact absurd (back _ inside) (by decide)

/-! ## Decimal forms -/

theorem isNumeral_toString (n : Nat) : IsNumeral (toString n).toList n := by
  rw [Nat.toString_eq_ofList_toDigits, String.toList_ofList]
  exact ⟨Nat.toDigits 10 n, .inl rfl, Nat.toDigits_ne_nil,
    fun c => Nat.isDigit_of_mem_toDigits (by decide) (by decide), Nat.ofDigitChars_ten_toDigits⟩

end Text

namespace KeyFields

variable {part : List Char} {parts : List (List Char)} {ids : List UInt32} {id : UInt32}

theorem parseId?_eq_some_iff : parseId? part = some id ↔ Text.Spells part id.toNat := by
  have positive : 0 < UInt32.size := by decide
  rw [Text.spells_iff_isNumeral_trim, parseId?, ← and_iff_left id.toNat_lt (a := Text.IsNumeral _ _),
    ← Text.readNat_eq_ok_iff positive]
  split
  · rename_i n same
    have below := ((Text.readNat_eq_ok_iff positive).1 same).2
    rw [same, Option.some.injEq, Except.ok.injEq, ← UInt32.toNat_inj, UInt32.toNat_ofNat_of_lt' below]
  · rename_i error same
    simp [same]

theorem exists_parseId?_iff :
    (∃ id, parseId? part = some id) ↔ ∃ n ≤ 4294967295, Text.Spells part n := by
  simp only [parseId?_eq_some_iff]
  constructor
  · rintro ⟨id, spelt⟩
    exact ⟨id.toNat, by have := id.toNat_lt; omega, spelt⟩
  · rintro ⟨n, small, spelt⟩
    have : (UInt32.ofNat n).toNat = n := UInt32.toNat_ofNat_of_lt' (by simp [UInt32.size]; omega)
    exact ⟨UInt32.ofNat n, by rwa [this]⟩

theorem mapM_parseId?_eq_some_iff : parts.mapM parseId? = some ids ↔
    List.Forall₂ (fun part id => Text.Spells part id.toNat) parts ids := by
  induction parts generalizing ids with
  | nil => simp [eq_comm]
  | cons part parts ih =>
    simp only [List.mapM_cons, Option.bind_eq_bind, Option.bind_eq_some_iff, Option.pure_def,
      Option.some.injEq, List.forall₂_cons_left_iff, parseId?_eq_some_iff, ih]
    grind

theorem exists_mapM_parseId?_iff : (∃ ids, parts.mapM parseId? = some ids) ↔
    ∀ part ∈ parts, ∃ n ≤ 4294967295, Text.Spells part n := by
  induction parts with
  | nil => simp
  | cons part parts ih =>
    rw [List.forall_mem_cons, ← ih, ← exists_parseId?_iff]
    simp only [List.mapM_cons, Option.bind_eq_bind, Option.bind_eq_some_iff, Option.pure_def,
      Option.some.injEq]
    grind

theorem parse_of_parts {text : String} (read : (text.toList.splitOn ',').mapM parseId? = some ids) :
    ∃ fields, parse text = .ok fields ∧ fields.ids = ids := by
  have some : ids ≠ [] := by
    rintro rfl
    have := List.forall₂_nil_right_iff.1 (mapM_parseId?_eq_some_iff.1 read)
    exact List.splitOn_ne_nil ',' text.toList this
  refine ⟨⟨ids, some⟩, ?_, rfl⟩
  rw [parse, Text.splitCommas_eq_splitOn, read]
  simp [ofList, some, Except.mapError]

theorem parse_of_no_parts {text : String} (unread : (text.toList.splitOn ',').mapM parseId? = none) :
    parse text = .error (.invalidKeyFields text) := by
  rw [parse, Text.splitCommas_eq_splitOn, unread]

theorem eq_of_parse_eq_error {text : String} {error : ConfigError} (failed : parse text = .error error) :
    error = .invalidKeyFields text := by
  cases read : (text.toList.splitOn ',').mapM parseId? with
  | none =>
    rw [parse_of_no_parts read] at failed
    exact (Except.error.inj failed).symm
  | some ids =>
    obtain ⟨fields, parsed, -⟩ := parse_of_parts read
    rw [parsed] at failed
    cases failed

theorem parse_eq_ok_iff {text : String} {fields : KeyFields} : parse text = .ok fields ↔
    List.Forall₂ (fun part id => Text.Spells part id.toNat) (text.toList.splitOn ',') fields.ids := by
  rw [← mapM_parseId?_eq_some_iff]
  cases read : (text.toList.splitOn ',').mapM parseId? with
  | none => simp [parse_of_no_parts read]
  | some ids =>
    obtain ⟨⟨_, some⟩, parsed, rfl⟩ := parse_of_parts read
    rw [parsed, Except.ok.injEq, Option.some.injEq, mk.injEq]

/-- What the parser accepts and what it returns, over all texts: a text is a list of key fields if each part
between commas spells a number of 32 bits. The fields are then these numbers in order, and there is at least
one. The error carries any other text as it is. -/
theorem parse_accepts_grammar (text : String) :
    ((∃ fields, parse text = .ok fields) ↔
      ∀ part ∈ text.toList.splitOn ',', ∃ n ≤ 4294967295, Text.Spells part n) ∧
    (∀ fields, parse text = .ok fields ↔ fields.ids ≠ [] ∧
      List.Forall₂ (fun part id => Text.Spells part id.toNat) (text.toList.splitOn ',') fields.ids) ∧
    (∀ error, parse text = .error error → error = .invalidKeyFields text) ∧
    ∀ (fields : KeyFields) (parts : List (List Char)),
      List.Forall₂ (fun part id => Text.Padded (toString id.toNat).toList part) parts fields.ids →
      text.toList = [','].intercalate parts → parse text = .ok fields := by
  refine ⟨?_, fun fields => ?_, fun error => eq_of_parse_eq_error, fun fields parts padded joined => ?_⟩
  · rw [← exists_mapM_parseId?_iff]
    constructor
    · rintro ⟨fields, parsed⟩
      exact ⟨fields.ids, mapM_parseId?_eq_some_iff.2 (parse_eq_ok_iff.1 parsed)⟩
    · rintro ⟨ids, read⟩
      obtain ⟨fields, parsed, -⟩ := parse_of_parts read
      exact ⟨fields, parsed⟩
  · rw [parse_eq_ok_iff, and_iff_right fields.nonempty]
  · -- No part holds a comma of its own, so the text falls apart where it was joined.
    have spelt := padded.imp fun part id padded => padded.spells (Text.isNumeral_toString id.toNat)
    have whole := ((List.forall₂_and_left (p := fun part => ',' ∉ part) _ _).1
      (spelt.imp fun part id spelt => ⟨spelt.notMem_comma, spelt⟩)).1
    have some : parts ≠ [] := by
      rintro rfl
      exact fields.nonempty (List.forall₂_nil_left_iff.1 padded)
    rwa [parse_eq_ok_iff, joined, List.splitOn_intercalate ',' whole some]

theorem parse_accepts_grammar_at_limit :
    parse "\u2003\t41\u0085, 11 ,4294967295" = .ok ⟨[41, 11, 4294967295], by simp⟩ ∧
      ¬ ∀ part ∈ "41, 4294967296".toList.splitOn ',', ∃ n ≤ 4294967295, Text.Spells part n := by
  constructor
  · refine (parse_accepts_grammar _).2.2.2 _ [['\u2003', '\t', '4', '1', '\u0085'],
      [' ', '1', '1', ' '], ['4', '2', '9', '4', '9', '6', '7', '2', '9', '5']] ?_ (by decide)
    refine .cons ⟨['\u2003', '\t'], ['\u0085'], by decide, ?_, ?_⟩
      (.cons ⟨[' '], [' '], by decide, ?_, ?_⟩ (.cons ⟨[], [], by decide, ?_, ?_⟩ .nil))
    all_goals simp [Text.isBlank]
  · rw [← (parse_accepts_grammar _).1]
    have refused : parse "41, 4294967296" = .error (.invalidKeyFields "41, 4294967296") := by decide
    simp [refused]

end KeyFields

end Iso8583
