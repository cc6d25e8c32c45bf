import Iso8583.Proofs.Codec.BinaryLayout

/-!
# Payloads tell where they end

Each part of a payload in the binary layout is cut off without a look at what stands behind it. So a
reader that is given less than the whole payload finds that something is missing, before anything else is
wrong with it, and one that is given more reads the same message and finds how much is left over.
-/

namespace Iso8583.Binary

/-! ## Readers that look at nothing behind their part -/

/-- A reader that cuts off its part of the input whatever follows, and finds nothing but missing bytes
wrong with an input that ends too early. -/
structure Delimits {α : Type} (read : Bytes → Except CodecError (α × Bytes)) : Prop where
  extend : ∀ {bytes rest value}, read bytes = .ok (value, rest) → ∀ more : Bytes,
    read (bytes ++ more) = .ok (value, rest ++ more)
  cut : ∀ {front more rest value}, read (front ++ more) = .ok (value, rest) →
    (∃ needed present, present < needed ∧ read front = .error (.truncated needed present)) ∨
      ∃ left, read front = .ok (value, left) ∧ rest = left ++ more

namespace Delimits

variable {α β : Type} {read : Bytes → Except CodecError (α × Bytes)}
  {next : α → Bytes → Except CodecError (β × Bytes)}

theorem pure (value : α) : Delimits fun bytes => .ok (value, bytes) := by
  constructor
  · intro bytes rest read done more
    cases done
    rfl
  · intro front more rest read done
    cases done
    exact .inr ⟨front, rfl, rfl⟩

theorem check (value : Except CodecError α) (second : ∀ value, Delimits (next value)) :
    Delimits fun bytes => value.bind fun value => next value bytes := by
  cases value with
  | error error =>
    constructor
    · intro bytes rest read done
      cases done
    · intro front more rest read done
      cases done
  | ok value => exact second value

theorem bind (first : Delimits read) (second : ∀ value, Delimits (next value)) :
    Delimits fun bytes => (read bytes).bind fun part => next part.1 part.2 := by
  have taken {bytes : Bytes} {result : β × Bytes}
      (done : (read bytes).bind (fun part => next part.1 part.2) = .ok result) :
      ∃ value rest, read bytes = .ok (value, rest) ∧ next value rest = .ok result := by
    cases cut : read bytes with
    | error error =>
      rw [cut] at done
      cases done
    | ok part =>
      rw [cut] at done
      exact ⟨part.1, part.2, rfl, done⟩
  constructor
  · intro bytes rest result done more
    obtain ⟨value, behind, part, done⟩ := taken done
    rw [first.extend part more]
    exact (second value).extend done more
  · intro front more rest result done
    obtain ⟨value, behind, part, done⟩ := taken done
    rcases first.cut part with ⟨needed, present, short, missing⟩ | ⟨left, here, rfl⟩
    · refine .inl ⟨needed, present, short, ?_⟩
      rw [missing]
      rfl
    · rw [here]
      exact (second value).cut done

end Delimits

/-! ## Parts -/

theorem delimits_take (n : Nat) : Delimits (take n) := by
  constructor
  · intro bytes rest front done more
    obtain ⟨rfl, length⟩ := eq_append_of_take done
    rw [List.append_assoc]
    exact take_append length (rest ++ more)
  · intro front more rest part done
    obtain ⟨whole, length⟩ := eq_append_of_take done
    by_cases short : front.length < n
    · refine .inl ⟨n, front.length, short, ?_⟩
      unfold take
      rw [List.splitAt_eq, List.take_of_length_le (Nat.le_of_lt short)]
      exact if_pos short
    · -- The part lies within the front, whose end is left over.
      have long : n ≤ front.length := Nat.le_of_not_lt short
      have inside : part = front.take n := by
        have same : (front ++ more).take n = front.take n := List.take_append_of_le_length long
        rw [← same, whole, ← length, List.take_left]
      have behind : rest = front.drop n ++ more := by
        rw [← List.drop_append_of_le_length long, whole, ← length, List.drop_left]
      refine .inr ⟨front.drop n, ?_, behind⟩
      unfold take
      rw [List.splitAt_eq, ← inside]
      exact if_neg (by omega)

theorem delimits_takeWord (width : Nat) : Delimits (takeWord width) := by
  have same : takeWord width = fun bytes =>
      (take width bytes).bind fun part => .ok (Bytes.ofBigEndian part.1, part.2) := by
    funext bytes
    unfold takeWord
    cases take width bytes <;> rfl
  rw [same]
  exact (delimits_take width).bind fun word => .pure (Bytes.ofBigEndian word)

theorem delimits_decodeField : Delimits decodeField :=
  (delimits_takeWord 4).bind fun id =>
    (delimits_takeWord 1).bind fun kind =>
      (delimits_takeWord 4).bind fun length =>
        (delimits_take length).bind fun raw =>
          .check (decodeValue (UInt32.ofNat id) (UInt8.ofNat kind) raw) fun value =>
            .pure (UInt32.ofNat id, value)

theorem delimits_decodeFields (count : Nat) (fields : Fields) : Delimits (decodeFields count fields) := by
  induction count generalizing fields with
  | zero => exact .pure fields
  | succ count ih =>
    have same : decodeFields (count + 1) fields = fun bytes =>
        (decodeField bytes).bind fun part =>
          decodeFields count (fields.insert part.1.1 part.1.2) part.2 := by
      funext bytes
      rw [decodeFields]
      cases decodeField bytes <;> rfl
    rw [same]
    exact delimits_decodeField.bind fun field => ih (fields.insert field.1 field.2)

/-! ## Messages -/

def takeMessage (bytes : Bytes) : Except CodecError (Message × Bytes) := do
  let (mtiLength, bytes) ← takeWord 1 bytes
  let (mtiBytes, bytes) ← take mtiLength bytes
  let mti ← (Bytes.toText? mtiBytes).elim (.error (.invalidUtf8 .mti)) .ok
  let (count, bytes) ← takeWord 2 bytes
  let (fields, bytes) ← decodeFields count .empty bytes
  return (⟨mti, fields⟩, bytes)

/-- A payload is read as one message with nothing behind it. -/
theorem decode_eq_takeMessage (bytes : Bytes) :
    decode bytes = (takeMessage bytes).bind fun (msg, rest) =>
      if rest.isEmpty then .ok msg else .error (.trailingBytes rest.length) := by
  unfold decode takeMessage
  simp only [bind, Except.bind]
  cases takeWord 1 bytes with
  | error error => rfl
  | ok lengthPart =>
    dsimp only
    cases take lengthPart.1 lengthPart.2 with
    | error error => rfl
    | ok mtiPart =>
      dsimp only
      cases Bytes.toText? mtiPart.1 with
      | none => rfl
      | some mti =>
        dsimp only [Option.elim]
        cases takeWord 2 mtiPart.2 with
        | error error => rfl
        | ok countPart =>
          dsimp only
          cases decodeFields countPart.1 .empty countPart.2 <;> rfl

theorem delimits_takeMessage : Delimits takeMessage :=
  (delimits_takeWord 1).bind fun mtiLength =>
    (delimits_take mtiLength).bind fun mtiBytes =>
      .check ((Bytes.toText? mtiBytes).elim (.error (.invalidUtf8 .mti)) .ok) fun mti =>
        (delimits_takeWord 2).bind fun count =>
          (delimits_decodeFields count .empty).bind fun fields =>
            .pure (⟨mti, fields⟩ : Message)

theorem takeMessage_of_decode {bytes : Bytes} {msg : Message} (read : decode bytes = .ok msg) :
    takeMessage bytes = .ok (msg, []) := by
  rw [decode_eq_takeMessage] at read
  cases taken : takeMessage bytes with
  | error error =>
    rw [taken] at read
    cases read
  | ok part =>
    obtain ⟨held, rest⟩ := part
    rw [taken] at read
    cases rest with
    | nil =>
      cases read
      rfl
    | cons byte rest => cases read

theorem truncated_of_part {front more : Bytes} {msg : Message} (read : decode (front ++ more) = .ok msg)
    (missing : more ≠ []) :
    ∃ needed present, present < needed ∧ decode front = .error (.truncated needed present) := by
  rw [decode_eq_takeMessage]
  rcases delimits_takeMessage.cut (takeMessage_of_decode read) with
    ⟨needed, present, short, truncated⟩ | ⟨left, -, nothing⟩
  · refine ⟨needed, present, short, ?_⟩
    rw [truncated]
    rfl
  · exact absurd (List.append_eq_nil_iff.1 nothing.symm).2 missing

theorem trailingBytes_of_more {bytes more : Bytes} {msg : Message} (read : decode bytes = .ok msg)
    (present : more ≠ []) : decode (bytes ++ more) = .error (.trailingBytes more.length) := by
  have taken := delimits_takeMessage.extend (takeMessage_of_decode read) more
  rw [decode_eq_takeMessage, taken, List.nil_append]
  exact if_neg (by simpa using present)

/-- A payload that was written, from a message whose values are all shorter than four gigabytes, tells
where it ends: a shorter part of it is truncated, and nothing else is found wrong with it; whatever is put
behind it is found to be left over. -/
theorem payload_delimits_itself {msg : Message} {bytes : Bytes}
    (fits : ∀ entry ∈ msg.fields.toList, (content entry.2).length < 2 ^ 32)
    (written : encode msg = .ok bytes) :
    (∀ front, front <+: bytes → front ≠ bytes →
      ∃ needed present, present < needed ∧ decode front = .error (.truncated needed present)) ∧
    ∀ more, more ≠ [] → decode (bytes ++ more) = .error (.trailingBytes more.length) := by
  have read : decode bytes = .ok msg := decode_encode_of_fits fits written
  constructor
  · rintro front ⟨more, rfl⟩ part
    refine truncated_of_part read ?_
    rintro rfl
    exact part (List.append_nil front).symm
  · intro more present
    exact trailingBytes_of_more read present

/-- A cut in the middle of a character of the type indicator. -/
theorem payload_delimits_itself_within_a_character :
    ∃ bytes, encode ⟨"é", Fields.empty.insert 7 (.text "x")⟩ = .ok bytes ∧ bytes.length = 15 ∧
      (∃ needed present, decode (bytes.take 2) = .error (.truncated needed present)) ∧
      decode (bytes ++ [0]) = .error (.trailingBytes 1) := by
  refine ⟨[2, 195, 169, 0, 1, 0, 0, 0, 7, 0, 0, 0, 0, 1, 120], by decide, rfl, ?_⟩
  obtain ⟨parts, more⟩ := @payload_delimits_itself ⟨"é", Fields.empty.insert 7 (.text "x")⟩
    [2, 195, 169, 0, 1, 0, 0, 0, 7, 0, 0, 0, 0, 1, 120] (by decide) (by decide)
  obtain ⟨needed, present, -, truncated⟩ := parts _ (List.take_prefix 2 _) (by decide)
  exact ⟨⟨needed, present, truncated⟩, more [0] (by simp)⟩

end Iso8583.Binary
