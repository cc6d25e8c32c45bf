import Iso8583.Outbox
import Iso8583.Proofs.Codec.BinaryLayout
import Iso8583.Proofs.Framing.Payloads
import Mathlib.Tactic.IntervalCases

/-!
# Replies fit where their requests did

The reply to a request has an indicator of the same length and the same fields. A request that was read
may have had its fields in any order, and some of them more than once; written anew they take no more
room than before. So a reply always has a frame.
-/

namespace Iso8583

/-! ## Indicators of replies -/

theorem isDigit_next {c : Char} (digit : c.isDigit = true) (even : (c.toNat - '0'.toNat) % 2 = 0) :
    (Char.ofNat (c.toNat + 1)).isDigit = true ∧ (Char.ofNat (c.toNat + 1)).toNat = c.toNat + 1 := by
  obtain ⟨least, most⟩ := Char.isDigit_iff_toNat.1 digit
  change 48 ≤ c.toNat at least
  change c.toNat ≤ 57 at most
  change (c.toNat - 48) % 2 = 0 at even
  generalize c.toNat = n at least most even ⊢
  interval_cases n <;> first | exact ⟨rfl, rfl⟩ | omega

theorem utf8Size_of_isDigit {c : Char} (digit : c.isDigit = true) : c.utf8Size = 1 := by
  rw [Char.utf8Size_eq_one_iff, UInt32.le_iff_toNat_le]
  exact Nat.le_trans (Char.isDigit_iff_toNat.1 digit).2 (by decide)

theorem length_ofText_of_isDigit {a b c d : Char}
    (digits : a.isDigit = true ∧ b.isDigit = true ∧ c.isDigit = true ∧ d.isDigit = true) :
    (Bytes.ofText (String.ofList [a, b, c, d])).length = 4 := by
  obtain ⟨first, second, third, fourth⟩ := digits
  have lengths : ([a, b, c, d].map fun char => (String.utf8EncodeChar char).length) = [1, 1, 1, 1] := by
    simp only [String.length_utf8EncodeChar, List.map_cons, List.map_nil, utf8Size_of_isDigit first,
      utf8Size_of_isDigit second, utf8Size_of_isDigit third, utf8Size_of_isDigit fourth]
  rw [Bytes.ofText_ofList, List.length_flatMap, lengths]
  rfl

/-- The indicator `reply` answers the indicator `request`: both have four digits, the third of the
request's is even, and the reply's is the next one. -/
def AnswersMti (request reply : String) : Prop :=
  ∃ a b c next d : Char, request = String.ofList [a, b, c, d] ∧ reply = String.ofList [a, b, next, d] ∧
    (a.isDigit = true ∧ b.isDigit = true ∧ c.isDigit = true ∧ d.isDigit = true) ∧
    next.isDigit = true ∧ (c.toNat - '0'.toNat) % 2 = 0 ∧ next.toNat = c.toNat + 1

theorem AnswersMti.length_ofText {request reply : String} (answers : AnswersMti request reply) :
    (Bytes.ofText reply).length = (Bytes.ofText request).length := by
  obtain ⟨a, b, c, next, d, rfl, rfl, digits, digit, -, -⟩ := answers
  rw [length_ofText_of_isDigit digits,
    length_ofText_of_isDigit ⟨digits.1, digits.2.1, digit, digits.2.2.2⟩]

theorem functionDigit?_eq_some {mti : String} {digit : Nat} (found : functionDigit? mti = some digit) :
    ∃ a b c d : Char, mti.toList = [a, b, c, d] ∧ digit = c.toNat - '0'.toNat ∧
      (a.isDigit = true ∧ b.isDigit = true ∧ c.isDigit = true ∧ d.isDigit = true) := by
  unfold functionDigit? at found
  split at found
  · rename_i a b c d chars
    split at found
    · rename_i digits
      cases found
      simp only [Bool.and_eq_true] at digits
      exact ⟨a, b, c, d, chars, rfl, digits.1.1.1, digits.1.1.2, digits.1.2, digits.2⟩
    · cases found
  · cases found

theorem Message.toResponse_of_isRequest {msg : Message} (request : msg.isRequest = true) :
    ∃ reply, msg.toResponse = .ok reply ∧ AnswersMti msg.mti reply.mti ∧ reply.fields = msg.fields := by
  unfold isRequest at request
  obtain ⟨digit, found, isEven⟩ := (Option.any_eq_true _ _).1 request
  have even : digit % 2 = 0 := of_decide_eq_true isEven
  obtain ⟨a, b, c, d, chars, same, digits⟩ := functionDigit?_eq_some found
  have notOdd : ¬digit % 2 = 1 := by omega
  have answer : responseMti msg.mti = .ok (String.ofList [a, b, Char.ofNat (c.toNat + 1), d]) := by
    unfold responseMti
    simp only [found, chars]
    exact if_neg notOdd
  rw [same] at even
  obtain ⟨isDigit, next⟩ := isDigit_next digits.2.2.1 even
  refine ⟨⟨String.ofList [a, b, Char.ofNat (c.toNat + 1), d], msg.fields⟩, ?_, ?_, rfl⟩
  · unfold toResponse
    rw [answer]
  · refine ⟨a, b, c, _, d, ?_, rfl, digits, isDigit, even, next⟩
    rw [← chars, String.ofList_toList]

theorem Message.toResponse_of_not_isRequest {msg : Message} (other : msg.isRequest = false) :
    ∃ error, msg.toResponse = .error error := by
  unfold isRequest at other
  unfold toResponse responseMti
  cases found : functionDigit? msg.mti with
  | none => exact ⟨_, rfl⟩
  | some digit =>
    obtain ⟨a, b, c, d, chars, -, -⟩ := functionDigit?_eq_some found
    rw [found] at other
    have notEven : ¬digit % 2 = 0 := of_decide_eq_false other
    simp only [chars]
    rw [if_pos (by omega)]
    exact ⟨_, rfl⟩

/-! ## Fields that are set take no more room than fields that are listed -/

theorem Fields.sum_insertEntry_le (weight : UInt32 × FieldValue → Nat) (id : UInt32) (value : FieldValue)
    (entries : List (UInt32 × FieldValue)) :
    ((insertEntry id value entries).map weight).sum ≤ weight (id, value) + (entries.map weight).sum := by
  induction entries with
  | nil => exact Nat.le_refl _
  | cons first entries ih =>
    obtain ⟨k, v⟩ := first
    unfold insertEntry
    split
    · exact Nat.le_refl _
    · split <;> simp only [List.map_cons, List.sum_cons] <;> omega

theorem Fields.sum_ofList_le (weight : UInt32 × FieldValue → Nat)
    (entries : List (UInt32 × FieldValue)) :
    ((ofList entries).toList.map weight).sum ≤ (entries.map weight).sum := by
  have set (start : Fields) :
      ((entries.foldl (fun fields entry => fields.insert entry.1 entry.2) start).entries.map weight).sum ≤
        (start.entries.map weight).sum + (entries.map weight).sum := by
    induction entries generalizing start with
    | nil => exact Nat.le_refl _
    | cons entry entries ih =>
      have now : ((start.insert entry.1 entry.2).entries.map weight).sum ≤
          weight entry + (start.entries.map weight).sum :=
        sum_insertEntry_le weight entry.1 entry.2 start.entries
      have later := ih (start.insert entry.1 entry.2)
      rw [List.foldl_cons, List.map_cons, List.sum_cons]
      omega
  have whole : _ ≤ 0 + (entries.map weight).sum := set .empty
  unfold toList
  rw [List.map_reverse, List.sum_reverse]
  rwa [Nat.zero_add] at whole

/-! ## Replies to what was read -/

/-- A message with the fields of one that was read, and an indicator that is no longer, takes no more
bytes than were read. -/
theorem Binary.exists_encode_of_decode {payload : Bytes} {msg reply : Message}
    (read : decode payload = .ok msg) (same : reply.fields = msg.fields)
    (short : (Bytes.ofText reply.mti).length ≤ (Bytes.ofText msg.mti).length) :
    ∃ bytes, encode reply = .ok bytes ∧ bytes.length ≤ payload.length := by
  obtain ⟨entries, whole, mtiFits, countFits, -, set⟩ := eq_layout_of_decode read
  have few : reply.fields.size ≤ entries.length := by
    have count := Fields.sum_ofList_le (fun _ => 1) entries
    rw [← set, ← same, List.map_const', List.map_const', List.sum_replicate_nat, List.sum_replicate_nat,
      Nat.mul_one, Nat.mul_one, Fields.toList, List.length_reverse] at count
    exact count
  have light : (reply.fields.toList.flatMap encodeField).length ≤
      (entries.flatMap encodeField).length := by
    rw [same, set, List.length_flatMap, List.length_flatMap]
    exact Fields.sum_ofList_le _ entries
  refine ⟨layout reply.mti reply.fields.toList, ?_, ?_⟩
  · rw [encode_eq, if_neg (by omega), if_neg (by omega)]
  · rw [whole, length_layout, length_layout]
    omega

def FramesReply (request : Message) (bytes : Bytes) : Prop :=
  ∃ reply, AnswersMti request.mti reply.mti ∧ reply.fields = request.fields ∧
    Outbox.frameOf .binary reply = .ok bytes

theorem framesReply_of_receives {msg : Message} (arrived : Codec.binary.Receives msg)
    (request : msg.isRequest = true) :
    ∃ reply bytes, msg.toResponse = .ok reply ∧ Outbox.frameOf .binary reply = .ok bytes ∧
      FramesReply msg bytes := by
  obtain ⟨payload, short, read⟩ := arrived
  obtain ⟨reply, answer, answers, same⟩ := Message.toResponse_of_isRequest request
  obtain ⟨bytes, written, room⟩ :=
    Binary.exists_encode_of_decode read same (Nat.le_of_eq answers.length_ofText)
  obtain ⟨whole, framed⟩ : ∃ whole, frame bytes = .ok whole := by
    unfold frame
    rw [if_neg (by omega)]
    exact ⟨_, rfl⟩
  have made : Outbox.frameOf .binary reply = .ok whole := by
    have encoded : Codec.binary.encode reply = .ok bytes := written
    unfold Outbox.frameOf
    rw [encoded]
    dsimp only
    rw [framed]
    rfl
  exact ⟨reply, whole, answer, made, reply, answers, same, made⟩

end Iso8583
