import Iso8583.Proofs.Codec.JsonScalars

/-!
# The JSON layout reads back what it writes

Objects and arrays are written without blanks, their items with commas between them. Each reader is
given the text of what it reads with anything behind it.
-/

namespace Iso8583.Json

/-! ## Members and elements -/

section

variable {α σ : Type}

theorem readMembers_cons {member : σ → Reader σ} {round : UInt8} {rounds : Bytes} {first : Bool}
    {state next : σ} {s key rest : Bytes} (found : nextKey first s = .ok (some key))
    (read : member state key = .ok (next, rest)) :
    readMembers member (round :: rounds) first state s = readMembers member rounds false next rest := by
  rw [readMembers, found]
  simp only [read]

theorem readMembers_end (member : σ → Reader σ) (round : UInt8) (rounds : Bytes) (first : Bool)
    (state : σ) (rest : Bytes) :
    readMembers member (round :: rounds) first state (0x7D :: rest) = .ok (state, 0x7D :: rest) := rfl

theorem readElements_cons {element : Reader α} {round : UInt8} {rounds : Bytes} {first : Bool}
    {value : α} {read : List α} {s start rest : Bytes} (found : nextElement first s = .ok (some start))
    (one : element start = .ok (value, rest)) :
    readElements element (round :: rounds) first read s =
      readElements element rounds false (value :: read) rest := by
  rw [readElements, found]
  simp only [one]

theorem length_le_separated {items : List Bytes} (nonempty : ∀ item ∈ items, item ≠ []) :
    items.length ≤ (separated items).length := by
  have tail (items : List Bytes) :
      items.length ≤ (items.flatMap fun item => 0x2C :: item).length := by
    induction items with
    | nil => exact Nat.le_refl 0
    | cons item items ih =>
      rw [List.flatMap_cons, List.length_append, List.length_cons, List.length_cons]
      omega
  cases items with
  | nil => exact Nat.zero_le _
  | cons item items =>
    have some := List.length_pos_iff.2 (nonempty item List.mem_cons_self)
    have rest := tail items
    rw [separated, List.length_append, List.length_cons]
    omega

end

/-! ## Bytes -/

theorem readNatural_byte {n : Nat} (byte : n < 256) {rest : Bytes} (stops : EndsNumber rest) :
    readNatural 256 (decimal n ++ rest) = .ok (n, rest) :=
  readNatural_decimal byte (by decide) stops

theorem nextElement_decimal (n : Nat) (rest : Bytes) :
    nextElement true (decimal n ++ rest) = .ok (some (decimal n ++ rest)) ∧
      nextElement false (0x2C :: (decimal n ++ rest)) = .ok (some (decimal n ++ rest)) := by
  obtain ⟨b, digits, same, digit, -⟩ := decimal_eq_cons n
  have blank := isBlank_of_isDigit digit
  have notEnd : b ≠ 0x5D := by
    rintro rfl
    cases digit
  rw [same, List.cons_append]
  constructor
  · unfold nextElement
    rw [skipBlanks_cons blank]
    simp only [if_neg notEnd, if_true]
  · unfold nextElement
    rw [skipBlanks_cons rfl]
    simp only [skipBlanks_cons blank, if_neg notEnd]
    rfl

theorem endsNumber_elements (numbers : List Nat) (rest : Bytes) :
    EndsNumber ((numbers.map decimal).flatMap (fun item => 0x2C :: item) ++ 0x5D :: rest) := by
  cases numbers with
  | nil => exact ⟨0x5D, rest, rfl, by decide⟩
  | cons n numbers => exact ⟨0x2C, _, rfl, by decide⟩

theorem readElements_tail {numbers : List Nat} (bytes : ∀ n ∈ numbers, n < 256) {rounds : Bytes}
    (enough : numbers.length < rounds.length) (read : List Nat) (rest : Bytes) :
    readElements (readNatural 256) rounds false read
        ((numbers.map decimal).flatMap (fun item => 0x2C :: item) ++ 0x5D :: rest) =
      .ok (read.reverse ++ numbers, 0x5D :: rest) := by
  induction numbers generalizing rounds read with
  | nil =>
    obtain ⟨round, rounds, rfl⟩ := List.exists_cons_of_length_pos enough
    rw [List.append_nil]
    rfl
  | cons n numbers ih =>
    obtain ⟨round, rounds, rfl⟩ := List.exists_cons_of_length_pos (Nat.zero_lt_of_lt enough)
    have stops := endsNumber_elements numbers rest
    rw [List.map_cons, List.flatMap_cons, List.cons_append, List.cons_append, List.append_assoc,
      readElements_cons (nextElement_decimal n _).2 (readNatural_byte (bytes n List.mem_cons_self) stops),
      ih (fun n mem => bytes n (List.mem_cons_of_mem _ mem)) (Nat.lt_of_succ_lt_succ enough),
      List.reverse_cons, List.append_assoc, List.singleton_append]

theorem readElements_separated {numbers : List Nat} (bytes : ∀ n ∈ numbers, n < 256) {rounds : Bytes}
    (enough : numbers.length < rounds.length) (rest : Bytes) :
    readElements (readNatural 256) rounds true [] (separated (numbers.map decimal) ++ 0x5D :: rest) =
      .ok (numbers, 0x5D :: rest) := by
  obtain ⟨round, rounds, rfl⟩ := List.exists_cons_of_length_pos (Nat.zero_lt_of_lt enough)
  cases numbers with
  | nil => rfl
  | cons n numbers =>
    have stops := endsNumber_elements numbers rest
    rw [List.map_cons, separated, List.append_assoc,
      readElements_cons (nextElement_decimal n _).1 (readNatural_byte (bytes n List.mem_cons_self) stops),
      readElements_tail (fun n mem => bytes n (List.mem_cons_of_mem _ mem))
        (Nat.lt_of_succ_lt_succ enough)]
    rfl

theorem decimal_ne_nil (n : Nat) : decimal n ≠ [] := by
  obtain ⟨b, digits, same, -⟩ := decimal_eq_cons n
  rw [same]
  exact List.cons_ne_nil _ _

theorem readArray_separated {numbers : List Nat} (bytes : ∀ n ∈ numbers, n < 256) (rest : Bytes) :
    readArray (readNatural 256) (0x5B :: (separated (numbers.map decimal) ++ 0x5D :: rest)) =
      .ok (numbers, rest) := by
  have size := length_le_separated (show ∀ item ∈ numbers.map decimal, item ≠ [] by
    simp [decimal_ne_nil])
  have enough : numbers.length <
      ((0x5B :: (separated (numbers.map decimal) ++ 0x5D :: rest) : Bytes)).length := by
    rw [List.length_map] at size
    rw [List.length_cons, List.length_append]
    omega
  unfold readArray
  rw [skipBlanks_cons rfl]
  simp only [if_true, readElements_separated bytes enough]
  rfl

/-! ## Field values -/

/-- A key, or a name, behind its opening quote. -/
def quotedTail (name : String) (rest : Bytes) : Bytes :=
  (Bytes.ofText name).flatMap escapeByte ++ 0x22 :: rest

theorem readString_quotedTail (name : String) (rest : Bytes) :
    readString (quotedTail name rest) = .ok (name, rest) := readString_write name rest

theorem readColon_cons (rest : Bytes) : readColon (0x3A :: rest) = .ok rest := rfl

theorem readKind_quoted {name : String} {kind : Kind} (known : Kind.ofName? name = some kind)
    (rest : Bytes) : readKind (0x22 :: quotedTail name rest) = .ok (kind, rest) := by
  unfold readKind
  rw [skipBlanks_cons rfl]
  simp only [if_true]
  unfold readKindName
  simp only [bind, Except.bind, readString_quotedTail, known]
  rfl

theorem readPart_kind {name : String} {kind : Kind} (known : Kind.ofName? name = some kind)
    (depth : Nat) (rest : Bytes) :
    readPart depth .none (quotedTail "kind" (0x3A :: 0x22 :: quotedTail name rest)) =
      .ok (.kind kind, rest) := by
  unfold readPart
  simp only [bind, Except.bind, readString_quotedTail, readColon_cons, readKind_quoted known, if_true]
  rfl

theorem readPart_content {kind : Kind} {value : FieldValue} {content rest : Bytes}
    (read : readContent kind content = .ok (value, rest)) (depth : Nat) :
    readPart depth (.kind kind) (quotedTail "value" (0x3A :: content)) = .ok (.both value, rest) := by
  unfold readPart
  simp only [bind, Except.bind, readString_quotedTail, readColon_cons, read,
    if_neg (by decide : ¬"value" = "kind"), if_true]
  rfl

theorem readFieldValue_parts {name : String} {kind : Kind} (known : Kind.ofName? name = some kind)
    {value : FieldValue} {content rest : Bytes}
    (read : readContent kind content = .ok (value, 0x7D :: rest)) (depth : Nat) :
    readFieldValue depth (0x7B :: 0x22 :: quotedTail "kind" (0x3A :: 0x22 :: quotedTail name
      (0x2C :: 0x22 :: quotedTail "value" (0x3A :: content)))) = .ok (value, rest) := by
  have members (rounds : Bytes) : readMembers (readPart depth) (0x7B :: 0x22 :: 0x6B :: rounds) true
      .none (0x22 :: quotedTail "kind" (0x3A :: 0x22 :: quotedTail name
        (0x2C :: 0x22 :: quotedTail "value" (0x3A :: content)))) =
        .ok (.both value, 0x7D :: rest) := by
    rw [readMembers_cons rfl (readPart_kind known depth _),
      readMembers_cons rfl (readPart_content read depth), readMembers_end]
  unfold readFieldValue
  rw [skipBlanks_cons rfl]
  simp only [if_true]
  rw [if_neg (by decide)]
  unfold readObjectTail
  simp only [bind, Except.bind]
  have start (rest : Bytes) : quotedTail "kind" rest = 0x6B :: 0x69 :: 0x6E :: 0x64 :: 0x22 :: rest :=
    rfl
  rw [start] at members ⊢
  rw [members]
  rfl

theorem writeValue_text (text : String) (rest : Bytes) :
    writeValue (.text text) ++ rest = 0x7B :: 0x22 :: quotedTail "kind" (0x3A :: 0x22 ::
      quotedTail "text" (0x2C :: 0x22 :: quotedTail "value" (0x3A ::
        (writeString text ++ 0x7D :: rest)))) := by
  simp only [writeValue, List.append_assoc, List.singleton_append]
  rfl

theorem writeValue_binary (bytes : Bytes) (rest : Bytes) :
    writeValue (.binary bytes) ++ rest = 0x7B :: 0x22 :: quotedTail "kind" (0x3A :: 0x22 ::
      quotedTail "binary" (0x2C :: 0x22 :: quotedTail "value" (0x3A ::
        0x5B :: (separated ((bytes.map UInt8.toNat).map decimal) ++ 0x5D :: 0x7D :: rest)))) := by
  simp only [writeValue, List.append_assoc, List.map_map, List.cons_append, List.nil_append]
  rfl

theorem readFieldValue_writeValue (depth : Nat) (value : FieldValue) (rest : Bytes) :
    readFieldValue depth (writeValue value ++ rest) = .ok (value, rest) := by
  cases value with
  | text text =>
    have content : readContent .text (writeString text ++ 0x7D :: rest) =
        .ok (.text text, 0x7D :: rest) := by
      unfold readContent
      simp only [readText_writeString]
      rfl
    rw [writeValue_text]
    exact readFieldValue_parts rfl content depth
  | binary bytes =>
    have numbers : ∀ n ∈ bytes.map UInt8.toNat, n < 256 := by
      simp only [List.mem_map]
      rintro n ⟨b, -, rfl⟩
      exact b.toNat_lt
    have content : readContent .binary (0x5B :: (separated ((bytes.map UInt8.toNat).map decimal) ++
        0x5D :: 0x7D :: rest)) = .ok (.binary bytes, 0x7D :: rest) := by
      unfold readContent
      have same : (bytes.map UInt8.toNat).map UInt8.ofNat = bytes := by simp [Function.comp_def]
      simp only [readArray_separated numbers, Except.map, same]
    rw [writeValue_binary]
    exact readFieldValue_parts rfl content depth

/-! ## Fields -/

theorem readField_writeField (fields : Fields) (field : UInt32 × FieldValue) (rest : Bytes) :
    readField fields (decimal field.1.toNat ++ 0x22 :: 0x3A :: (writeValue field.2 ++ rest)) =
      .ok (fields.insert field.1 field.2, rest) := by
  have stops : EndsNumber (0x22 :: 0x3A :: (writeValue field.2 ++ rest)) :=
    ⟨0x22, _, rfl, by decide⟩
  have number := readNatural_decimal field.1.toNat_lt (by decide) stops
  obtain ⟨b, digits, same, digit, -⟩ := decimal_eq_cons field.1.toNat
  rw [same, List.cons_append] at number ⊢
  have id : readFieldId (b :: (digits ++ 0x22 :: 0x3A :: (writeValue field.2 ++ rest))) =
      .ok (field.1, 0x3A :: (writeValue field.2 ++ rest)) := by
    unfold readFieldId
    simp only [List.head?_cons, Option.any_some, digit, Bool.true_or, if_true, number,
      UInt32.ofNat_toNat]
  unfold readField
  simp only [bind, Except.bind, id, readColon_cons, readFieldValue_writeValue]
  rfl

theorem readMembers_tail (entries : List (UInt32 × FieldValue)) {rounds : Bytes}
    (enough : entries.length < rounds.length) (fields : Fields) (rest : Bytes) :
    readMembers readField rounds false fields
        ((entries.map writeField).flatMap (fun item => 0x2C :: item) ++ 0x7D :: rest) =
      .ok (entries.foldl (fun fields entry => fields.insert entry.1 entry.2) fields,
        0x7D :: rest) := by
  induction entries generalizing rounds fields with
  | nil =>
    obtain ⟨round, rounds, rfl⟩ := List.exists_cons_of_length_pos enough
    rfl
  | cons entry entries ih =>
    obtain ⟨round, rounds, rfl⟩ := List.exists_cons_of_length_pos (Nat.zero_lt_of_lt enough)
    have one := readField_writeField fields entry
      ((entries.map writeField).flatMap (fun item => 0x2C :: item) ++ 0x7D :: rest)
    rw [List.map_cons, List.flatMap_cons, writeField]
    simp only [List.append_assoc, List.cons_append, List.nil_append]
    rw [readMembers_cons rfl one, ih (Nat.lt_of_succ_lt_succ enough), List.foldl_cons]

theorem readMembers_separated (entries : List (UInt32 × FieldValue)) {rounds : Bytes}
    (enough : entries.length < rounds.length) (rest : Bytes) :
    readMembers readField rounds true .empty (separated (entries.map writeField) ++ 0x7D :: rest) =
      .ok (Fields.ofList entries, 0x7D :: rest) := by
  obtain ⟨round, rounds, rfl⟩ := List.exists_cons_of_length_pos (Nat.zero_lt_of_lt enough)
  cases entries with
  | nil => rfl
  | cons entry entries =>
    have one := readField_writeField .empty entry
      ((entries.map writeField).flatMap (fun item => 0x2C :: item) ++ 0x7D :: rest)
    rw [List.map_cons, separated, writeField]
    simp only [List.append_assoc, List.cons_append, List.nil_append]
    rw [readMembers_cons rfl one, readMembers_tail entries (Nat.lt_of_succ_lt_succ enough)]
    rfl

theorem readFields_separated (fields : Fields) (rest : Bytes) :
    readFields (0x7B :: (separated (fields.toList.map writeField) ++ 0x7D :: rest)) =
      .ok (fields, rest) := by
  have nonempty : ∀ item ∈ fields.toList.map writeField, item ≠ [] := by
    intro item mem
    obtain ⟨field, -, rfl⟩ := List.mem_map.1 mem
    exact List.cons_ne_nil _ _
  have size := length_le_separated nonempty
  have enough : fields.toList.length <
      ((0x7B :: (separated (fields.toList.map writeField) ++ 0x7D :: rest) : Bytes)).length := by
    rw [List.length_map] at size
    rw [List.length_cons, List.length_append]
    omega
  unfold readFields
  rw [skipBlanks_cons rfl]
  simp only [if_true]
  unfold readObjectTail
  simp only [bind, Except.bind, readMembers_separated _ enough, Fields.ofList_toList]
  rfl

/-! ## Messages -/

theorem readHalf_mti (mti : String) (rest : Bytes) :
    readHalf {} (quotedTail "mti" (0x3A :: (writeString mti ++ rest))) =
      .ok ({ mti := some mti }, rest) := by
  unfold readHalf
  simp only [bind, Except.bind, readString_quotedTail, readColon_cons, readText_writeString, if_true]
  rfl

theorem readHalf_fields {fields : Fields} {s rest : Bytes} (read : readFields s = .ok (fields, rest))
    (mti : String) :
    readHalf { mti := some mti } (quotedTail "fields" (0x3A :: s)) =
      .ok ({ mti := some mti, fields := some fields }, rest) := by
  unfold readHalf
  simp only [bind, Except.bind, readString_quotedTail, readColon_cons, read,
    if_neg (by decide : ¬"fields" = "mti"), if_true]
  rfl

theorem writeMessage_eq (msg : Message) :
    writeMessage msg = 0x7B :: 0x22 :: quotedTail "mti" (0x3A :: (writeString msg.mti ++
      0x2C :: 0x22 :: quotedTail "fields" (0x3A ::
        0x7B :: (separated (msg.fields.toList.map writeField) ++ [0x7D, 0x7D])))) := by
  simp only [writeMessage, List.append_assoc]
  rfl

theorem readDocument_writeMessage (msg : Message) :
    readDocument readMessage (writeMessage msg) = .ok msg := by
  obtain ⟨mti, fields⟩ := msg
  have fieldsRead := readFields_separated fields [0x7D]
  have members (rounds : Bytes) : readMembers readHalf (0x7B :: 0x22 :: 0x6D :: rounds) true {}
      (0x22 :: quotedTail "mti" (0x3A :: (writeString mti ++ 0x2C :: 0x22 :: quotedTail "fields"
        (0x3A :: 0x7B :: (separated (fields.toList.map writeField) ++ [0x7D, 0x7D]))))) =
        .ok ({ mti := some mti, fields := some fields }, [0x7D]) := by
    rw [readMembers_cons rfl (readHalf_mti mti _), readMembers_cons rfl (readHalf_fields fieldsRead mti),
      readMembers_end]
  have start (rest : Bytes) : quotedTail "mti" rest = 0x6D :: 0x74 :: 0x69 :: 0x22 :: rest := rfl
  have read : readMessage (writeMessage ⟨mti, fields⟩) = .ok (⟨mti, fields⟩, []) := by
    rw [writeMessage_eq]
    unfold readMessage
    rw [skipBlanks_cons rfl]
    simp only [if_true]
    rw [if_neg (by decide)]
    unfold readObjectTail
    simp only [bind, Except.bind]
    rw [start] at members ⊢
    rw [members]
    rfl
  unfold readDocument
  rw [read]
  rfl

end Iso8583.Json

namespace Iso8583.Codec

theorem json_decode_writeMessage (msg : Message) :
    Codec.json.decode (Json.writeMessage msg) = .ok msg := by
  unfold json
  dsimp only
  rw [Json.readDocument_writeMessage]
  rfl

/-- Whatever a message holds, it can be written, and what was written is read as that message. -/
theorem json_decode_encode (msg : Message) :
    ∃ payload, Codec.json.encode msg = .ok payload ∧ Codec.json.decode payload = .ok msg := by
  refine ⟨Json.writeMessage msg, rfl, ?_⟩
  exact json_decode_writeMessage msg

end Iso8583.Codec
