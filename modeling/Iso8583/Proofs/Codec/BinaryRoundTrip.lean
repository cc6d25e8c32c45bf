import Iso8583.Codec.Binary
import Iso8583.Proofs.Codec.Words

/-!
# The binary layout reads back what it writes

A value's length is written in four bytes. A message whose values are short enough for that is read
back as it was; every message that was itself read from a payload is.
-/

namespace Iso8583.Binary

/-! ## Cutting off what was written -/

theorem take_append {n : Nat} {front : Bytes} (length : front.length = n) (rest : Bytes) :
    take n (front ++ rest) = .ok (front, rest) := by
  unfold take
  rw [List.splitAt_eq, ← length, List.take_left, List.drop_left]
  exact if_neg (Nat.lt_irrefl _)

theorem takeWord_append (width n : Nat) (rest : Bytes) :
    takeWord width (Bytes.bigEndian width n ++ rest) = .ok (n % 256 ^ width, rest) := by
  unfold takeWord
  rw [take_append (Bytes.length_bigEndian width n), ← Bytes.ofBigEndian_bigEndian]
  rfl

theorem decodeValue_content (id : UInt32) (value : FieldValue) :
    decodeValue id (kind value) (content value) = .ok value := by
  unfold decodeValue
  cases value with
  | text text => simp [kind, content, Bytes.toText?_ofText]
  | binary bytes => simp [kind, content]

/-! ## Fields -/

/-- A value whose length can be written. -/
def Fits (value : FieldValue) : Prop := (content value).length < 2 ^ 32

theorem decodeField_encodeField {field : UInt32 × FieldValue} (fits : Fits field.2) (rest : Bytes) :
    decodeField (encodeField field ++ rest) = .ok (field, rest) := by
  have id := takeWord_append 4 field.1.toNat
  have kindByte := takeWord_append 1 (kind field.2).toNat
  have length := takeWord_append 4 (content field.2).length
  have idFits : field.1.toNat < 256 ^ 4 := field.1.toNat_lt
  have kindFits : (kind field.2).toNat < 256 ^ 1 := (kind field.2).toNat_lt
  have lengthFits : (content field.2).length < 256 ^ 4 := fits
  rw [Nat.mod_eq_of_lt idFits] at id
  rw [Nat.mod_eq_of_lt kindFits] at kindByte
  rw [Nat.mod_eq_of_lt lengthFits] at length
  have single : Bytes.bigEndian 1 (kind field.2).toNat = [kind field.2] := by
    simp [Bytes.bigEndian]
  rw [single] at kindByte
  have whole : encodeField field ++ rest = Bytes.bigEndian 4 field.1.toNat ++ ([kind field.2] ++
      (Bytes.bigEndian 4 (content field.2).length ++ (content field.2 ++ rest))) := by
    simp [encodeField]
  rw [whole]
  unfold decodeField
  simp only [bind, Except.bind, id, kindByte, length, take_append rfl]
  rw [UInt32.ofNat_toNat, UInt8.ofNat_toNat, decodeValue_content]
  rfl

theorem decodeFields_flatMap {entries : List (UInt32 × FieldValue)}
    (fits : ∀ entry ∈ entries, Fits entry.2) (fields : Fields) (rest : Bytes) :
    decodeFields entries.length fields (entries.flatMap encodeField ++ rest) =
      .ok (entries.foldl (fun fields entry => fields.insert entry.1 entry.2) fields, rest) := by
  induction entries generalizing fields with
  | nil => rfl
  | cons entry entries ih =>
    have first := decodeField_encodeField (fits entry (by simp)) (entries.flatMap encodeField ++ rest)
    rw [List.flatMap_cons, List.append_assoc, List.length_cons]
    unfold decodeFields
    rw [first]
    exact ih (fun entry mem => fits entry (by simp [mem])) _

/-! ## Messages -/

theorem decode_encode_of_fits {msg : Message} {bytes : Bytes}
    (fits : ∀ entry ∈ msg.fields.toList, Fits entry.2) (h : encode msg = .ok bytes) :
    decode bytes = .ok msg := by
  unfold encode at h
  simp only at h
  split at h
  · cases h
  split at h
  · cases h
  rename_i mtiShort fewFields
  obtain ⟨mti, fields⟩ := msg
  simp only at mtiShort fewFields
  cases h
  have mtiLength := takeWord_append 1 (Bytes.ofText mti).length
  have count := takeWord_append 2 fields.size
  rw [Nat.mod_eq_of_lt (by omega)] at mtiLength count
  have size : fields.size = fields.toList.length := by
    unfold Fields.size Fields.toList
    rw [List.length_reverse]
  have entries := decodeFields_flatMap fits .empty []
  rw [List.append_nil] at entries
  have all : fields.toList.foldl (fun fields entry => fields.insert entry.1 entry.2) .empty = fields :=
    fields.ofList_toList
  rw [all] at entries
  simp only [List.append_assoc]
  unfold decode
  simp only [bind, Except.bind, mtiLength, take_append rfl, Bytes.toText?_ofText, count]
  rw [size, entries]
  rfl

/-! ## Messages that were read -/

theorem length_of_take {n : Nat} {bytes front rest : Bytes} (h : take n bytes = .ok (front, rest)) :
    front.length + rest.length = bytes.length := by
  unfold take at h
  rw [List.splitAt_eq] at h
  simp only at h
  split at h
  · cases h
  · cases h
    rw [← List.length_append, List.take_append_drop]

theorem length_of_takeWord {width n : Nat} {bytes rest : Bytes}
    (h : takeWord width bytes = .ok (n, rest)) : rest.length ≤ bytes.length := by
  unfold takeWord at h
  cases cut : take width bytes with
  | error error => rw [cut] at h; cases h
  | ok parts =>
    rw [cut] at h
    cases h
    have := length_of_take cut
    omega

theorem content_of_decodeValue {id : UInt32} {kind : UInt8} {raw : Bytes} {value : FieldValue}
    (h : decodeValue id kind raw = .ok value) : content value = raw := by
  unfold decodeValue at h
  split at h
  · split at h
    · rename_i text found
      cases h
      exact Bytes.ofText_of_toText? found
    · cases h
  · split at h
    · cases h
      rfl
    · cases h

theorem length_of_decodeField {bytes rest : Bytes} {field : UInt32 × FieldValue}
    (h : decodeField bytes = .ok (field, rest)) :
    (content field.2).length + rest.length ≤ bytes.length := by
  unfold decodeField at h
  simp only [bind, Except.bind] at h
  split at h
  · cases h
  rename_i idPart idRead
  split at h
  · cases h
  rename_i kindPart kindRead
  split at h
  · cases h
  rename_i lengthPart lengthRead
  split at h
  · cases h
  rename_i raw rawRead
  split at h
  · cases h
  rename_i value valueRead
  cases h
  have idLength := length_of_takeWord idRead
  have kindLength := length_of_takeWord kindRead
  have lengthLength := length_of_takeWord lengthRead
  have rawLength := length_of_take rawRead
  have same := content_of_decodeValue valueRead
  simp only [same]
  omega

theorem length_of_decodeFields (limit : Nat) {count : Nat} {start fields : Fields}
    {bytes rest : Bytes} (before : ∀ entry ∈ start.entries, (content entry.2).length ≤ limit)
    (short : bytes.length ≤ limit)
    (h : decodeFields count start bytes = .ok (fields, rest)) :
    ∀ entry ∈ fields.entries, (content entry.2).length ≤ limit := by
  induction count generalizing start bytes with
  | zero => cases h; exact before
  | succ count ih =>
    unfold decodeFields at h
    split at h
    · cases h
    rename_i id value rest' read
    have bound := length_of_decodeField read
    simp only at bound
    refine ih ?_ (by omega) h
    intro entry mem
    have mem : entry ∈ Fields.insertEntry id value start.entries := mem
    rcases Fields.mem_insertEntry mem with rfl | mem
    · simp only; omega
    · exact before entry mem

theorem length_of_decode {payload : Bytes} {msg : Message} (h : decode payload = .ok msg) :
    ∀ entry ∈ msg.fields.entries, (content entry.2).length ≤ payload.length := by
  unfold decode at h
  simp only [bind, Except.bind] at h
  split at h
  · cases h
  rename_i mtiLength mtiLengthRead
  split at h
  · cases h
  rename_i mtiPart mtiRead
  split at h
  · split at h
    · cases h
    rename_i count countRead
    split at h
    · cases h
    rename_i fieldsPart fieldsRead
    have first := length_of_takeWord mtiLengthRead
    have second := length_of_take mtiRead
    have third := length_of_takeWord countRead
    have bounds := length_of_decodeFields payload.length (by simp [Fields.empty]) (by omega)
      fieldsRead
    split at h
    · cases h
      exact bounds
    · cases h
  · cases h

theorem decode_encode_of_decode {payload bytes : Bytes} {msg : Message}
    (short : payload.length < 2 ^ 32) (read : decode payload = .ok msg) (h : encode msg = .ok bytes) :
    decode bytes = .ok msg := by
  refine decode_encode_of_fits (fun entry mem => ?_) h
  have bound := length_of_decode read entry (List.mem_reverse.1 mem)
  unfold Fits
  omega

end Iso8583.Binary
