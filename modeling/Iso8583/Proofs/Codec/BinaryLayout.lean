import Iso8583.Proofs.Codec.BinaryRoundTrip

/-!
# What a payload in the binary layout looks like

A payload that is read is a type indicator and a list of fields, each as it is written: the layout
leaves no choice about a single field. Only the order of the fields is free, and a number may be
repeated. Writing gives back what it was given exactly if the parts fit: two of the three limits are
checked, the one on the length of a value is not.
-/

namespace Iso8583.Binary

/-! ## Parts -/

theorem eq_append_of_take {n : Nat} {bytes front rest : Bytes} (h : take n bytes = .ok (front, rest)) :
    bytes = front ++ rest ∧ front.length = n := by
  unfold take at h
  rw [List.splitAt_eq] at h
  simp only at h
  split at h
  · cases h
  · rename_i long
    cases h
    refine ⟨(List.take_append_drop n bytes).symm, ?_⟩
    rw [List.length_take] at long ⊢
    omega

theorem eq_append_of_takeWord {width n : Nat} {bytes rest : Bytes}
    (h : takeWord width bytes = .ok (n, rest)) :
    bytes = Bytes.bigEndian width n ++ rest ∧ n < 256 ^ width := by
  unfold takeWord at h
  cases cut : take width bytes with
  | error error => rw [cut] at h; cases h
  | ok parts =>
    rw [cut] at h
    cases h
    obtain ⟨whole, length⟩ := eq_append_of_take cut
    rw [← length, Bytes.bigEndian_ofBigEndian]
    exact ⟨whole, Bytes.ofBigEndian_lt _⟩

theorem kind_of_decodeValue {id : UInt32} {byte : UInt8} {raw : Bytes} {value : FieldValue}
    (h : decodeValue id byte raw = .ok value) : kind value = byte := by
  unfold decodeValue at h
  split at h
  · rename_i isText
    split at h
    · cases h
      exact isText.symm
    · cases h
  · split at h
    · rename_i isBinary
      cases h
      exact isBinary.symm
    · cases h

theorem eq_append_of_decodeField {bytes rest : Bytes} {field : UInt32 × FieldValue}
    (h : decodeField bytes = .ok (field, rest)) :
    bytes = encodeField field ++ rest ∧ Fits field.2 := by
  unfold decodeField at h
  simp only [bind, Except.bind] at h
  split at h
  · cases h
  rename_i idPart idRead
  split at h
  · cases h
  rename_i kindPart kindRead
  split at h
  · cases h
  rename_i lengthPart lengthRead
  split at h
  · cases h
  rename_i rawPart rawRead
  split at h
  · cases h
  rename_i value valueRead
  cases h
  obtain ⟨idBytes, idFits⟩ := eq_append_of_takeWord idRead
  obtain ⟨kindBytes, kindFits⟩ := eq_append_of_takeWord kindRead
  obtain ⟨lengthBytes, lengthFits⟩ := eq_append_of_takeWord lengthRead
  obtain ⟨rawBytes, rawLength⟩ := eq_append_of_take rawRead
  have same := content_of_decodeValue valueRead
  have sameKind := kind_of_decodeValue valueRead
  have sameId : (UInt32.ofNat idPart.1).toNat = idPart.1 := by
    rw [UInt32.toNat_ofNat']
    exact Nat.mod_eq_of_lt idFits
  refine ⟨?_, ?_⟩
  · rw [idBytes, kindBytes, lengthBytes, rawBytes]
    simp [encodeField, same, sameKind, sameId, rawLength, Bytes.bigEndian]
  · unfold Fits
    rw [same, rawLength]
    exact lengthFits

/-! ## Whole payloads -/

theorem eq_flatMap_of_decodeFields {count : Nat} {start fields : Fields} {bytes rest : Bytes}
    (h : decodeFields count start bytes = .ok (fields, rest)) :
    ∃ entries : List (UInt32 × FieldValue), entries.length = count ∧
      bytes = entries.flatMap encodeField ++ rest ∧ (∀ entry ∈ entries, Fits entry.2) ∧
      fields = entries.foldl (fun fields entry => fields.insert entry.1 entry.2) start := by
  induction count generalizing start bytes with
  | zero =>
    cases h
    exact ⟨[], rfl, rfl, by simp, rfl⟩
  | succ count ih =>
    unfold decodeFields at h
    split at h
    · cases h
    rename_i id value rest' read
    obtain ⟨front, fits⟩ := eq_append_of_decodeField read
    obtain ⟨entries, length, behind, allFit, set⟩ := ih h
    refine ⟨(id, value) :: entries, by simp [length], ?_, ?_, set⟩
    · rw [front, behind, List.flatMap_cons, List.append_assoc]
    · intro entry mem
      rcases List.mem_cons.1 mem with rfl | mem
      · exact fits
      · exact allFit entry mem

/-- The bytes of a type indicator and a list of fields, each number as often as it is listed. -/
def layout (mti : String) (entries : List (UInt32 × FieldValue)) : Bytes :=
  Bytes.bigEndian 1 (Bytes.ofText mti).length ++ Bytes.ofText mti ++
    Bytes.bigEndian 2 entries.length ++ entries.flatMap encodeField

/-- A payload that is read is the layout of a type indicator and fields that fit. -/
theorem eq_layout_of_decode {payload : Bytes} {msg : Message} (h : decode payload = .ok msg) :
    ∃ entries : List (UInt32 × FieldValue), payload = layout msg.mti entries ∧
      (Bytes.ofText msg.mti).length < 256 ∧ entries.length < 65536 ∧
      (∀ entry ∈ entries, Fits entry.2) ∧ msg.fields = Fields.ofList entries := by
  unfold decode at h
  simp only [bind, Except.bind] at h
  split at h
  · cases h
  rename_i lengthPart lengthRead
  split at h
  · cases h
  rename_i mtiPart mtiRead
  split at h
  · rename_i mti mtiText
    split at h
    · cases h
    rename_i countPart countRead
    split at h
    · cases h
    rename_i fieldsPart fieldsRead
    split at h
    · rename_i nothingLeft
      cases h
      obtain ⟨lengthBytes, lengthFits⟩ := eq_append_of_takeWord lengthRead
      obtain ⟨mtiBytes, mtiLength⟩ := eq_append_of_take mtiRead
      obtain ⟨countBytes, countFits⟩ := eq_append_of_takeWord countRead
      obtain ⟨entries, entriesLength, entriesBytes, fits, set⟩ := eq_flatMap_of_decodeFields fieldsRead
      have text := Bytes.ofText_of_toText? mtiText
      have done : fieldsPart.2 = [] := List.isEmpty_iff.1 nothingLeft
      refine ⟨entries, ?_, ?_, ?_, fits, set⟩
      · rw [lengthBytes, mtiBytes, countBytes, entriesBytes, done]
        simp [layout, text, mtiLength, entriesLength]
      · rw [text, mtiLength]
        exact lengthFits
      · rw [entriesLength]
        exact countFits
    · cases h
  · cases h

theorem encode_eq (msg : Message) :
    encode msg =
      if 256 ≤ (Bytes.ofText msg.mti).length then .error (.mtiTooLong (Bytes.ofText msg.mti).length)
      else if 65536 ≤ msg.fields.size then .error (.tooManyFields msg.fields.size)
      else .ok (layout msg.mti msg.fields.toList) := by
  have size : msg.fields.size = msg.fields.toList.length := by
    simp [Fields.size, Fields.toList]
  unfold encode layout
  rw [← size]

theorem length_encodeField (field : UInt32 × FieldValue) :
    (encodeField field).length = 9 + (content field.2).length := by
  simp [encodeField, Bytes.length_bigEndian]
  omega

theorem length_layout (mti : String) (entries : List (UInt32 × FieldValue)) :
    (layout mti entries).length =
      3 + (Bytes.ofText mti).length + (entries.flatMap encodeField).length := by
  simp only [layout, List.length_append, Bytes.length_bigEndian]
  omega

theorem length_content_le_layout {entries : List (UInt32 × FieldValue)} {entry : UInt32 × FieldValue}
    (mem : entry ∈ entries) (mti : String) :
    (content entry.2).length ≤ (layout mti entries).length := by
  obtain ⟨before, behind, rfl⟩ := List.append_of_mem mem
  rw [length_layout, List.flatMap_append, List.flatMap_cons, List.length_append, List.length_append,
    length_encodeField]
  omega

theorem decode_encode_of_short {msg : Message} {bytes : Bytes} (written : encode msg = .ok bytes)
    (short : bytes.length < 2 ^ 32) : decode bytes = .ok msg := by
  refine decode_encode_of_fits (fun entry mem => ?_) written
  rw [encode_eq] at written
  split at written
  · cases written
  split at written
  · cases written
  cases written
  exact Nat.lt_of_le_of_lt (length_content_le_layout mem msg.mti) short

theorem fits_of_mem_ofList {entries : List (UInt32 × FieldValue)} (start : Fields)
    (before : ∀ entry ∈ start.entries, Fits entry.2) (fits : ∀ entry ∈ entries, Fits entry.2) :
    ∀ entry ∈ (entries.foldl (fun fields entry => fields.insert entry.1 entry.2) start).entries,
      Fits entry.2 := by
  induction entries generalizing start with
  | nil => exact before
  | cons first entries ih =>
    refine ih _ (fun entry mem => ?_) fun entry mem => fits entry (List.mem_cons_of_mem _ mem)
    rcases Fields.mem_insertEntry mem with rfl | mem
    · exact fits first List.mem_cons_self
    · exact before entry mem

theorem fits_of_decode {payload : Bytes} {msg : Message} (h : decode payload = .ok msg) :
    ∀ entry ∈ msg.fields.toList, Fits entry.2 := by
  obtain ⟨entries, -, -, -, fits, set⟩ := eq_layout_of_decode h
  intro entry mem
  have held : entry ∈ (Fields.ofList entries).entries := by
    rw [← set]
    exact List.mem_reverse.1 mem
  exact fits_of_mem_ofList .empty (by simp [Fields.empty]) fits entry held

/-! ## What can be represented -/

/-- A message is refused exactly if its type indicator is longer than 255 bytes or it has more than
65535 fields. A message that is written is read back as it was exactly if every value is shorter than
four gigabytes. -/
theorem decode_encode_iff (msg : Message) :
    ((∃ error, encode msg = .error error) ↔
        256 ≤ (Bytes.ofText msg.mti).length ∨ 65536 ≤ msg.fields.size) ∧
      ((∀ bytes, encode msg = .ok bytes → decode bytes = .ok msg) ↔
        (∃ error, encode msg = .error error) ∨ ∀ entry ∈ msg.fields.toList, Fits entry.2) := by
  have refused : (∃ error, encode msg = .error error) ↔
      256 ≤ (Bytes.ofText msg.mti).length ∨ 65536 ≤ msg.fields.size := by
    rw [encode_eq]
    split
    · rename_i long
      exact ⟨fun _ => .inl long, fun _ => ⟨_, rfl⟩⟩
    · split
      · rename_i many
        exact ⟨fun _ => .inr many, fun _ => ⟨_, rfl⟩⟩
      · rename_i short few
        exact ⟨fun h => by simp at h, fun h => absurd h (not_or.2 ⟨short, few⟩)⟩
  refine ⟨refused, fun readsBack => ?_, fun h bytes written => ?_⟩
  · cases written : encode msg with
    | error error => exact .inl ⟨error, rfl⟩
    | ok bytes => exact .inr (fits_of_decode (readsBack bytes written))
  · rcases h with ⟨error, refusal⟩ | fits
    · rw [refusal] at written
      cases written
    · exact decode_encode_of_fits fits written

/-! ## A value that is too long -/

theorem decode_layout {mti : String} {entries : List (UInt32 × FieldValue)}
    (short : (Bytes.ofText mti).length < 256) (few : entries.length < 65536) :
    decode (layout mti entries) =
      (decodeFields entries.length .empty (entries.flatMap encodeField)).bind fun (fields, rest) =>
        if rest.isEmpty then .ok ⟨mti, fields⟩ else .error (.trailingBytes rest.length) := by
  have mtiLength := takeWord_append 1 (Bytes.ofText mti).length
  have count := takeWord_append 2 entries.length
  rw [Nat.mod_eq_of_lt (by omega)] at mtiLength count
  unfold layout decode
  simp only [List.append_assoc, bind, Except.bind, mtiLength, take_append rfl, Bytes.toText?_ofText,
    count]
  rfl

/-- The length of a value of four gigabytes is written as zero. Nothing is read of it. -/
theorem decodeField_of_wrapped (id : UInt32) {value : FieldValue}
    (long : (content value).length = 2 ^ 32) (rest : Bytes) :
    ∃ nothing, decodeField (encodeField (id, value) ++ rest) =
      .ok ((id, nothing), content value ++ rest) := by
  have idWord := takeWord_append 4 id.toNat
  have kindByte := takeWord_append 1 (kind value).toNat
  have length := takeWord_append 4 (content value).length
  have idFits : id.toNat < 256 ^ 4 := id.toNat_lt
  have kindFits : (kind value).toNat < 256 ^ 1 := (kind value).toNat_lt
  have wrapped : (content value).length % 256 ^ 4 = 0 := by
    rw [long]
    rfl
  rw [Nat.mod_eq_of_lt idFits] at idWord
  rw [Nat.mod_eq_of_lt kindFits] at kindByte
  rw [wrapped] at length
  have single : Bytes.bigEndian 1 (kind value).toNat = [kind value] := by
    simp [Bytes.bigEndian]
  rw [single] at kindByte
  obtain ⟨nothing, empty⟩ : ∃ nothing, decodeValue id (kind value) [] = .ok nothing := by
    cases value with
    | text text => exact ⟨.text "", decodeValue_content id (.text "")⟩
    | binary bytes => exact ⟨.binary [], decodeValue_content id (.binary [])⟩
  have whole : encodeField (id, value) ++ rest = Bytes.bigEndian 4 id.toNat ++ ([kind value] ++
      (Bytes.bigEndian 4 (content value).length ++ ([] ++ (content value ++ rest)))) := by
    simp [encodeField]
  refine ⟨nothing, ?_⟩
  rw [whole]
  unfold decodeField
  simp only [bind, Except.bind, idWord, kindByte, length, take_append List.length_nil]
  rw [UInt32.ofNat_toNat, UInt8.ofNat_toNat, empty]
  rfl

theorem decode_encode_of_wrapped {mti : String} (short : (Bytes.ofText mti).length < 256) (id : UInt32)
    {value : FieldValue} (long : (content value).length = 2 ^ 32) :
    ∃ bytes, encode ⟨mti, Fields.empty.insert id value⟩ = .ok bytes ∧
      decode bytes = .error (.trailingBytes (2 ^ 32)) := by
  have list : (Fields.empty.insert id value).toList = [(id, value)] := rfl
  refine ⟨layout mti [(id, value)], ?_, ?_⟩
  · rw [encode_eq, list, if_neg (Nat.not_le.2 short)]
    exact if_neg (by simp [Fields.size, Fields.insert, Fields.insertEntry, Fields.empty])
  · obtain ⟨nothing, read⟩ := decodeField_of_wrapped id long []
    have flat : [(id, value)].flatMap encodeField = encodeField (id, value) ++ [] := rfl
    have left : (content value ++ ([] : Bytes)).isEmpty = false := by
      rw [List.append_nil, List.isEmpty_eq_false_iff, ← List.length_pos_iff, long]
      decide
    have fields : decodeFields [(id, value)].length .empty (encodeField (id, value) ++ []) =
        .ok (Fields.empty.insert id nothing, content value ++ []) := by
      rw [List.length_singleton]
      unfold decodeFields
      rw [read]
      rfl
    rw [decode_layout short (by simp), flat, fields]
    refine (if_neg (by rw [left]; simp)).trans ?_
    rw [List.append_nil, long]

theorem decode_encode_four_gigabytes :
    ∃ bytes,
      encode ⟨"0200",
          Fields.empty.insert 52 (.text (String.ofList (List.replicate (2 ^ 32) 'a')))⟩ = .ok bytes ∧
        decode bytes = .error (.trailingBytes (2 ^ 32)) := by
  refine decode_encode_of_wrapped (by decide) 52 ?_
  change (Bytes.ofText (String.ofList (List.replicate (2 ^ 32) 'a'))).length = 2 ^ 32
  rw [Bytes.ofText_ofList, List.length_flatMap, List.map_replicate, List.sum_replicate_nat]
  exact Nat.mul_one _

end Iso8583.Binary
