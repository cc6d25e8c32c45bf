import Iso8583.Client.Handshake
import Iso8583.Proofs.Server.Echo

/-!
# Writing what was read puts it in order

A payload may list its fields in any order, and a number more than once. Written anew, the message lists
each field once, in ascending order, and takes no more bytes. Nothing else can change: a payload whose
numbers ascend already is written as it was read. So nothing that was read is refused when it is written:
a client stores it, and a server frames its reply.
-/

namespace Iso8583

/-! ## The fields as they stand in a payload -/

namespace Binary

/-- The numbers of the next `count` fields. Nine bytes stand before each value, and the last four of them
tell its length. -/
def listedFrom : (count : Nat) → Bytes → List UInt32
  | 0, _ => []
  | count + 1, bytes =>
    let length := Bytes.ofBigEndian ((bytes.drop 5).take 4)
    UInt32.ofNat (Bytes.ofBigEndian (bytes.take 4)) :: listedFrom count (bytes.drop (9 + length))

/-- The numbers of the fields of a payload, in the order in which they stand there. -/
def listedIds (payload : Bytes) : List UInt32 :=
  let fields := payload.drop (1 + Bytes.ofBigEndian (payload.take 1))
  listedFrom (Bytes.ofBigEndian (fields.take 2)) (fields.drop 2)

theorem listedFrom_encodeField {field : UInt32 × FieldValue} (fits : Fits field.2) (count : Nat)
    (rest : Bytes) :
    listedFrom (count + 1) (encodeField field ++ rest) = field.1 :: listedFrom count rest := by
  have idFits : field.1.toNat < 256 ^ 4 := field.1.toNat_lt
  have lengthFits : (content field.2).length < 256 ^ 4 := fits
  have whole : encodeField field ++ rest = Bytes.bigEndian 4 field.1.toNat ++ (kind field.2 ::
      (Bytes.bigEndian 4 (content field.2).length ++ (content field.2 ++ rest))) := by
    simp [encodeField]
  have id : (encodeField field ++ rest).take 4 = Bytes.bigEndian 4 field.1.toNat := by
    rw [whole]
    exact List.take_left' (Bytes.length_bigEndian ..)
  have behindKind : (encodeField field ++ rest).drop 5 =
      Bytes.bigEndian 4 (content field.2).length ++ (content field.2 ++ rest) := by
    rw [whole, ← List.singleton_append, ← List.append_assoc]
    exact List.drop_left' (by simp [Bytes.length_bigEndian])
  have length : ((encodeField field ++ rest).drop 5).take 4 =
      Bytes.bigEndian 4 (content field.2).length := by
    rw [behindKind]
    exact List.take_left' (Bytes.length_bigEndian ..)
  have next : (encodeField field ++ rest).drop (9 + (content field.2).length) = rest :=
    List.drop_left' (length_encodeField field)
  rw [listedFrom]
  simp only [id, length, Bytes.ofBigEndian_bigEndian, Nat.mod_eq_of_lt idFits,
    Nat.mod_eq_of_lt lengthFits, next, UInt32.ofNat_toNat]

theorem listedFrom_flatMap {entries : List (UInt32 × FieldValue)}
    (fits : ∀ entry ∈ entries, Fits entry.2) :
    listedFrom entries.length (entries.flatMap encodeField) = entries.map (·.1) := by
  induction entries with
  | nil => rfl
  | cons entry entries ih =>
    rw [List.length_cons, List.flatMap_cons, listedFrom_encodeField (fits entry List.mem_cons_self),
      ih fun entry mem => fits entry (List.mem_cons_of_mem _ mem)]
    rfl

theorem listedIds_layout {mti : String} {entries : List (UInt32 × FieldValue)}
    (short : (Bytes.ofText mti).length < 256) (few : entries.length < 65536)
    (fits : ∀ entry ∈ entries, Fits entry.2) :
    listedIds (layout mti entries) = entries.map (·.1) := by
  have whole : layout mti entries = Bytes.bigEndian 1 (Bytes.ofText mti).length ++ (Bytes.ofText mti ++
      (Bytes.bigEndian 2 entries.length ++ entries.flatMap encodeField)) := by
    simp [layout]
  have mtiLength : Bytes.ofBigEndian ((layout mti entries).take 1) = (Bytes.ofText mti).length := by
    rw [whole, List.take_left' (Bytes.length_bigEndian ..), Bytes.ofBigEndian_bigEndian]
    exact Nat.mod_eq_of_lt short
  have fields : (layout mti entries).drop (1 + (Bytes.ofText mti).length) =
      Bytes.bigEndian 2 entries.length ++ entries.flatMap encodeField := by
    rw [whole, ← List.append_assoc]
    exact List.drop_left' (by simp [Bytes.length_bigEndian])
  have count : Bytes.ofBigEndian (Bytes.bigEndian 2 entries.length) = entries.length := by
    rw [Bytes.ofBigEndian_bigEndian]
    exact Nat.mod_eq_of_lt few
  unfold listedIds
  simp only [mtiLength, fields, List.take_left' (Bytes.length_bigEndian 2 entries.length),
    List.drop_left' (Bytes.length_bigEndian 2 entries.length), count]
  exact listedFrom_flatMap fits

end Binary

/-! ## Fields in ascending order -/

namespace Fields

theorem ascending_toList (fields : Fields) : (fields.toList.map (·.1)).Pairwise (· < ·) := by
  unfold toList
  rw [List.pairwise_map, List.pairwise_reverse]
  exact fields.descending

theorem toList_ofList_of_ascending {entries : List (UInt32 × FieldValue)}
    (ascending : (entries.map (·.1)).Pairwise (· < ·)) : (ofList entries).toList = entries := by
  have descending : Descending entries.reverse := by
    unfold Descending
    rw [List.pairwise_reverse]
    exact List.pairwise_map.1 ascending
  have listed : toList ⟨entries.reverse, descending⟩ = entries := List.reverse_reverse entries
  have set := ofList_toList ⟨entries.reverse, descending⟩
  rw [listed] at set
  rw [set, listed]

end Fields

/-! ## What was read, written anew -/

theorem Binary.encode_eq_iff_ascending {payload bytes : Bytes} {msg : Message}
    (read : decode payload = .ok msg) (written : encode msg = .ok bytes) :
    bytes = payload ↔ (listedIds payload).Pairwise (· < ·) := by
  obtain ⟨entries, whole, short, few, fits, set⟩ := eq_layout_of_decode read
  have listed : listedIds payload = entries.map (·.1) := by
    rw [whole]
    exact listedIds_layout short few fits
  rw [encode_eq] at written
  split at written
  · cases written
  split at written
  · cases written
  rename_i fewer
  cases written
  constructor
  · intro same
    have again : listedIds (layout msg.mti msg.fields.toList) = msg.fields.toList.map (·.1) := by
      refine listedIds_layout short ?_ (fits_of_decode read)
      simpa [Fields.size, Fields.toList] using fewer
    rw [← same, again]
    exact msg.fields.ascending_toList
  · intro ascending
    rw [listed] at ascending
    rw [set, Fields.toList_ofList_of_ascending ascending, whole]

/-- A message that was read is written in no more bytes than it was read from, and read back as it was.
It is written in the same bytes exactly if the numbers of the fields ascend in them. So a client that
receives a message with a key stores it, and a server that receives a request has a frame for its
reply. -/
theorem decoded_payload_normalises {payload : Bytes} {msg : Message}
    (read : Binary.decode payload = .ok msg) :
    ∃ bytes, Binary.encode msg = .ok bytes ∧ bytes.length ≤ payload.length ∧
      Binary.decode bytes = .ok msg ∧
      (bytes = payload ↔ (Binary.listedIds payload).Pairwise (· < ·)) ∧
      (∀ (ι : Type) (client : Client ι) (key : String), client.codec = .binary →
        client.config.keyFields.keyFor msg = .ok key →
        client.record msg = Client.count { client with store := (client.store.put key bytes).2 } fun m =>
          { m with repliesReceived := m.repliesReceived + 1 }) ∧
      (payload.length ≤ maxPayload → msg.isRequest = true → ∀ outbox : Outbox, outbox.isOpen = true →
        ∃ frame, Server.writeAnswer .binary outbox msg .respond = (outbox.push frame, .ok ())) := by
  obtain ⟨bytes, written, room⟩ := Binary.exists_encode_of_decode read rfl (Nat.le_refl _)
  refine ⟨bytes, written, room, Binary.decode_encode_of_fits (Binary.fits_of_decode read) written,
    Binary.encode_eq_iff_ascending read written, ?_, ?_⟩
  · intro ι client key codec keyed
    have encoded : client.codec.encode msg = .ok bytes := by
      rw [codec]
      exact written
    unfold Client.record
    rw [keyed, encoded]
  · intro short request outbox opened
    obtain ⟨frame, -, answered⟩ :=
      Server.writeAnswer_of_isRequest (of_decide_eq_true opened) ⟨payload, short, read⟩ request
    exact ⟨frame, answered⟩

/-- Field 41 is listed before field 11, and a second time behind it. -/
theorem decoded_payload_normalises_with_repetition :
    ∃ payload msg bytes, Binary.decode payload = .ok msg ∧ Binary.listedIds payload = [41, 11, 41] ∧
      Binary.encode msg = .ok bytes ∧ bytes.length ≤ payload.length ∧ Binary.decode bytes = .ok msg ∧
      bytes ≠ payload := by
  let payload : Bytes := [4, 48, 50, 48, 48, 0, 3, 0, 0, 0, 41, 0, 0, 0, 0, 2, 65, 66,
    0, 0, 0, 11, 1, 0, 0, 0, 1, 255, 0, 0, 0, 41, 0, 0, 0, 0, 1, 67]
  let msg : Message := ⟨"0200", (Fields.empty.insert 11 (.binary [255])).insert 41 (.text "C")⟩
  have read : Binary.decode payload = .ok msg := by decide
  have listed : Binary.listedIds payload = [41, 11, 41] := by decide
  obtain ⟨bytes, written, room, again, same, -⟩ := decoded_payload_normalises read
  refine ⟨payload, msg, bytes, read, listed, written, room, again, fun unchanged => ?_⟩
  have ascending := same.1 unchanged
  rw [listed] at ascending
  exact absurd ascending (by decide)

end Iso8583
