import Iso8583.Codec.Digest
import Iso8583.Proofs.Checksum
import Iso8583.Proofs.Codec.BinaryLayout

/-!
# Digests are those of the bytes

A byte is fed to the checksum bit by bit or by one look into a table, with the same outcome. So the length
and the checksum that are found without writing a message are those of the bytes written.
-/

namespace Iso8583

/-! ## The table -/

namespace Checksum

theorem feedByTable_eq_feed : feedByTable = feed := by
  funext remainder byte
  rw [feed_eq_shiftByte, xor_toUInt32, shiftByte_xor, shiftByte_of_high]
  unfold feedByTable
  simp only [table, Array.getElem_ofFn, feed_eq_shiftByte, UInt8.ofNat_toNat, UInt32.zero_xor]

theorem feedText_eq_foldl (text : String) (place : Nat) (remainder : UInt32) :
    feedText text place remainder = ((Bytes.ofText text).drop place).foldl feed remainder := by
  fun_induction feedText text place remainder with
  | case1 place remainder inside ih =>
    have long : place < (Bytes.ofText text).length := by
      rw [Bytes.length_ofText]
      exact inside
    rw [ih, feedByTable_eq_feed, List.drop_eq_getElem_cons long, List.foldl_cons]
    rfl
  | case2 place remainder outside =>
    rw [List.drop_eq_nil_of_le]
    · rfl
    · rw [Bytes.length_ofText]
      exact Nat.not_lt.1 outside

end Checksum

/-! ## Payloads -/

namespace Binary

theorem contentLength_eq (value : FieldValue) : contentLength value = (content value).length := by
  cases value with
  | text text => exact (Bytes.length_ofText text).symm
  | binary bytes => rfl

theorem feedContent_eq (remainder : UInt32) (value : FieldValue) :
    feedContent remainder value = (content value).foldl Checksum.feed remainder := by
  cases value with
  | text text => exact Checksum.feedText_eq_foldl text 0 remainder
  | binary bytes =>
    unfold feedContent
    rw [Checksum.feedByTable_eq_feed]
    rfl

theorem foldl_digestField (entries : List (UInt32 × FieldValue)) (length : Nat) (remainder : UInt32) :
    entries.foldl digestField (length, remainder) =
      (length + (entries.flatMap encodeField).length,
        (entries.flatMap encodeField).foldl Checksum.feed remainder) := by
  induction entries generalizing length remainder with
  | nil => rfl
  | cons entry entries ih =>
    have now : digestField (length, remainder) entry =
        (length + (encodeField entry).length, (encodeField entry).foldl Checksum.feed remainder) := by
      unfold digestField encodeField
      simp only [contentLength_eq, feedContent_eq, Checksum.feedByTable_eq_feed, List.length_append,
        List.length_cons, List.foldl_append, List.foldl_cons, Prod.mk.injEq, and_true]
      omega
    rw [List.foldl_cons, now, ih, List.flatMap_cons, List.length_append, List.foldl_append,
      Nat.add_assoc]

/-- What is found without writing a message is the length and the checksum of the bytes written, or the
error with which it is refused. -/
theorem digest_eq (msg : Message) :
    digest msg = (encode msg).map fun bytes => (bytes.length, crc32c bytes) := by
  rw [encode_eq]
  unfold digest
  rw [Bytes.length_ofText]
  split
  · rfl
  · split
    · rfl
    · have size : msg.fields.size = msg.fields.toList.length := by
        simp [Fields.size, Fields.toList]
      simp only [foldl_digestField, Checksum.feedByTable_eq_feed]
      unfold layout crc32c
      simp only [Except.map, List.length_append, List.foldl_append, Bytes.length_ofText, size]

end Binary

end Iso8583
