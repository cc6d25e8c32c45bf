import Iso8583.KeyFields
import Iso8583.Proofs.Keys.Hex

/-!
# The key of a stamped message

A stamped message has the key that was put together from the identifiers drawn for it exactly if no key
field is listed twice. When one is, the last identifier stands in the field for all of its places.
-/

namespace Iso8583

/-! ## Reading fields that were set -/

namespace Fields

theorem get?_insert_self (fields : Fields) (id : UInt32) (value : FieldValue) :
    (fields.insert id value).get? id = some value := by
  suffices ∀ entries, ((insertEntry id value entries).find? (·.1 == id)).map (·.2) = some value from
    this fields.entries
  intro entries
  induction entries with
  | nil => simp [insertEntry]
  | cons first rest ih =>
    obtain ⟨k, v⟩ := first
    unfold insertEntry
    split
    · simp
    · split
      · simp
      · rename_i different
        rw [List.find?_cons_of_neg (by simpa using different)]
        exact ih

theorem get?_insert_of_ne {id other : UInt32} (different : other ≠ id) (fields : Fields)
    (value : FieldValue) : (fields.insert id value).get? other = fields.get? other := by
  suffices ∀ entries, (insertEntry id value entries).find? (·.1 == other) =
      entries.find? (·.1 == other) by
    unfold get? insert
    rw [this]
  have passed : ¬ (id == other) = true := by simpa using Ne.symm different
  intro entries
  induction entries with
  | nil => exact List.find?_cons_of_neg passed
  | cons first rest ih =>
    obtain ⟨k, v⟩ := first
    unfold insertEntry
    split
    · exact List.find?_cons_of_neg passed
    · split
      · rename_i same
        subst same
        rw [List.find?_cons_of_neg (by exact passed), List.find?_cons_of_neg (by exact passed)]
      · rw [List.find?_cons, List.find?_cons, ih]

end Fields

namespace KeyFields

variable {unique : Nat → String} {first : Nat} {msg : Message} {ids : List UInt32}

theorem keyOf_congr {first second : Message} (same : first.fields = second.fields)
    (ids : List UInt32) : keyOf first ids = keyOf second ids := by
  induction ids with
  | nil => rfl
  | cons id ids ih => simp only [keyOf, Message.getString?, Message.get?, same, ih]

theorem keyOf_cons_eq_ok_iff {id : UInt32} {key : String} :
    keyOf msg (id :: ids) = .ok key ↔
      ∃ part rest, msg.getString? id = some part ∧ keyOf msg ids = .ok rest ∧ part ++ rest = key := by
  rw [keyOf]
  cases msg.getString? id with
  | none => simp
  | some part => cases keyOf msg ids <;> simp [Except.map]

/-! ## The fields of a stamped message -/

theorem stampList_cons (unique : Nat → String) (first : Nat) (msg : Message) (id : UInt32)
    (ids : List UInt32) :
    stampList unique first msg (id :: ids) =
      (unique first ++ (stampList unique (first + 1) (msg.set id (.text (unique first))) ids).1,
        (stampList unique (first + 1) (msg.set id (.text (unique first))) ids).2) := rfl

theorem mti_stampList (unique : Nat → String) (first : Nat) (msg : Message) (ids : List UInt32) :
    (stampList unique first msg ids).2.mti = msg.mti := by
  induction ids generalizing first msg with
  | nil => rfl
  | cons id ids ih => exact ih (first + 1) (msg.set id (.text (unique first)))

theorem get?_stampList_of_notMem {id : UInt32} (absent : id ∉ ids) :
    (stampList unique first msg ids).2.get? id = msg.get? id := by
  induction ids generalizing first msg with
  | nil => rfl
  | cons other ids ih =>
    rw [stampList_cons, ih (List.not_mem_of_not_mem_cons absent)]
    exact Fields.get?_insert_of_ne (List.ne_of_not_mem_cons absent) msg.fields _

theorem getString?_stampList_head {id : UInt32} (once : id ∉ ids) :
    (stampList unique first msg (id :: ids)).2.getString? id = some (unique first) := by
  rw [stampList_cons, Message.getString?, get?_stampList_of_notMem once, Message.get?, Message.set,
    Fields.get?_insert_self]
  rfl

theorem getString?_stampList_of_mem {id : UInt32} (listed : id ∈ ids) :
    ∃ n, first ≤ n ∧ n < first + ids.length ∧
      (stampList unique first msg ids).2.getString? id = some (unique n) := by
  induction ids generalizing first msg with
  | nil => cases listed
  | cons other ids ih =>
    rw [List.length_cons]
    by_cases later : id ∈ ids
    · rw [stampList_cons]
      obtain ⟨n, above, below, holds⟩ := ih later
      exact ⟨n, Nat.le_of_succ_le above, by omega, holds⟩
    · obtain rfl := (List.mem_cons.1 listed).resolve_right later
      exact ⟨first, by omega, by omega, getString?_stampList_head later⟩

/-! ## The key -/

theorem keyOf_stampList_of_nodup (nodup : ids.Nodup) :
    keyOf (stampList unique first msg ids).2 ids = .ok (stampList unique first msg ids).1 := by
  induction ids generalizing first msg with
  | nil => rfl
  | cons id ids ih =>
    obtain ⟨once, nodup⟩ := List.nodup_cons.1 nodup
    exact keyOf_cons_eq_ok_iff.2 ⟨_, _, getString?_stampList_head once, ih nodup, rfl⟩

/-- Whether `count` identifiers from number `first` on are all different, and as long as identifiers
are. -/
structure Draws (unique : Nat → String) (first count : Nat) : Prop where
  length : ∀ n, first ≤ n → n < first + count → (unique n).length = 36
  distinct : ∀ m n, first ≤ m → m < n → n < first + count → unique m ≠ unique n

theorem Draws.tail {count : Nat} (drawn : Draws unique first (count + 1)) :
    Draws unique (first + 1) count :=
  ⟨fun n above below => drawn.length n (by omega) (by omega),
    fun m n above before below => drawn.distinct m n (by omega) before (by omega)⟩

theorem append_inj_of_length {first second rest other : String} (same : first ++ rest = second ++ other)
    (lengths : first.length = second.length) : first = second ∧ rest = other := by
  have chars := congrArg String.toList same
  rw [String.toList_append, String.toList_append] at chars
  rw [← String.length_toList, ← String.length_toList] at lengths
  obtain ⟨head, tail⟩ := List.append_inj chars lengths
  exact ⟨String.toList_inj.1 head, String.toList_inj.1 tail⟩

/-- Only a list without repetitions gives the key of the message: since all identifiers have the same
length, the keys agree identifier by identifier. -/
theorem nodup_of_keyOf_stampList (drawn : Draws unique first ids.length)
    (keyed : keyOf (stampList unique first msg ids).2 ids = .ok (stampList unique first msg ids).1) :
    ids.Nodup := by
  induction ids generalizing first msg with
  | nil => exact .nil
  | cons id ids ih =>
    obtain ⟨part, rest, held, later, whole⟩ := keyOf_cons_eq_ok_iff.1 keyed
    have listed : id ∈ id :: ids := List.mem_cons_self
    obtain ⟨n, above, below, holds⟩ := getString?_stampList_of_mem listed
    obtain rfl := Option.some.inj (held.symm.trans holds)
    rw [List.length_cons] at drawn below
    have lengths : (unique n).length = (unique first).length := by
      rw [drawn.length n above below, drawn.length first (by omega) (by omega)]
    obtain ⟨same, rfl⟩ := append_inj_of_length whole lengths
    -- A field that is listed again holds a later identifier, which differs from the first.
    have once : id ∉ ids := by
      intro again
      rw [stampList_cons] at held
      obtain ⟨m, after, inside, last⟩ := getString?_stampList_of_mem again
      have last : unique n = unique m := Option.some.inj (held.symm.trans last)
      exact drawn.distinct first m (Nat.le_refl _) after (by omega) (same.symm.trans last)
    exact List.nodup_cons.2 ⟨once, ih drawn.tail later⟩

/-- Whatever identifiers are drawn, a stamped message, and any message with the same fields, has the key that
was returned if no key field is listed twice, and the other fields stay as they were. If the identifiers
differ it has that key only then. -/
theorem keyFor_stamp_iff_nodup (fields : KeyFields) (unique : Nat → String) (first : Nat) (msg : Message) :
    (∀ reply : Message, reply.fields = (fields.stamp unique first msg).2.fields → fields.ids.Nodup →
      fields.keyFor reply = .ok (fields.stamp unique first msg).1) ∧
    (∀ id, id ∉ fields.ids → (fields.stamp unique first msg).2.get? id = msg.get? id) ∧
    (Draws unique first fields.ids.length → ∀ reply : Message,
      reply.fields = (fields.stamp unique first msg).2.fields →
      (fields.keyFor reply = .ok (fields.stamp unique first msg).1 ↔ fields.ids.Nodup)) := by
  have keyed {reply : Message} (same : reply.fields = (fields.stamp unique first msg).2.fields) :
      fields.keyFor reply = keyOf (stampList unique first msg fields.ids).2 fields.ids :=
    keyOf_congr same fields.ids
  refine ⟨?_, fun id absent => get?_stampList_of_notMem absent, ?_⟩
  · intro reply same nodup
    rw [keyed same]
    exact keyOf_stampList_of_nodup nodup
  · intro drawn reply same
    rw [keyed same]
    exact ⟨nodup_of_keyOf_stampList drawn, keyOf_stampList_of_nodup⟩

theorem draws_uuidText {count : Nat} (bound : first + count ≤ 2 ^ 122) : Draws uuidText first count := by
  refine ⟨fun n _ _ => length_uuidText n, fun m n _ before below same => ?_⟩
  have bits := mod_eq_of_uuidText same
  rw [Nat.mod_eq_of_lt (by omega), Nat.mod_eq_of_lt (by omega)] at bits
  omega

theorem keyFor_stamp_iff_nodup_of_two : Draws uuidText 0 2 ∧
    keyFor ⟨[41, 11], by simp⟩ (stamp ⟨[41, 11], by simp⟩ uuidText 0 ⟨handshakeMti, .empty⟩).2 =
      .ok (uuidText 0 ++ uuidText 1) := by
  have drawn : Draws uuidText 0 2 := draws_uuidText (by decide)
  obtain ⟨-, -, law⟩ := keyFor_stamp_iff_nodup ⟨[41, 11], by simp⟩ uuidText 0 ⟨handshakeMti, .empty⟩
  exact ⟨drawn, (law drawn _ rfl).2 (by decide)⟩

/-- A field listed twice is accepted, and the stamped message does not have the key that was returned. -/
theorem keyFor_stamp_of_repeated_field : ∃ fields, parse "11,11" = .ok fields ∧
    Draws uuidText 0 fields.ids.length ∧
    fields.keyFor (fields.stamp uuidText 0 ⟨handshakeMti, .empty⟩).2 ≠
      .ok (fields.stamp uuidText 0 ⟨handshakeMti, .empty⟩).1 := by
  have drawn : Draws uuidText 0 2 := draws_uuidText (by decide)
  refine ⟨⟨[11, 11], by simp⟩, by rfl, drawn, fun keyed => ?_⟩
  have once : [(11 : UInt32), 11].Nodup := nodup_of_keyOf_stampList drawn keyed
  exact absurd once (by decide)

end KeyFields

end Iso8583
