import Iso8583.Proofs.Client.Correlation
import Iso8583.Proofs.Keys.Stamp

/-!
# Composite keys

A key says what each key field holds as long as it is known where the part of each field ends. This is so
if at most one field can vary in length. The kind of a value does not show in its part.
-/

namespace Iso8583

def FieldValue.SameKind : FieldValue → FieldValue → Prop
  | .text _, .text _ => True
  | .binary _, .binary _ => True
  | _, _ => False

theorem FieldValue.eq_of_keyPart_eq {value other : FieldValue} (kinds : value.SameKind other)
    (parts : value.keyPart = other.keyPart) : value = other := by
  cases value with
  | text chars =>
    cases other with
    | text others => exact congrArg _ parts
    | binary others => exact kinds.elim
  | binary bytes =>
    cases other with
    | text others => exact kinds.elim
    | binary others => exact congrArg _ (Bytes.hex_injective parts)

theorem FieldValue.sameKind_self (value : FieldValue) : value.SameKind value := by
  cases value <;> trivial

namespace KeyFields

/-- Whether two messages are alike enough for their keys to be told apart: each key field holds values of
one kind in both, and all key fields but perhaps one add parts of one length. -/
structure Aligned (fields : KeyFields) (first second : Message) : Prop where
  kinds : ∀ id ∈ fields.ids, ∀ value other, first.get? id = some value → second.get? id = some other →
    value.SameKind other
  lengths : ∃ free, ∀ id ∈ fields.ids, id ≠ free → ∀ part other, first.getString? id = some part →
    second.getString? id = some other → part.length = other.length

variable {first second : Message} {ids : List UInt32} {id : UInt32} {key other : String}

theorem exists_part_of_keyOf (keyed : keyOf first ids = .ok key) (listed : id ∈ ids) :
    ∃ part, first.getString? id = some part := by
  induction ids generalizing key with
  | nil => cases listed
  | cons head ids ih =>
    obtain ⟨part, rest, held, later, -⟩ := keyOf_cons_eq_ok_iff.1 keyed
    obtain rfl | listed := List.mem_cons.1 listed
    · exact ⟨part, held⟩
    · exact ih later listed

/-- The lengths of two keys differ by as much as one field does, for each time that it is listed, if it is
the only one that differs in length. -/
theorem length_keyOf {free : UInt32} {part opposite : String}
    (lengths : ∀ id ∈ ids, id ≠ free → ∀ part other, first.getString? id = some part →
      second.getString? id = some other → part.length = other.length)
    (keyed : keyOf first ids = .ok key) (under : keyOf second ids = .ok other)
    (held : first.getString? free = some part) (faced : second.getString? free = some opposite) :
    key.length + ids.count free * opposite.length = other.length + ids.count free * part.length := by
  induction ids generalizing key other with
  | nil =>
    cases keyed
    cases under
    simp
  | cons head ids ih =>
    obtain ⟨left, more, heldHead, later, rfl⟩ := keyOf_cons_eq_ok_iff.1 keyed
    obtain ⟨right, others, facedHead, after, rfl⟩ := keyOf_cons_eq_ok_iff.1 under
    have rest := ih (fun id listed => lengths id (List.mem_cons_of_mem _ listed)) later after
    rw [String.length_append, String.length_append]
    by_cases same : head = free
    · subst same
      cases held.symm.trans heldHead
      cases faced.symm.trans facedHead
      rw [List.count_cons_self, Nat.succ_mul, Nat.succ_mul]
      omega
    · have level := lengths head List.mem_cons_self same left right heldHead facedHead
      rw [List.count_cons_of_ne same]
      omega

theorem getString?_eq_of_keyOf_eq
    (lengths : ∀ id ∈ ids, ∀ part other, first.getString? id = some part →
      second.getString? id = some other → part.length = other.length)
    (keyed : keyOf first ids = .ok key) (under : keyOf second ids = .ok key) (listed : id ∈ ids) :
    first.getString? id = second.getString? id := by
  induction ids generalizing key with
  | nil => cases listed
  | cons head ids ih =>
    obtain ⟨left, more, held, later, rfl⟩ := keyOf_cons_eq_ok_iff.1 keyed
    obtain ⟨right, others, faced, after, whole⟩ := keyOf_cons_eq_ok_iff.1 under
    have level := lengths head List.mem_cons_self left right held faced
    obtain ⟨rfl, rfl⟩ := append_inj_of_length whole level.symm
    obtain rfl | listed := List.mem_cons.1 listed
    · exact held.trans faced.symm
    · exact ih (fun id listed => lengths id (List.mem_cons_of_mem _ listed)) later after listed

theorem aligned_iff_of_keyFor_eq {fields : KeyFields} (keyed : fields.keyFor first = .ok key)
    (under : fields.keyFor second = .ok key) :
    fields.Aligned first second ↔ ∀ id ∈ fields.ids, first.get? id = second.get? id := by
  constructor
  · rintro ⟨kinds, free, lengths⟩ id listed
    -- The field that is free to differ has the same length too, since the keys have.
    have level : ∀ id ∈ fields.ids, ∀ part other, first.getString? id = some part →
        second.getString? id = some other → part.length = other.length := by
      intro id listed part other held faced
      by_cases same : id = free
      · subst same
        have total := length_keyOf lengths keyed under held faced
        have times : 0 < fields.ids.count id := List.count_pos_iff.2 listed
        exact (Nat.eq_of_mul_eq_mul_left times (Nat.add_left_cancel total)).symm
      · exact lengths id listed same part other held faced
    obtain ⟨part, held⟩ := exists_part_of_keyOf keyed listed
    have faced := (getString?_eq_of_keyOf_eq level keyed under listed).symm.trans held
    obtain ⟨value, found, rfl⟩ := Option.map_eq_some_iff.1 held
    obtain ⟨other, met, parts⟩ := Option.map_eq_some_iff.1 faced
    have same := FieldValue.eq_of_keyPart_eq (kinds id listed value other found met) parts.symm
    rw [found, met, same]
  · intro same
    refine ⟨fun id listed value other found met => ?_, 0, fun id listed _ part other held faced => ?_⟩
    · cases found.symm.trans ((same id listed).trans met)
      exact value.sameKind_self
    · unfold Message.getString? at held faced
      rw [same id listed] at held
      cases held.symm.trans faced
      rfl

end KeyFields

/-! ## Requests and replies -/

section

variable {ι : Type} [DecidableEq ι] {fields : KeyFields} {codec : Codec} {entries : List (Entry ι)}
  {desk : Desk ι}

theorem Correlated.keyed_of_reply (correlated : Correlated fields codec entries desk) {n : Nat} {id : ι}
    {reply : Message} (found : entries[n]? = some (.ended id (.replied reply))) :
    ∃ request key, requestOf (entries.take n) id = some request ∧ fields.keyFor request = .ok key ∧
      fields.keyFor reply = .ok key := by
  obtain ⟨key, i, msg, keyed, rests, same⟩ := correlated.taken n _ found trivial
  obtain rfl := same id reply rfl
  unfold keyAt at keyed
  rw [found, Option.bind_some] at keyed
  obtain ⟨request, asked, under⟩ := Option.bind_eq_some_iff.1 keyed
  refine ⟨request, key, asked, ?_, rests.keyed⟩
  cases named : fields.keyFor request <;> rw [named] at under <;> cases under
  rfl

end

/-- Messages that have the same key hold the same value in each key field exactly if they are alike in
the kinds of these values and, up to one field, in the lengths of their parts. The same goes for a request
and the reply that its call gets. -/
theorem composite_keys_agree {ι : Type} [DecidableEq ι] {config : ClientConfig} {codec : Codec}
    (known : codec = .binary ∨ codec = .json) {past : List (Moment ι)} {client : Client ι}
    (run : Client.Run (.new config codec) past client) :
    (∀ (fields : KeyFields) first second key, fields.keyFor first = .ok key →
      fields.keyFor second = .ok key →
      (fields.Aligned first second ↔ ∀ id ∈ fields.ids, first.get? id = second.get? id)) ∧
    ∀ n id reply, (journal past)[n]? = some (.ended id (.replied reply)) →
      ∃ request, requestOf ((journal past).take n) id = some request ∧
        (config.keyFields.Aligned request reply ↔
          ∀ field ∈ config.keyFields.ids, request.get? field = reply.get? field) := by
  refine ⟨fun fields first second key keyed under => KeyFields.aligned_iff_of_keyFor_eq keyed under, ?_⟩
  intro n id reply found
  have acts : Acts config.keyFields codec (Client.new config codec).desk (journal past) client.desk :=
    run.acts
  have correlated := acts.correlated (fun msg bytes => Codec.decode_of_receives known)
    (Client.correlated_new config codec)
  obtain ⟨request, key, asked, keyed, under⟩ := correlated.keyed_of_reply found
  exact ⟨request, asked, KeyFields.aligned_iff_of_keyFor_eq keyed under⟩

/-! ## Two fields -/

/-- A terminal and a trace number, say. -/
def twoFields : KeyFields := ⟨[41, 11], by simp⟩

/-- A message with two key fields and nothing else. -/
def twoKeyed (mti first second : String) : Message :=
  ((⟨mti, .empty⟩ : Message).set 41 (.text first)).set 11 (.text second)

theorem get?_twoKeyed {id : UInt32} (listed : id ∈ twoFields.ids) (mti first second : String) :
    (twoKeyed mti first second).get? id = some (.text (if id = 41 then first else second)) := by
  obtain rfl | rfl : id = 41 ∨ id = 11 := by simpa [twoFields] using listed
  · exact (Fields.get?_insert_of_ne (by decide) _ _).trans (Fields.get?_insert_self _ _ _)
  · exact Fields.get?_insert_self _ _ _

theorem aligned_twoKeyed {first other : String} (level : first.length = other.length)
    (mti others second more : String) :
    twoFields.Aligned (twoKeyed mti first second) (twoKeyed others other more) := by
  refine ⟨fun id listed value _ found met => ?_, 11, fun id listed different part opposite held faced => ?_⟩
  · rw [get?_twoKeyed listed] at found met
    cases found
    cases met
    trivial
  · obtain rfl : id = 41 := by simpa [twoFields, different] using listed
    unfold Message.getString? at held faced
    rw [get?_twoKeyed listed] at held faced
    cases held
    cases faced
    exact level

/-- A client with these key fields gets active and sends a request. Then a reply arrives, and the call
looks for its own. -/
def twoKeyedExchange (request reply : Message) : List (Duration × ClientEvent Nat) :=
  [(⟨0⟩, .attempt), (⟨1⟩, .connected fun _ => "h"), (⟨2⟩, arrives (twoKeyed "2810" "h" "h")),
    (⟨3⟩, .sessionSlept true), (⟨4⟩, .send 7 request (.ofSeconds 1)), (⟨5⟩, arrives reply),
    (⟨6⟩, .callSlept 7 true)]

def twoKeyedJournal (request reply : Message) (key : String) : List (Entry Nat) :=
  [.recorded (twoKeyed "2810" "h" "h"), .acknowledged 0 "hh", .asked 7 request, .began 7 key,
    .recorded reply, .checked 7, .ended 7 (.replied reply)]

def twoKeyedClient : Client Nat :=
  .new { ClientConfig.localNetwork "peer" with keyFields := twoFields } .binary

theorem composite_keys_agree_in_exchange : ∃ past client,
    Client.Run twoKeyedClient past client ∧
    (journal past)[6]? = some (.ended 7 (.replied (twoKeyed "0210" "A" "BC"))) ∧
    twoFields.Aligned (twoKeyed "0200" "A" "BC") (twoKeyed "0210" "A" "BC") ∧
    ∀ id ∈ twoFields.ids, (twoKeyed "0200" "A" "BC").get? id = (twoKeyed "0210" "A" "BC").get? id := by
  obtain ⟨past, client, run, shape⟩ := exists_run_of_replay twoKeyedClient
    (twoKeyedExchange (twoKeyed "0200" "A" "BC") (twoKeyed "0210" "A" "BC")) (fun past _ => journal past)
    (twoKeyedJournal (twoKeyed "0200" "A" "BC") (twoKeyed "0210" "A" "BC") "ABC") (by decide +kernel)
  have found : (journal past)[6]? = some (.ended 7 (.replied (twoKeyed "0210" "A" "BC"))) := by
    rw [shape]
    rfl
  have aligned : twoFields.Aligned (twoKeyed "0200" "A" "BC") (twoKeyed "0210" "A" "BC") :=
    aligned_twoKeyed rfl ..
  obtain ⟨request, asked, agree⟩ := (composite_keys_agree (.inl rfl) run).2 6 7 _ found
  rw [shape] at asked
  cases asked
  exact ⟨past, client, run, found, aligned, agree.1 aligned⟩

/-- The parts of different requests can meet in one key, and then a call gets the reply to another
request. So can a text and bytes. -/
theorem composite_keys_meet :
    (∃ past client, Client.Run twoKeyedClient past client ∧
      (journal past)[6]? = some (.ended 7 (.replied (twoKeyed "0210" "AB" "C"))) ∧
      requestOf ((journal past).take 6) 7 = some (twoKeyed "0200" "A" "BC") ∧
      (twoKeyed "0200" "A" "BC").get? 41 ≠ (twoKeyed "0210" "AB" "C").get? 41) ∧
    twoFields.keyFor (twoKeyed "0200" "A" "BC") = .ok "ABC" ∧
    twoFields.keyFor (twoKeyed "0210" "AB" "C") = .ok "ABC" ∧
    (FieldValue.binary [0xab, 0x01]).keyPart = (FieldValue.text "ab01").keyPart := by
  refine ⟨?_, by rfl, by rfl, by decide +kernel⟩
  obtain ⟨past, client, run, shape⟩ := exists_run_of_replay twoKeyedClient
    (twoKeyedExchange (twoKeyed "0200" "A" "BC") (twoKeyed "0210" "AB" "C")) (fun past _ => journal past)
    (twoKeyedJournal (twoKeyed "0200" "A" "BC") (twoKeyed "0210" "AB" "C") "ABC") (by decide +kernel)
  refine ⟨past, client, run, ?_, ?_, by decide +kernel⟩
  · rw [shape]
    rfl
  · rw [shape]
    rfl

end Iso8583
