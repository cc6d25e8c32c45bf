import Iso8583.Proofs.Client.InFlight
import Iso8583.Proofs.Client.Ledger
import Iso8583.Proofs.Codec.Received

/-!
# Every reply is exact and is taken once

A call gets a message that was recorded under the key of its own request, and nothing else was recorded
or taken under that key in between. So no message that was recorded goes to two calls, nor to a call
and a handshake.
-/

namespace Iso8583

variable {ι : Type} [DecidableEq ι]

/-! ## Reading the journal -/

/-- The key under which an entry records a message or takes a reply, after the entries before it. -/
def Entry.key? (fields : KeyFields) (before : List (Entry ι)) : Entry ι → Option String
  | .recorded msg => (fields.keyFor msg).toOption
  | .ended id (.replied _) => (requestOf before id).bind fun request => (fields.keyFor request).toOption
  | .acknowledged _ key => some key
  | _ => none

/-- The key under which a message is recorded or a reply taken at a place of the journal. -/
def keyAt (fields : KeyFields) (entries : List (Entry ι)) (n : Nat) : Option String :=
  entries[n]?.bind (Entry.key? fields (entries.take n))

/-- Whether an entry takes a reply: a call returns it, or a handshake uses it up. -/
def Entry.IsClaim {ι : Type} : Entry ι → Prop
  | .ended _ (.replied _) => True
  | .acknowledged _ _ => True
  | _ => False

/-- Whether what is taken at `n` is the message recorded at `i`: the last one before `n` that was
recorded under the key. -/
def Takes (fields : KeyFields) (entries : List (Entry ι)) (i n : Nat) : Prop :=
  ∃ msg claim key, entries[i]? = some (.recorded msg) ∧ entries[n]? = some claim ∧ claim.IsClaim ∧ i < n ∧
    keyAt fields entries i = some key ∧ keyAt fields entries n = some key ∧
    ∀ j other, i < j → j < n → entries[j]? = some (.recorded other) → keyAt fields entries j ≠ some key

section

variable {fields : KeyFields} {codec : Codec} {entries : List (Entry ι)} {entry : Entry ι}

theorem keyAt_concat_of_lt {n : Nat} (inside : n < entries.length) :
    keyAt fields (entries ++ [entry]) n = keyAt fields entries n := by
  unfold keyAt
  rw [List.getElem?_append_left inside, List.take_append_of_le_length (Nat.le_of_lt inside)]

theorem keyAt_concat_length :
    keyAt fields (entries ++ [entry]) entries.length = entry.key? fields entries := by
  unfold keyAt
  rw [List.getElem?_concat_length, List.take_left]
  rfl

theorem requestOf_concat (id : ι) :
    requestOf (entries ++ [entry]) id =
      match entry with
      | .asked caller request => if caller = id then some request else requestOf entries id
      | _ => requestOf entries id := by
  unfold requestOf
  rw [List.reverse_concat, List.findSome?_cons]
  cases entry with
  | asked caller request =>
    dsimp only
    split <;> simp_all
  | _ => rfl

/-! ## The invariant -/

/-- Whether what a call waits for is the reply to a request. -/
def Call.Serves (fields : KeyFields) (request : Option Message) : Call → Prop
  | .awaitingReply key _ _ => ∃ msg, request = some msg ∧ fields.keyFor msg = .ok key
  | .awaitingActive _ _ (some msg) => request = some msg
  | .awaitingActive _ _ none => True

/-- Whether a message under a key was recorded at `i`, and the key was not used from then to `n`. -/
structure Rests (fields : KeyFields) (entries : List (Entry ι)) (key : String) (msg : Message) (i n : Nat) :
    Prop where
  recorded : entries[i]? = some (.recorded msg)
  keyed : fields.keyFor msg = .ok key
  before : i < n
  untouched : ∀ j, i < j → j < n → keyAt fields entries j ≠ some key

/-- Whether the codec reads what it wrote for a message that was received. -/
def Codec.Faithful (codec : Codec) : Prop :=
  ∀ msg bytes, codec.Receives msg → codec.encode msg = .ok bytes → codec.decode bytes = .ok msg

/-- Whether each call waits for the reply to its own request. -/
def Desk.Serving (fields : KeyFields) (entries : List (Entry ι)) (desk : Desk ι) : Prop :=
  ∀ id call, desk.call? id = some call → call.Serves fields (requestOf entries id)

theorem Desk.Serving.drop {desk : Desk ι} (serving : desk.Serving fields entries) (id : ι) :
    (desk.drop id).Serving fields entries := by
  intro other call standing
  rw [Desk.call?_drop] at standing
  split at standing
  · cases standing
  · exact serving other call standing

theorem Desk.Serving.place {desk : Desk ι} (serving : desk.Serving fields entries) {id : ι} {call : Call}
    (serves : call.Serves fields (requestOf entries id)) : (desk.place id call).Serving fields entries := by
  intro other found standing
  rw [Desk.call?_place] at standing
  split at standing
  · rename_i same
    cases standing
    rw [same]
    exact serves
  · exact serving other found standing

/-- Each call waits for the reply to its own request, each reply held was recorded and not taken since,
and so was each reply when it was taken. -/
structure Correlated (fields : KeyFields) (codec : Codec) (entries : List (Entry ι)) (desk : Desk ι) :
    Prop where
  serving : desk.Serving fields entries
  held : ∀ key bytes, (key, bytes) ∈ desk.store.replies →
    ∃ i msg, Rests fields entries key msg i entries.length ∧ codec.Receives msg ∧
      codec.encode msg = .ok bytes
  taken : ∀ n claim, entries[n]? = some claim → claim.IsClaim →
    ∃ key i msg, keyAt fields entries n = some key ∧ Rests fields entries key msg i n ∧
      ∀ id reply, claim = .ended id (.replied reply) → reply = msg

theorem Rests.concat_of_le {key : String} {msg : Message} {i n : Nat}
    (rests : Rests fields entries key msg i n) (inside : n ≤ entries.length) (entry : Entry ι) :
    Rests fields (entries ++ [entry]) key msg i n := by
  obtain ⟨recorded, keyed, before, untouched⟩ := rests
  refine ⟨?_, keyed, before, fun j after below => ?_⟩
  · rw [List.getElem?_append_left (by omega)]
    exact recorded
  · rw [keyAt_concat_of_lt (by omega)]
    exact untouched j after below

theorem Rests.concat {key : String} {msg : Message} {i : Nat}
    (rests : Rests fields entries key msg i entries.length)
    (other : entry.key? fields entries ≠ some key) :
    Rests fields (entries ++ [entry]) key msg i (entries ++ [entry]).length := by
  obtain ⟨recorded, keyed, before, untouched⟩ := rests.concat_of_le (Nat.le_refl _) entry
  rw [List.length_append, List.length_singleton]
  refine ⟨recorded, keyed, by omega, fun j after below => ?_⟩
  by_cases last : j = entries.length
  · rw [last, keyAt_concat_length]
    exact other
  · exact untouched j after (by omega)

theorem Rests.of_recorded {key : String} {msg : Message} (keyed : fields.keyFor msg = .ok key) :
    Rests fields (entries ++ [Entry.recorded msg]) key msg entries.length
      (entries ++ [Entry.recorded msg]).length := by
  rw [List.length_append, List.length_singleton]
  exact ⟨List.getElem?_concat_length .., keyed, by omega, fun j after below => by omega⟩

namespace Correlated

variable {desk last : Desk ι}

theorem change (correlated : Correlated fields codec entries desk)
    (replies : ∀ reply ∈ last.store.replies, reply ∈ desk.store.replies)
    (serving : last.Serving fields entries) : Correlated fields codec entries last :=
  ⟨serving, fun key bytes mem => correlated.held key bytes (replies _ mem), correlated.taken⟩

/-- One more entry. What it takes must have been held, and what is held under its key must be the
message that it records. -/
theorem snoc (correlated : Correlated fields codec entries desk) (faithful : codec.Faithful)
    (serving : last.Serving fields (entries ++ [entry]))
    (held : ∀ key bytes, (key, bytes) ∈ last.store.replies →
      (key, bytes) ∈ desk.store.replies ∧ entry.key? fields entries ≠ some key ∨
        ∃ msg, entry = .recorded msg ∧ fields.keyFor msg = .ok key ∧ codec.Receives msg ∧
          codec.encode msg = .ok bytes)
    (claimed : entry.IsClaim → ∃ key bytes, entry.key? fields entries = some key ∧
      (key, bytes) ∈ desk.store.replies ∧
      ∀ id reply, entry = .ended id (.replied reply) → codec.decode bytes = .ok reply) :
    Correlated fields codec (entries ++ [entry]) last := by
  refine ⟨serving, fun key bytes mem => ?_, fun n claim found claims => ?_⟩
  · obtain ⟨before, other⟩ | ⟨msg, rfl, keyed, received, written⟩ := held key bytes mem
    · obtain ⟨i, msg, rests, source⟩ := correlated.held key bytes before
      exact ⟨i, msg, rests.concat other, source⟩
    · exact ⟨entries.length, msg, .of_recorded keyed, received, written⟩
  · by_cases inside : n < entries.length
    · rw [List.getElem?_append_left inside] at found
      obtain ⟨key, i, msg, keyed, rests, same⟩ := correlated.taken n claim found claims
      refine ⟨key, i, msg, ?_, rests.concat_of_le (Nat.le_of_lt inside) entry, same⟩
      rw [keyAt_concat_of_lt inside]
      exact keyed
    · obtain rfl : n = entries.length := by
        have bound := (List.getElem?_eq_some_iff.1 found).1
        rw [List.length_append, List.length_singleton] at bound
        omega
      rw [List.getElem?_concat_length] at found
      cases found
      obtain ⟨key, bytes, keyed, stored, reads⟩ := claimed claims
      obtain ⟨i, msg, rests, received, written⟩ := correlated.held key bytes stored
      refine ⟨key, i, msg, ?_, rests.concat_of_le (Nat.le_refl _) entry, fun id reply same => ?_⟩
      · rw [keyAt_concat_length]
        exact keyed
      · have read := (reads id reply same).symm.trans (faithful msg bytes received written)
        exact Except.ok.inj read

end Correlated

/-- Whether an entry starts no call, records nothing and takes nothing. -/
def Entry.IsQuiet {ι : Type} : Entry ι → Prop
  | .asked _ _ => False
  | .recorded _ => False
  | .ended _ (.replied _) => False
  | .acknowledged _ _ => False
  | _ => True

theorem serving_concat {desk : Desk ι} (serving : desk.Serving fields entries)
    (unasked : ∀ id request, entry ≠ .asked id request) : desk.Serving fields (entries ++ [entry]) := by
  intro id call standing
  rw [requestOf_concat]
  cases entry with
  | asked caller request => exact absurd rfl (unasked caller request)
  | _ => exact serving id call standing

namespace Correlated

variable {desk last : Desk ι}

theorem quiet (correlated : Correlated fields codec entries desk) (faithful : codec.Faithful)
    (entry : Entry ι) (quiet : entry.IsQuiet) : Correlated fields codec (entries ++ [entry]) desk := by
  have unkeyed : entry.key? fields entries = none := by
    unfold Entry.IsQuiet at quiet
    unfold Entry.key?
    split <;> simp_all
  refine correlated.snoc faithful ?_ (fun key bytes mem => .inl ⟨mem, by simp [unkeyed]⟩) ?_
  · refine serving_concat correlated.serving ?_
    rintro id request rfl
    exact quiet
  · intro claims
    unfold Entry.IsQuiet at quiet
    unfold Entry.IsClaim at claims
    split at quiet <;> simp_all

theorem take (correlated : Correlated fields codec entries desk) (faithful : codec.Faithful) {id : ι}
    {request : Message} {key : String} {bytes : Bytes} (asked : requestOf entries id = some request)
    (keyed : fields.keyFor request = .ok key) (found : desk.store.get? key = some bytes)
    (replies : last.store.replies = (desk.store.erase key).replies)
    (serving : last.Serving fields entries) :
    Correlated fields codec (entries ++ [.ended id (replyOf codec bytes)]) last := by
  have under {reply : Message} (read : replyOf codec bytes = .replied reply) :
      Entry.key? fields entries (.ended id (replyOf codec bytes)) = some key ∧
        codec.decode bytes = .ok reply := by
    rw [read]
    refine ⟨?_, ?_⟩
    · change ((requestOf entries id).bind fun request => (fields.keyFor request).toOption) = some key
      rw [asked, Option.bind_some, keyed]
      rfl
    · unfold replyOf at read
      split at read
      · cases read
        assumption
      · cases read
  refine correlated.snoc faithful (serving_concat serving (by simp)) ?_ ?_
  · intro other stored mem
    rw [replies] at mem
    obtain ⟨before, different⟩ := PendingReplies.mem_erase.1 mem
    refine .inl ⟨before, ?_⟩
    cases read : replyOf codec bytes with
    | replied reply =>
      rw [← read, (under read).1]
      exact fun same => different (Option.some.inj same).symm
    | activated => simp [Entry.key?]
    | failed error => simp [Entry.key?]
  · intro claims
    cases read : replyOf codec bytes with
    | replied reply =>
      refine ⟨key, bytes, read ▸ (under read).1, PendingReplies.mem_of_get? found, ?_⟩
      rintro id reply ⟨⟩
      exact (under read).2
    | activated =>
      rw [read] at claims
      exact claims.elim
    | failed error =>
      rw [read] at claims
      exact claims.elim

theorem fail (correlated : Correlated fields codec entries desk) (faithful : codec.Faithful) {id : ι}
    {result : CallResult} (without : ∀ reply, result ≠ .replied reply)
    (replies : ∀ reply ∈ last.store.replies, reply ∈ desk.store.replies)
    (serving : last.Serving fields entries) :
    Correlated fields codec (entries ++ [.ended id result]) last := by
  have quiet : (Entry.ended id result).IsQuiet := by
    cases result with
    | replied reply => exact absurd rfl (without reply)
    | activated => trivial
    | failed error => trivial
  exact (correlated.quiet faithful _ quiet).change replies (serving_concat serving (by simp))

theorem record (correlated : Correlated fields codec entries desk) (faithful : codec.Faithful)
    {msg : Message} {key : String} {bytes : Bytes} (received : codec.Receives msg)
    (keyed : fields.keyFor msg = .ok key) (written : codec.encode msg = .ok bytes) :
    Correlated fields codec (entries ++ [.recorded msg])
      (desk.withStore (desk.store.put key bytes).2) := by
  refine correlated.snoc faithful (serving_concat correlated.serving (by simp)) ?_ False.elim
  intro other stored mem
  obtain same | ⟨different, before⟩ := PendingReplies.mem_put mem
  · cases same
    exact .inr ⟨msg, rfl, keyed, received, written⟩
  · refine .inl ⟨before, ?_⟩
    change (fields.keyFor msg).toOption ≠ some other
    rw [keyed]
    intro same
    exact different (Option.some.inj same).symm

theorem ask (correlated : Correlated fields codec entries desk) (faithful : codec.Faithful) (id : ι)
    (request : Message) (timeout : Duration) (poll : Poll) :
    Correlated fields codec (entries ++ [.asked id request])
      (desk.place id (.awaitingActive timeout poll (some request))) := by
  refine correlated.snoc faithful ?_ ?_ False.elim
  · intro other call standing
    rw [Desk.call?_place] at standing
    rw [requestOf_concat]
    dsimp only
    split at standing
    · rename_i same
      cases standing
      rw [if_pos same.symm]
      rfl
    · rename_i different
      rw [if_neg (Ne.symm different)]
      exact correlated.serving other call standing
  · intro key bytes mem
    exact .inl ⟨mem, by simp [Entry.key?]⟩

theorem acknowledge (correlated : Correlated fields codec entries desk) (faithful : codec.Faithful)
    {conn : Nat} {key : String} {bytes : Bytes} (found : desk.store.get? key = some bytes)
    (replies : last.store.replies = (desk.store.erase key).replies) (calls : last.calls = desk.calls) :
    Correlated fields codec (entries ++ [.acknowledged conn key]) last := by
  have serving : last.Serving fields entries := by
    intro id call standing
    unfold Desk.call? at standing
    rw [calls] at standing
    exact correlated.serving id call standing
  refine correlated.snoc faithful (serving_concat serving (by simp)) ?_ ?_
  · intro other stored mem
    rw [replies] at mem
    obtain ⟨before, different⟩ := PendingReplies.mem_erase.1 mem
    refine .inl ⟨before, ?_⟩
    intro same
    exact different (Option.some.inj same).symm
  · intro _
    exact ⟨key, bytes, rfl, PendingReplies.mem_of_get? found, by simp⟩

end Correlated

theorem Act.correlated {desk last : Desk ι} {later : List (Entry ι)}
    (act : Act fields codec desk later last) (faithful : codec.Faithful)
    (correlated : Correlated fields codec entries desk) :
    Correlated fields codec (entries ++ later) last := by
  have serving := correlated.serving
  cases act with
  | record received keyed written => exact correlated.record faithful received keyed written
  | ask timeout poll free =>
    rename_i id next
    cases next with
    | none =>
      rw [show askedBy id none = [] from rfl, List.append_nil]
      exact correlated.change (fun _ mem => mem) (serving.place trivial)
    | some msg => exact correlated.ask faithful id msg timeout poll
  | rest standing =>
    rename_i next
    rw [List.append_nil]
    refine correlated.change (fun _ mem => mem) (serving.place ?_)
    have serves := serving _ _ standing
    cases next with
    | none => trivial
    | some msg => exact serves
  | settle standing early =>
    refine correlated.fail faithful ?_ (fun _ mem => mem) (serving.drop _)
    rintro reply rfl
    exact early
  | leave standing =>
    rename_i id timeout poll next
    have dropped := correlated.quiet faithful (.dropped id) trivial
    exact dropped.change (fun _ mem => mem) (dropped.serving.drop _)
  | claim standing keyed free found =>
    exact correlated.take faithful (serving _ _ standing) keyed found rfl (serving.drop _)
  | register standing keyed absent begun =>
    rename_i id timeout limit poll later request key store
    obtain ⟨-, rfl⟩ := PendingReplies.begin?_eq_some_iff.1 begun
    have began := correlated.quiet faithful (.began id key) trivial
    exact began.change (fun _ mem => mem) (began.serving.place ⟨_, began.serving _ _ standing, keyed⟩)
  | wait standing absent =>
    rename_i id key timeout limit poll later
    have checked := correlated.quiet faithful (.checked id) trivial
    have serves := checked.serving _ _ standing
    exact checked.change (fun _ mem => mem) (checked.serving.place serves)
  | take standing found =>
    rename_i id key timeout poll bytes
    have checked := correlated.quiet faithful (.checked id) trivial
    obtain ⟨request, asked, keyed⟩ := checked.serving _ _ standing
    rw [List.append_cons]
    exact checked.take faithful asked keyed found rfl (checked.serving.drop _)
  | expire standing absent reason =>
    rename_i id key timeout poll error
    have checked := correlated.quiet faithful (.checked id) trivial
    rw [List.append_cons]
    exact checked.fail faithful (by simp) (fun _ mem => mem) (checked.serving.drop _)
  | wake standing waited =>
    rename_i id key timeout poll
    have interrupted := correlated.quiet faithful (.interrupted id) trivial
    rw [List.append_cons]
    exact interrupted.fail faithful (by simp) (fun _ mem => mem) (interrupted.serving.drop _)
  | abandon standing =>
    rename_i id key timeout poll
    have dropped := correlated.quiet faithful (.dropped id) trivial
    exact dropped.change (fun _ mem => mem) (dropped.serving.drop _)
  | greet conn idle begun =>
    rw [List.append_nil]
    obtain ⟨-, rfl⟩ := PendingReplies.begin?_eq_some_iff.1 begun
    exact correlated.change (fun _ mem => mem) serving
  | acknowledge awaited found => exact correlated.acknowledge faithful found rfl rfl
  | part awaited =>
    rw [List.append_nil]
    exact correlated.change (fun _ mem => mem) serving

theorem Acts.correlated {desk last : Desk ι} (acts : Acts fields codec desk entries last)
    (faithful : codec.Faithful) (correlated : Correlated fields codec [] desk) :
    Correlated fields codec entries last := by
  induction acts with
  | nil => exact correlated
  | snoc acts act ih => exact act.correlated faithful ih

theorem Rests.keyAt_eq {key : String} {msg : Message} {i n : Nat}
    (rests : Rests fields entries key msg i n) : keyAt fields entries i = some key := by
  unfold keyAt
  rw [rests.recorded]
  change (fields.keyFor msg).toOption = some key
  rw [rests.keyed]
  rfl

theorem Rests.takes {key : String} {msg : Message} {i n : Nat} {claim : Entry ι}
    (rests : Rests fields entries key msg i n) (found : entries[n]? = some claim) (claims : claim.IsClaim)
    (keyed : keyAt fields entries n = some key) : Takes fields entries i n :=
  ⟨msg, claim, key, rests.recorded, found, claims, rests.before, rests.keyAt_eq, keyed,
    fun j _ after below _ => rests.untouched j after below⟩

/-- Between a message that was recorded and its taking nothing else takes a reply under the key. -/
theorem Correlated.not_lt_of_takes {desk : Desk ι} (correlated : Correlated fields codec entries desk)
    {i n m : Nat} (first : Takes fields entries i n) (second : Takes fields entries i m) : ¬ n < m := by
  intro earlier
  obtain ⟨-, -, key, -, -, -, after, keyed, under, -⟩ := first
  obtain ⟨msg, claim, other, recorded, found, claims, before, keyed', under', last⟩ := second
  obtain rfl : key = other := Option.some.inj (keyed.symm.trans keyed')
  obtain ⟨held, k, msg', under'', rests, -⟩ := correlated.taken m claim found claims
  obtain rfl : key = held := Option.some.inj (under'.symm.trans under'')
  -- The message recorded at `k` is the last one under the key, and so is the one at `i`.
  rcases Nat.lt_trichotomy i k with below | rfl | above
  · exact last k msg' below rests.before rests.recorded rests.keyAt_eq
  · exact rests.untouched n after earlier under
  · exact rests.untouched i above before keyed

theorem Client.correlated_new (config : ClientConfig) (codec : Codec) :
    Correlated config.keyFields codec [] (Client.new config codec : Client ι).desk := by
  refine ⟨?_, ?_, ?_⟩
  · intro id call standing
    simp [Client.desk, Client.new, Desk.call?, callIn] at standing
  · intro key bytes mem
    simp [Client.desk, Client.new, PendingReplies.ofLimit] at mem
  · intro n claim found
    simp at found

end

/-! ## Every run -/

/-- A call that gets a reply asked with a request of the same key, and the reply is a message that was
recorded before. Each message recorded is taken at most once, by a call or by a handshake, and no handshake
is completed without taking one. -/
theorem reply_correlated {config : ClientConfig} {codec : Codec} (known : codec = .binary ∨ codec = .json)
    {past : List (Moment ι)} {client : Client ι} (run : Client.Run (.new config codec) past client) :
    (∀ n id reply, (journal past)[n]? = some (.ended id (.replied reply)) →
      ∃ request key i, requestOf ((journal past).take n) id = some request ∧
        config.keyFields.keyFor request = .ok key ∧ config.keyFields.keyFor reply = .ok key ∧
        (journal past)[i]? = some (.recorded reply) ∧ Takes config.keyFields (journal past) i n) ∧
    (∀ n conn key, (journal past)[n]? = some (.acknowledged conn key) →
      ∃ i, Takes config.keyFields (journal past) i n) ∧
    (∀ moment ∈ past,
      moment.after.metrics.handshakesCompleted ≠ moment.before.metrics.handshakesCompleted →
      ∃ conn key, .acknowledged conn key ∈ moment.entries) ∧
    ∀ i n m, Takes config.keyFields (journal past) i n → Takes config.keyFields (journal past) i m →
      n = m := by
  have acts : Acts config.keyFields codec (Client.new config codec).desk (journal past) client.desk :=
    run.acts
  have correlated := acts.correlated (fun msg bytes => Codec.decode_of_receives known)
    (Client.correlated_new config codec)
  refine ⟨?_, ?_, ?_, ?_⟩
  · intro n id reply found
    obtain ⟨key, i, msg, keyed, rests, same⟩ := correlated.taken n _ found trivial
    obtain rfl := same id reply rfl
    have takes := rests.takes found trivial keyed
    unfold keyAt at keyed
    rw [found, Option.bind_some] at keyed
    obtain ⟨request, asked, under⟩ := Option.bind_eq_some_iff.1 keyed
    refine ⟨request, key, i, asked, ?_, rests.keyed, rests.recorded, takes⟩
    cases named : config.keyFields.keyFor request with
    | ok other =>
      rw [named] at under
      cases under
      rfl
    | error error =>
      rw [named] at under
      cases under
  · intro n conn key found
    obtain ⟨key, i, msg, keyed, rests, -⟩ := correlated.taken n _ found trivial
    exact ⟨i, rests.takes found trivial keyed⟩
  · intro moment mem completes
    obtain ⟨earlier, later, rfl⟩ := List.append_of_mem mem
    obtain ⟨reached, taken, -⟩ := run.of_append_cons
    obtain ⟨conn, key, acks⟩ := Client.acknowledged_of_completes reached.coherent taken completes
    exact ⟨conn, key, by simp [Moment.entries, acks]⟩
  · intro i n m first second
    have left := correlated.not_lt_of_takes first second
    have right := correlated.not_lt_of_takes second first
    omega

theorem reply_correlated_in_exchange : ∃ past client,
    Client.Run (.new (.localNetwork "peer") .binary) past (client : Client Nat) ∧
      (journal past)[6]? = some (.ended 7 (.replied (keyedMessage "0210" "a"))) ∧
      ∃ i, Takes .default (journal past) i 6 := by
  obtain ⟨past, client, run, shape⟩ := exists_run_of_replay (.new (.localNetwork "peer") .binary)
    (exchange ++ [(⟨6⟩, .callSlept 7 true)]) (fun past _ => journal past)
    (exchanged ++ [.checked 7, .ended 7 (.replied (keyedMessage "0210" "a"))]) (by decide +kernel)
  have found : (journal past)[6]? = some (.ended 7 (.replied (keyedMessage "0210" "a"))) := by
    rw [shape]
    rfl
  obtain ⟨request, key, i, -, -, -, -, takes⟩ := (reply_correlated (.inl rfl) run).1 6 7 _ found
  exact ⟨past, client, run, found, i, takes⟩

end Iso8583
