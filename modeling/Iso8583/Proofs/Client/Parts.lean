import Iso8583.Proofs.Channel.Pump
import Iso8583.Proofs.Client.Bookkeeping

/-!
# The parts of a step as acts

One lemma for each part of a step: a call that checks for its reply or sends its request, a handshake, and
what a pump hands on.
-/

namespace Iso8583

/-- The key field that a message lacks, the first one in the configured order. -/
def KeyFields.lacking? (fields : KeyFields) (msg : Message) : Option UInt32 :=
  fields.ids.find? fun id => (msg.get? id).isNone

theorem KeyFields.keyFor_eq_error_iff {fields : KeyFields} {msg : Message} {error : ClientError} :
    fields.keyFor msg = .error error ↔ ∃ id, fields.lacking? msg = some id ∧ error = .missingKeyField id := by
  unfold keyFor lacking?
  generalize fields.ids = ids
  induction ids with
  | nil => simp [keyOf]
  | cons id ids ih =>
    rw [keyOf, List.find?_cons]
    cases held : msg.get? id with
    | none => simp [Message.getString?, held, eq_comm]
    | some value =>
      simp only [Message.getString?, held, Option.map_some, Option.isNone_some]
      rw [← ih]
      cases keyOf msg ids <;> simp [Except.map]

variable {ι : Type} [DecidableEq ι]

namespace Client

variable {fields : KeyFields}

theorem awaitedIn_drop (desk : Desk ι) (id : ι) : awaitedIn (desk.drop id).calls id = none := by
  change ((desk.drop id).call? id).bind Call.key? = none
  rw [desk.call?_drop, if_pos rfl]
  rfl

theorem awaitedIn_place (desk : Desk ι) (id : ι) (call : Call) :
    awaitedIn (desk.place id call).calls id = call.key? := by
  change ((desk.place id call).call? id).bind Call.key? = call.key?
  rw [desk.call?_place, if_pos rfl]
  rfl

/-! ## Parts that change no call and no reply -/

omit [DecidableEq ι] in
theorem desk_closeChannel (client : Client ι) (conn : Nat) :
    (client.closeChannel conn).desk = client.desk := by
  unfold closeChannel
  split <;> rfl

omit [DecidableEq ι] in
theorem decodeReply_eq (client : Client ι) (bytes : Bytes) :
    (client.decodeReply bytes).1.desk = client.desk ∧
      (client.decodeReply bytes).2 = replyOf client.codec bytes := by
  unfold decodeReply replyOf
  cases client.codec.decode bytes with
  | ok msg => exact ⟨rfl, rfl⟩
  | error error => exact ⟨rfl, rfl⟩

theorem desk_sleepCall (client : Client ι) (id : ι) (call : Call) :
    (client.sleepCall id call).1.desk = client.desk.place id call := rfl

/-! ## Calls that await a reply -/

theorem checkReply_of_absent {client : Client ι} {key : String} {poll : Poll}
    (absent : client.store.get? key = none) (unclosed : client.closed = false)
    (more : poll.isExhausted = false) (id : ι) (timeout : Duration) :
    client.checkReply id key timeout poll =
      client.sleepCall id (.awaitingReply key timeout poll) := by
  unfold checkReply PendingReplies.remove Poll.afterCheck
  rw [absent, unclosed, more]
  rfl

theorem checkReply_cases (client : Client ι) (id : ι) (key : String) (timeout : Duration) (poll : Poll) :
    (∃ bytes, client.store.get? key = some bytes ∧
      (client.checkReply id key timeout poll).1.desk =
        (client.desk.withStore ((client.store.erase key).finish key)).drop id ∧
      (client.checkReply id key timeout poll).2 = [.finish id (replyOf client.codec bytes)]) ∨
    (∃ error, client.store.get? key = none ∧
      (error = .closed ∨ ∃ waited, error = .responseTimeout key waited) ∧
      (client.checkReply id key timeout poll).1.desk =
        (client.desk.withStore (client.store.finish key)).drop id ∧
      (client.checkReply id key timeout poll).2 = [.finish id (.failed error)]) ∨
    (client.store.get? key = none ∧
      client.checkReply id key timeout poll =
        client.sleepCall id (.awaitingReply key timeout poll)) := by
  cases found : client.store.get? key with
  | some bytes =>
    left
    obtain ⟨desk, result⟩ :=
      decodeReply_eq { client with store := (client.store.erase key).finish key } bytes
    unfold checkReply PendingReplies.remove
    rw [found]
    refine ⟨bytes, rfl, ?_, ?_⟩
    · exact congrArg (Desk.drop · id) desk
    · exact congrArg (fun result => [ClientEffect.finish id result]) result
  | none =>
    right
    cases closed : client.closed with
    | true =>
      unfold checkReply PendingReplies.remove
      rw [found, closed]
      exact .inl ⟨.closed, rfl, .inl rfl, rfl, rfl⟩
    | false =>
      cases exhausted : poll.isExhausted with
      | true =>
        unfold checkReply PendingReplies.remove Poll.afterCheck
        rw [found, closed, exhausted]
        exact .inl ⟨_, rfl, .inr ⟨timeout, rfl⟩, rfl, rfl⟩
      | false => exact .inr ⟨rfl, checkReply_of_absent found closed exhausted id timeout⟩

theorem acts_checkReply {client : Client ι} {id : ι} {key : String} {timeout : Duration} {poll : Poll}
    (held : client.desk.call? id = some (.awaitingReply key timeout poll)) (limit : Duration)
    (later : Poll) :
    Acts fields client.codec client.desk (.checked id :: endedOf (client.checkReply id key limit later).2)
      (client.checkReply id key limit later).1.desk := by
  obtain ⟨bytes, found, desk, effects⟩ | ⟨error, absent, reason, desk, effects⟩ | ⟨absent, sleeps⟩ :=
    client.checkReply_cases id key limit later
  · rw [desk, effects]
    exact Acts.one (.take held found)
  · rw [desk, effects]
    exact Acts.one (.expire held absent reason)
  · rw [sleeps]
    exact Acts.one (.wait held absent)

/-! ## Calls that send a request -/

/-- Whether what a step does with a call is made up of acts, from the desk on which the call stands. -/
def Follows (fields : KeyFields) (codec : Codec) (desk : Desk ι) (id : ι)
    (outcome : Client ι × List (ClientEffect ι)) : Prop :=
  Acts fields codec desk
    (((awaitedIn outcome.1.calls id).map (.began id)).toList ++ endedOf outcome.2) outcome.1.desk

theorem follows_of_endCall {codec : Codec} {client : Client ι} {desk : Desk ι} {id : ι}
    {result : CallResult} (acts : Acts fields codec desk [.ended id result] (client.desk.drop id)) :
    Follows fields codec desk id (client.endCall id result) := by
  have gone : awaitedIn (client.endCall id result).1.calls id = none := awaitedIn_drop client.desk id
  unfold Follows
  rw [gone]
  exact acts

theorem follows_refuse {codec : Codec} {client : Client ι} {desk : Desk ι} {id : ι} {result : CallResult}
    {timeout : Duration} {poll : Poll} {next : Option Message}
    (held : desk.call? id = some (.awaitingActive timeout poll next))
    (same : desk.drop id = client.desk.drop id) (early : result.IsEarly) :
    Follows fields codec desk id (client.endCall id result) := by
  refine follows_of_endCall ?_
  rw [← same]
  exact Acts.one (.settle held early)

omit [DecidableEq ι] in
theorem release_of_begin? {client : Client ι} {key : String} {store : PendingReplies}
    (begun : client.store.begin? key = some store) : { client with store := store }.release key = client := by
  simp [release, PendingReplies.finish_of_begin? begun]

omit [DecidableEq ι] in
theorem eq_of_refused {client after : Client ι} {key : String} {msg : Message} {error : ClientError}
    (refused : client.register key msg = .refused after error) : after = client := by
  unfold register at refused
  split at refused
  · cases refused
    rfl
  split at refused
  · rename_i begun
    dsimp only at refused
    rw [release_of_begin? begun] at refused
    split at refused <;> cases refused <;> rfl
  · cases refused
    rfl
  · cases refused
    rfl

omit [DecidableEq ι] in
theorem error_of_refused {client after : Client ι} {key : String} {msg : Message} {error : ClientError}
    (refused : client.register key msg = .refused after error) :
    error = .notActive ∨ (∃ cause, error = .codec cause) ∨ (∃ cause, error = .wire cause) ∨
      error = .duplicateKey key ∧ client.store.isInFlight key = true := by
  unfold register at refused
  split at refused
  · cases refused
    exact .inl rfl
  split at refused
  · dsimp only at refused
    split at refused <;> cases refused
    · exact .inr (.inl ⟨_, rfl⟩)
    · exact .inr (.inr (.inl ⟨_, rfl⟩))
  · rename_i taken
    cases refused
    refine .inr (.inr (.inr ⟨rfl, ?_⟩))
    exact PendingReplies.begin?_eq_none_iff.1 taken
  · cases refused
    exact .inl rfl

/-- A request that goes out: its key is registered, and the channel takes it or else is asked to end. -/
inductive Departs (client : Client ι) (key : String) (msg : Message) : Client ι → Prop where
  | queued {conn : Nat} {channel queued : Channel Unit Unit} {store : PendingReplies}
      (current : client.current = some conn) (found : client.channels[conn]? = some channel)
      (begun : client.store.begin? key = some store) (written : channel.write client.codec msg = .ok queued) :
    Departs client key msg (({ client with store := store }.setChannel conn queued).count fun m =>
      { m with requestsSent := m.requestsSent + 1 })
  | closing {conn : Nat} {channel : Channel Unit Unit} {store : PendingReplies} {error : ChannelError}
      (current : client.current = some conn) (found : client.channels[conn]? = some channel)
      (begun : client.store.begin? key = some store) (failed : channel.write client.codec msg = .error error)
      (notCodec : ∀ cause, error ≠ .codec cause) (notWire : ∀ cause, error ≠ .wire cause) :
    Departs client key msg ({ client with store := store }.closeChannel conn)

omit [DecidableEq ι] in
theorem departs_of_awaiting {client after : Client ι} {key : String} {msg : Message}
    (sent : client.register key msg = .awaiting after) : client.Departs key msg after := by
  unfold register at sent
  split at sent
  · cases sent
  rename_i conn current
  split at sent
  · rename_i channel store found begun
    dsimp only at sent
    split at sent
    · rename_i queued written
      cases sent
      exact .queued current found begun written
    · cases sent
    · cases sent
    · rename_i error notCodec notWire failed
      cases sent
      exact .closing current found begun failed notCodec notWire
  · cases sent
  · cases sent

omit [DecidableEq ι] in
theorem register_cases (client : Client ι) (key : String) (msg : Message) :
    (∃ error, client.register key msg = .refused client error ∧ (CallResult.failed error).IsEarly) ∨
    (∃ store after, client.register key msg = .awaiting after ∧ client.store.begin? key = some store ∧
      after.desk = client.desk.withStore store ∧ after.closed = client.closed) := by
  cases registered : client.register key msg with
  | refused after error =>
    cases eq_of_refused registered
    refine .inl ⟨error, rfl, ?_⟩
    obtain rfl | ⟨cause, rfl⟩ | ⟨cause, rfl⟩ | ⟨rfl, -⟩ := error_of_refused registered <;> trivial
  | awaiting after =>
    refine .inr ?_
    cases departs_of_awaiting registered with
    | queued current found begun written => exact ⟨_, _, rfl, begun, rfl, rfl⟩
    | @closing conn channel store error current found begun failed notCodec notWire =>
      refine ⟨store, _, rfl, begun, desk_closeChannel _ conn, ?_⟩
      unfold closeChannel
      split <;> rfl

omit [DecidableEq ι] in
theorem isExhausted_pollFor (client : Client ι) (timeout : Duration) :
    (client.pollFor timeout).isExhausted = false := by
  have one : ¬ min (max (timeout.nanos / client.config.pollInterval.nanos) 1) maxIterations ≤ 0 := by
    unfold maxIterations UInt64.size
    omega
  exact decide_eq_false one

theorem checkReply_of_awaiting {client after : Client ι} {key : String} {msg : Message}
    (awaiting : client.register key msg = .awaiting after) (opened : client.closed = false)
    (absent : client.store.get? key = none) (id : ι) (timeout : Duration) :
    after.checkReply id key timeout (after.pollFor timeout) =
      after.sleepCall id (.awaitingReply key timeout (after.pollFor timeout)) := by
  obtain ⟨error, refused, -⟩ | ⟨store, last, same, begun, left, still⟩ := client.register_cases key msg
  · cases awaiting.symm.trans refused
  cases awaiting.symm.trans same
  have missing : after.store.get? key = none := by
    rw [show after.store = store from congrArg Desk.store left, (PendingReplies.begin?_eq_some_iff.1 begun).2]
    exact absent
  exact checkReply_of_absent missing (still.trans opened) (isExhausted_pollFor after timeout) id timeout

theorem follows_send {client : Client ι} {desk : Desk ι} {id : ι} {msg : Message} {timeout : Duration}
    {poll : Poll} (held : desk.call? id = some (.awaitingActive timeout poll (some msg)))
    (same : desk.drop id = client.desk.drop id) (limit : Duration) :
    Follows client.config.keyFields client.codec desk id (client.send id msg limit) := by
  have store : desk.store = client.store := congrArg Desk.store same
  unfold send
  split
  · exact follows_refuse held same trivial
  rename_i unclosed
  split
  · rename_i error unkeyed
    obtain ⟨lacking, -, rfl⟩ := KeyFields.keyFor_eq_error_iff.1 unkeyed
    exact follows_refuse held same trivial
  rename_i key keyed
  split
  · exact follows_refuse held same trivial
  rename_i free
  rw [Bool.not_eq_true, ← store] at free
  unfold PendingReplies.remove
  cases found : client.store.get? key with
  | some bytes =>
    obtain ⟨left, result⟩ := decodeReply_eq { client with store := client.store.erase key } bytes
    dsimp only
    rw [result]
    refine follows_of_endCall ?_
    have last : ({ client with store := client.store.erase key }.decodeReply bytes).1.desk.drop id =
        (desk.withStore (desk.store.erase key)).drop id := by
      rw [left, Desk.withStore_drop, same, store]
      rfl
    rw [last]
    exact Acts.one (.claim held keyed free (store ▸ found))
  | none =>
    dsimp only
    obtain ⟨error, refused, early⟩ | ⟨registered, after, awaiting, begun, left, still⟩ :=
      client.register_cases key msg
    · rw [refused]
      exact follows_refuse held same early
    · have sleeps := checkReply_of_awaiting awaiting (by simpa using unclosed) found id limit
      rw [awaiting]
      have begins := awaitedIn_place after.desk id (.awaitingReply key limit (after.pollFor limit))
      have last : after.desk.place id (.awaitingReply key limit (after.pollFor limit)) =
          (desk.withStore registered).place id (.awaitingReply key limit (after.pollFor limit)) := by
        refine Desk.place_eq_of_drop_eq ?_ _
        rw [left, Desk.withStore_drop, Desk.withStore_drop, same]
      dsimp only
      rw [sleeps]
      unfold Follows
      rw [show awaitedIn (after.sleepCall id _).1.calls id = some key from begins, desk_sleepCall, last]
      rw [← store] at found begun
      exact Acts.one (.register held keyed found begun)

theorem follows_checkActive {client : Client ι} {desk : Desk ι} {id : ι} {timeout : Duration}
    {poll : Poll} {next : Option Message} (held : desk.call? id = some (.awaitingActive timeout poll next))
    (same : desk.drop id = client.desk.drop id) (limit : Duration) (later : Poll) :
    Follows client.config.keyFields client.codec desk id (client.checkActive id limit later next) := by
  unfold checkActive
  dsimp only
  split
  · cases next with
    | none => exact follows_refuse held same trivial
    | some msg => exact follows_send held same client.config.responseTimeout
  · exact follows_refuse held same trivial
  · exact follows_refuse held same trivial
  · have rests := awaitedIn_place client.desk id (.awaitingActive limit later next)
    unfold Follows
    rw [show awaitedIn (client.sleepCall id _).1.calls id = none from rests, desk_sleepCall,
      ← Desk.place_eq_of_drop_eq same]
    exact Acts.one (.rest held)

/-! ## Handshakes -/

omit [DecidableEq ι] in
theorem desk_endHandshake (client : Client ι) (now : Duration) (conn : Nat) (acknowledged : Bool) :
    (client.endHandshake now conn acknowledged).desk = { client.desk with handshake := none } := by
  unfold endHandshake
  dsimp only
  split
  · rfl
  · exact desk_closeChannel _ conn

theorem acts_checkHandshake {codec : Codec} (client : Client ι) {desk : Desk ι} {conn : Nat} {key : String}
    (standing : desk = { client.desk with handshake := some (conn, key) }) (now : Duration) :
    Acts fields codec desk
      (if client.store.contains key && !(client.checkHandshake now conn key).1.store.contains key then
        [.acknowledged conn key] else [])
      (client.checkHandshake now conn key).1.desk := by
  subst standing
  unfold checkHandshake PendingReplies.remove
  cases found : client.store.get? key with
  | some bytes =>
    have left := desk_endHandshake { client with store := (client.store.erase key).finish key } now conn
      (client.codec.decode bytes).isOk
    have gone : ((client.store.erase key).finish key).contains key = false :=
      PendingReplies.get?_eq_none_iff.1 (PendingReplies.get?_erase_self client.store key)
    have last : (Client.endHandshake _ now conn (client.codec.decode bytes).isOk).store =
        (client.store.erase key).finish key := congrArg Desk.store left
    dsimp only
    rw [last, left, gone, PendingReplies.contains_of_get? found]
    exact Acts.one (.acknowledge rfl found)
  | none =>
    rw [PendingReplies.get?_eq_none_iff.1 found]
    exact Acts.nil _

def handshakeKey (client : Client ι) (unique : Nat → String) : String :=
  (client.config.keyFields.stamp unique 0 ⟨handshakeMti, .empty⟩).1

omit [DecidableEq ι] in
theorem startHandshake_cases (client : Client ι) (now : Duration) (conn : Nat) (unique : Nat → String) :
    client.startHandshake now conn unique = (client.endHandshake now conn false, []) ∨
    (∃ store before channel msg, client.store.begin? (client.handshakeKey unique) = some store ∧
      client.channels[conn]? = some before ∧ before.write client.codec msg = .ok channel ∧
      client.startHandshake now conn unique =
        ({ client with store := store }.setChannel conn channel).checkHandshake now conn
          (client.handshakeKey unique)) := by
  unfold startHandshake handshakeKey
  dsimp only
  split
  · rename_i store before begun found
    split
    · rename_i channel written
      exact .inr ⟨store, before, channel, _, begun, found, written, rfl⟩
    · exact .inl rfl
  · exact .inl rfl

theorem acts_startHandshake {client : Client ι} (idle : client.desk.handshake = none) (now : Duration)
    (conn : Nat) (unique : Nat → String) :
    Acts fields client.codec client.desk
      (if client.store.contains (client.handshakeKey unique) &&
          !(client.startHandshake now conn unique).1.store.contains (client.handshakeKey unique) then
        [.acknowledged conn (client.handshakeKey unique)] else [])
      (client.startHandshake now conn unique).1.desk := by
  obtain fails | ⟨store, before, channel, msg, begun, -, -, sent⟩ :=
    client.startHandshake_cases now conn unique
  · have left : (client.endHandshake now conn false).desk = client.desk := by
      rw [desk_endHandshake, ← idle]
    have same : (client.endHandshake now conn false).store = client.store := congrArg Desk.store left
    rw [fails, left, same, Bool.and_not_self]
    exact Acts.nil _
  · have held : client.store.contains (client.handshakeKey unique) =
        store.contains (client.handshakeKey unique) := by
      rw [(PendingReplies.begin?_eq_some_iff.1 begun).2]
      rfl
    rw [sent, held]
    refine (Acts.one (.greet conn idle begun)).trans ?_
    exact acts_checkHandshake (({ client with store := store } : Client ι).setChannel conn channel)
      rfl now

theorem acts_cancelWait (codec : Codec) (client : Client ι) :
    Acts fields codec client.desk [] { client.cancelWait.desk with handshake := none } := by
  unfold cancelWait
  split
  · rename_i conn key waits
    have awaited : client.desk.handshake = some (conn, key) := congrArg SessionTask.handshake? waits
    exact Acts.one (.part awaited)
  · rename_i elsewhere
    have idle : client.desk.handshake = none := by
      cases session : client.session with
      | handshaking conn key => exact absurd session (elsewhere conn key)
      | _ => exact congrArg SessionTask.handshake? session
    rw [← idle]
    exact Acts.nil _

/-! ## Pumps -/

omit [DecidableEq ι] in
theorem record_cases (client : Client ι) (msg : Message) :
    (client.stores msg = false ∧ (client.record msg).desk = client.desk) ∨
    (client.stores msg = true ∧ ∃ key bytes, client.config.keyFields.keyFor msg = .ok key ∧
      client.codec.encode msg = .ok bytes ∧
      (client.record msg).desk = client.desk.withStore (client.store.put key bytes).2) := by
  unfold stores record
  cases client.config.keyFields.keyFor msg with
  | error error => exact .inl ⟨rfl, rfl⟩
  | ok key =>
    cases client.codec.encode msg with
    | error error => exact .inl ⟨rfl, rfl⟩
    | ok bytes => exact .inr ⟨rfl, key, bytes, rfl, rfl, rfl⟩

omit [DecidableEq ι] in
theorem take_keeps (client : Client ι) (call : ReaderCall Unit) :
    (client.take call).config = client.config ∧ (client.take call).codec = client.codec := by
  unfold take record
  split
  · split
    · exact ⟨rfl, rfl⟩
    · split <;> exact ⟨rfl, rfl⟩
  · exact ⟨rfl, rfl⟩

theorem acts_takeAll (client : Client ι) (calls : List (ReaderCall Unit))
    (received : ∀ handler msg, .message handler msg ∈ calls → client.codec.Receives msg) :
    Acts client.config.keyFields client.codec client.desk ((storedOf client calls).map .recorded)
      (calls.foldl take client).desk := by
  induction calls generalizing client with
  | nil => exact Acts.nil _
  | cons call calls ih =>
    obtain ⟨config, codec⟩ := client.take_keeps call
    have rest := ih (client.take call) fun handler msg later =>
      codec ▸ received handler msg (List.mem_cons_of_mem _ later)
    have same : storedOf (client.take call) calls = storedOf client calls := by
      unfold storedOf stores
      rw [config, codec]
    rw [config, codec, same] at rest
    cases call with
    | dropped handler error => exact rest
    | message handler msg =>
      obtain ⟨unstored, desk⟩ | ⟨stored, key, bytes, keyed, written, desk⟩ := client.record_cases msg
      · have skips : storedOf client (.message handler msg :: calls) = storedOf client calls := by
          simp [storedOf, unstored]
        rw [show (client.take (.message handler msg)).desk = client.desk from desk] at rest
        rw [skips]
        exact rest
      · have adds : storedOf client (.message handler msg :: calls) = msg :: storedOf client calls := by
          simp [storedOf, stored]
        rw [show (client.take (.message handler msg)).desk = _ from desk] at rest
        rw [adds]
        exact (Acts.one (.record (received handler msg List.mem_cons_self) keyed written)).trans rest

theorem receives_of_step {codec : Codec} {channel after : Channel Unit Unit} {step : PumpStep}
    {output : PumpOutput Unit Unit} (taken : channel.step codec.decode step = some (after, output))
    (handler : Unit) (msg : Message) (called : .message handler msg ∈ output.calls) :
    codec.Receives msg := by
  obtain ⟨-, -, quiet | ⟨chunk, -, read⟩⟩ := Channel.step_cases taken
  · rw [quiet] at called
    cases called
  · rw [read] at called
    exact FrameReader.receives_of_ingest called

omit [DecidableEq ι] in
theorem desk_takeOutput (client : Client ι) (now : Duration) (conn : Nat) (output : PumpOutput Unit Unit) :
    (client.takeOutput now conn output).1.desk = (output.calls.foldl take client).desk := by
  unfold takeOutput
  dsimp only
  split <;> rfl

omit [DecidableEq ι] in
theorem endedOf_takeOutput (client : Client ι) (now : Duration) (conn : Nat)
    (output : PumpOutput Unit Unit) : endedOf (client.takeOutput now conn output).2 = [] := by
  unfold takeOutput
  dsimp only
  split <;> split <;> rfl

omit [DecidableEq ι] in
/-- A step of a pump is a step of its channel; after bytes were read another one follows. -/
theorem stepPump_cases {client after : Client ι} {now : Duration} {conn : Nat} {step : PumpStep}
    {effects : List (ClientEffect ι)} (taken : client.stepPump now conn step = some (after, effects)) :
    ∃ channel mid output next first, client.channels[conn]? = some channel ∧
      channel.step client.codec.decode step = some (mid, output) ∧
      (client.setChannel conn mid).takeOutput now conn output = (next, first) ∧
      (next = after ∧ first = effects ∨
        ∃ last more second, mid.step next.codec.decode .dispatched = some (last, more) ∧
          (next.setChannel conn last).takeOutput now conn more = (after, second) ∧
          effects = first ++ second) := by
  unfold stepPump at taken
  obtain ⟨channel, found, taken⟩ := Option.bind_eq_some_iff.1 taken
  obtain ⟨⟨mid, output⟩, stepped, taken⟩ := Option.bind_eq_some_iff.1 taken
  refine ⟨channel, mid, output, _, _, found, stepped, rfl, ?_⟩
  dsimp only at taken
  split at taken
  · obtain ⟨⟨last, more⟩, dispatched, taken⟩ := Option.bind_eq_some_iff.1 taken
    cases taken
    exact .inr ⟨last, more, _, dispatched, rfl, rfl⟩
  · cases taken
    exact .inl ⟨rfl, rfl⟩

theorem acts_stepPump {client after : Client ι} {now : Duration} {conn : Nat} {step : PumpStep}
    {effects : List (ClientEffect ι)} (taken : client.stepPump now conn step = some (after, effects)) :
    ∃ channel mid output, client.channels[conn]? = some channel ∧
      channel.step client.codec.decode step = some (mid, output) ∧
      Acts client.config.keyFields client.codec client.desk
        ((storedOf client output.calls).map .recorded) after.desk ∧ endedOf effects = [] := by
  obtain ⟨channel, mid, output, next, first, found, stepped, handed, rest⟩ := stepPump_cases taken
  have acts : Acts client.config.keyFields client.codec client.desk
      ((storedOf client output.calls).map .recorded)
      (output.calls.foldl take (client.setChannel conn mid)).desk :=
    acts_takeAll (client.setChannel conn mid) output.calls (receives_of_step stepped)
  have silent := endedOf_takeOutput (client.setChannel conn mid) now conn output
  rw [← desk_takeOutput _ now conn, handed] at acts
  rw [handed] at silent
  refine ⟨channel, mid, output, found, stepped, ?_⟩
  obtain ⟨rfl, rfl⟩ | ⟨last, more, second, dispatched, second_handed, rfl⟩ := rest
  · exact ⟨acts, silent⟩
  · obtain ⟨-, -, quiet | ⟨chunk, other, -⟩⟩ := Channel.step_cases dispatched
    · have left := desk_takeOutput (next.setChannel conn last) now conn more
      have still := endedOf_takeOutput (next.setChannel conn last) now conn more
      rw [second_handed] at left still
      rw [quiet] at left
      refine ⟨left ▸ acts, ?_⟩
      unfold endedOf at silent still ⊢
      rw [List.filterMap_append, silent, still, List.append_nil]
    · cases other

end Client

end Iso8583
