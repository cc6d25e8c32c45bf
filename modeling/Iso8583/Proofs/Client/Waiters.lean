import Iso8583.Proofs.Client.Awaiting
import Iso8583.Proofs.Client.Handshaking

/-!
# One waiter for each key

Calls and handshakes wait under the keys that they have registered. No two of them wait under one key,
a request whose key is awaited is refused, and nobody but the one who waits takes a reply away.
-/

namespace Iso8583

variable {ι : Type} [DecidableEq ι]

/-! ## Who waits -/

/-- Whether a call has registered a key and goes on since. -/
def Registered (entries : List (Entry ι)) (id : ι) (key : String) : Prop :=
  ∃ earlier since, entries = earlier ++ .began id key :: since ∧ Stays id since

inductive Waiter (ι : Type) where
  | call (id : ι)
  | handshake (conn : Nat)

namespace Waiter

def Awaits (past : List (Moment ι)) (key : String) : Waiter ι → Prop
  | .call id => Registered (journal past) id key
  | .handshake conn => Handshakes past conn key

/-- The event by which a waiter looks for the reply. -/
def check : Waiter ι → ClientEvent ι
  | .call id => .callSlept id true
  | .handshake _ => .sessionSlept true

end Waiter

namespace Client

variable {client after : Client ι} {now : Duration} {event : ClientEvent ι}
  {effects : List (ClientEffect ι)} {key : String}

variable {config : ClientConfig} {codec : Codec} {past : List (Moment ι)}

theorem Run.registered_iff (run : Run (.new config codec) past client) {id : ι} :
    Registered (journal past) id key ↔ client.desk.awaited (some id) = some key := by
  constructor
  · rintro ⟨earlier, since, split, stays⟩
    exact (run.acts.waits_since (sound_new config codec) split stays).awaits
  · exact run.acts.began_of_awaited (awaited_new config codec _)

/-! ## Requests whose key is awaited -/

theorem checks_of_sends? {id : ι} {msg : Message} (taken : client.step now event = some (after, effects))
    (about : event.call? = some id) (sends : client.sends? event = some msg) :
    (∃ timeout, client.send id msg timeout = (after, effects)) ∨
      client.state = .active ∧
        ∃ timeout poll, client.checkActive id timeout poll (some msg) = (after, effects) := by
  cases handles_of_step about taken with
  | @send _ timeout _ _ free starts =>
    cases sends
    exact .inl ⟨timeout, starts⟩
  | @await timeout next _ _ free checks =>
    simp only [sends?, Option.ite_none_right_eq_some] at sends
    obtain ⟨active, rfl⟩ := sends
    exact .inr ⟨active, timeout, _, checks⟩
  | checkReply held => simp [sends?, held] at sends
  | @checkActive timeout poll next _ _ held checks =>
    simp only [sends?, held, Option.ite_none_right_eq_some] at sends
    obtain ⟨active, rfl⟩ := sends
    exact .inr ⟨active, timeout, _, checks⟩
  | _ => cases sends

theorem send_of_sends? {id : ι} {msg : Message} (taken : client.step now event = some (after, effects))
    (about : event.call? = some id) (sends : client.sends? event = some msg)
    (opened : client.closed = false) : ∃ timeout, client.send id msg timeout = (after, effects) := by
  obtain same | ⟨active, timeout, poll, checks⟩ := checks_of_sends? taken about sends
  · exact same
  · refine ⟨client.config.responseTimeout, ?_⟩
    rw [← checks]
    simp [checkActive, opened, active, Poll.afterCheck]

omit [DecidableEq ι] in
theorem replyOf_ne_duplicateKey (codec : Codec) (bytes : Bytes) (other : String) :
    replyOf codec bytes ≠ .failed (.duplicateKey other) := by
  unfold replyOf
  split <;> simp

omit [DecidableEq ι] in
theorem refused_ne_duplicateKey {msg : Message} {error : ClientError}
    (refused : client.register key msg = .refused after error) (free : client.store.isInFlight key = false)
    (other : String) : error ≠ .duplicateKey other := by
  obtain rfl | ⟨cause, rfl⟩ | ⟨cause, rfl⟩ | ⟨-, taken⟩ := error_of_refused refused
  · simp
  · simp
  · simp
  · simp [free] at taken

theorem duplicateKey_iff {id : ι} {msg : Message} (opened : client.closed = false)
    (keyed : client.config.keyFields.keyFor msg = .ok key) (timeout : Duration) (other : String) :
    .finish id (.failed (.duplicateKey other)) ∈ (client.send id msg timeout).2 ↔
      other = key ∧ client.store.isInFlight key = true := by
  unfold send
  rw [if_neg (by simp [opened]), keyed]
  cases flight : client.store.isInFlight key with
  | true => simp [flight, endCall]
  | false =>
    simp only [flight, Bool.false_eq_true, if_false, and_false, iff_false]
    split
    · rename_i bytes store found
      have result := (decodeReply_eq { client with store := store } bytes).2
      simp only [endCall, List.mem_singleton, ClientEffect.finish.injEq, true_and]
      rw [result]
      exact (replyOf_ne_duplicateKey _ _ _).symm
    · split
      · rename_i error refused
        simpa [endCall] using (refused_ne_duplicateKey refused flight other).symm
      · rename_i next sent
        obtain ⟨bytes, -, -, effects⟩ | ⟨error, -, named | ⟨waited, named⟩, -, effects⟩ | ⟨-, sleeps⟩ :=
          next.checkReply_cases id key timeout (next.pollFor timeout)
        · simpa [effects] using (replyOf_ne_duplicateKey _ _ _).symm
        · simp [effects, named]
        · simp [effects, named]
        · simp [sleeps, sleepCall]

/-! ## Replies that are awaited -/

/-- What a store has in place of a reply that was held under a key. -/
def Keeps (client after : Client ι) (key : String) (arrived : List Message) : Prop :=
  ∀ bytes, client.store.get? key = some bytes → ∃ kept, after.store.get? key = some kept ∧
    (kept = bytes ∨ ∃ msg ∈ arrived, client.config.keyFields.keyFor msg = .ok key ∧
      client.codec.encode msg = .ok kept)

omit [DecidableEq ι] in
theorem keeps_of_get? (same : after.store.get? key = client.store.get? key) (arrived : List Message) :
    client.Keeps after key arrived := by
  intro bytes found
  exact ⟨bytes, same.trans found, .inl rfl⟩

theorem get?_checkReply_of_ne {other : String} (different : key ≠ other) (id : ι) (timeout : Duration)
    (poll : Poll) :
    (client.checkReply id other timeout poll).1.store.get? key = client.store.get? key := by
  obtain ⟨bytes, -, desk, -⟩ | ⟨error, -, -, desk, -⟩ | ⟨-, sleeps⟩ :=
    client.checkReply_cases id other timeout poll
  · rw [show (client.checkReply id other timeout poll).1.store = _ from congrArg Desk.store desk]
    exact PendingReplies.get?_erase_of_ne different
  · rw [show (client.checkReply id other timeout poll).1.store = _ from congrArg Desk.store desk]
    exact PendingReplies.get?_congr rfl key
  · rw [sleeps]
    rfl

theorem get?_send (flight : client.store.isInFlight key = true) (id : ι) (msg : Message)
    (timeout : Duration) : (client.send id msg timeout).1.store.get? key = client.store.get? key := by
  unfold send
  split
  · rfl
  split
  · rfl
  rename_i other keyed
  split
  · rfl
  rename_i free
  have different : key ≠ other := by
    rintro rfl
    exact free flight
  split
  · rename_i bytes store found
    obtain ⟨-, rfl⟩ := Prod.mk.inj found
    have desk := (decodeReply_eq { client with store := client.store.erase other } bytes).1
    have erased : (client.store.erase other).get? key = client.store.get? key :=
      PendingReplies.get?_erase_of_ne different
    rw [← erased]
    exact congrArg (fun desk : Desk ι => desk.store.get? key) desk
  · split
    · rename_i refused
      cases eq_of_refused refused
      rfl
    · rename_i after sent
      rw [get?_checkReply_of_ne different]
      obtain ⟨error, refused, -⟩ | ⟨store, next, awaiting, begun, desk, -⟩ := client.register_cases other msg
      · simp [refused] at sent
      · rw [awaiting] at sent
        cases sent
        obtain ⟨-, rfl⟩ := PendingReplies.begin?_eq_some_iff.1 begun
        rw [show after.store = _ from congrArg Desk.store desk]
        exact PendingReplies.get?_congr rfl key

theorem get?_checkActive (flight : client.store.isInFlight key = true) (id : ι) (timeout : Duration)
    (poll : Poll) (next : Option Message) :
    (client.checkActive id timeout poll next).1.store.get? key = client.store.get? key := by
  unfold checkActive
  dsimp only
  split
  · cases next with
    | none => rfl
    | some msg => exact get?_send flight id msg _
  · rfl
  · rfl
  · rfl

omit [DecidableEq ι] in
theorem get?_checkHandshake_of_ne {other : String} (different : key ≠ other) (now : Duration) (conn : Nat) :
    (client.checkHandshake now conn other).1.store.get? key = client.store.get? key := by
  unfold checkHandshake PendingReplies.remove
  cases found : client.store.get? other with
  | none => rfl
  | some bytes =>
    have desk := desk_endHandshake { client with store := (client.store.erase other).finish other } now
      conn (client.codec.decode bytes).isOk
    have erased : ((client.store.erase other).finish other).get? key = client.store.get? key :=
      PendingReplies.get?_erase_of_ne different
    rw [← erased]
    exact congrArg (fun desk : Desk ι => desk.store.get? key) desk

omit [DecidableEq ι] in
theorem get?_startHandshake (flight : client.store.isInFlight key = true) (now : Duration) (conn : Nat)
    (unique : Nat → String) :
    (client.startHandshake now conn unique).1.store.get? key = client.store.get? key := by
  obtain fails | ⟨store, before, channel, msg, begun, -, -, sent⟩ :=
    client.startHandshake_cases now conn unique
  · rw [fails]
    exact congrArg (fun desk : Desk ι => desk.store.get? key) (desk_endHandshake client now conn false)
  · obtain ⟨free, rfl⟩ := PendingReplies.begin?_eq_some_iff.1 begun
    have different : key ≠ client.handshakeKey unique := by
      rintro rfl
      rw [flight] at free
      cases free
    rw [sent, get?_checkHandshake_of_ne different]
    exact PendingReplies.get?_congr rfl key

omit [DecidableEq ι] in
theorem keeps_take (flight : client.store.isInFlight key = true) (call : ReaderCall Unit) :
    (client.take call).store.isInFlight key = true ∧
      client.Keeps (client.take call) key (storedOf client [call]) := by
  have still {store : PendingReplies} (same : (client.take call).store = store)
      (inFlight : store.inFlight = client.store.inFlight) :
      (client.take call).store.isInFlight key = true := by
    unfold PendingReplies.isInFlight at flight ⊢
    rw [same, inFlight, flight]
  cases call with
  | dropped handler error => exact ⟨flight, keeps_of_get? rfl _⟩
  | message handler msg =>
    obtain ⟨unstored, desk⟩ | ⟨stored, under, written, keyed, encoded, desk⟩ := client.record_cases msg
    · have store : (client.take (.message handler msg)).store = client.store := congrArg Desk.store desk
      exact ⟨still store rfl, keeps_of_get? (by rw [store]) _⟩
    · have store : (client.take (.message handler msg)).store = (client.store.put under written).2 :=
        congrArg Desk.store desk
      refine ⟨still store (PendingReplies.inFlight_put ..), fun bytes found => ?_⟩
      rw [store, PendingReplies.get?_put_of_isInFlight flight, found]
      by_cases same : under = key
      · subst same
        exact ⟨written, by simp, .inr ⟨msg, by simp [storedOf, stored], keyed, encoded⟩⟩
      · exact ⟨bytes, by simp [same], .inl rfl⟩

omit [DecidableEq ι] in
theorem keeps_takeAll (client : Client ι) (flight : client.store.isInFlight key = true)
    (calls : List (ReaderCall Unit)) : client.Keeps (calls.foldl take client) key (storedOf client calls) := by
  induction calls generalizing client with
  | nil => exact keeps_of_get? rfl _
  | cons call calls ih =>
    intro bytes found
    obtain ⟨config, codec⟩ := client.take_keeps call
    obtain ⟨still, keeps⟩ := client.keeps_take flight call
    have whole : storedOf client (call :: calls) =
        storedOf client [call] ++ storedOf (client.take call) calls := by
      unfold storedOf stores
      rw [config, codec, ← List.filterMap_append]
      rfl
    obtain ⟨mid, held, first⟩ := keeps bytes found
    obtain ⟨kept, last, next⟩ := ih (client.take call) still mid held
    rw [config, codec] at next
    refine ⟨kept, last, ?_⟩
    rw [whole]
    obtain rfl | ⟨msg, mem, source⟩ := next
    · exact first.imp_right fun ⟨msg, mem, source⟩ => ⟨msg, List.mem_append_left _ mem, source⟩
    · exact .inr ⟨msg, List.mem_append_right _ mem, source⟩

theorem keeps_stepPump {conn : Nat} {step : PumpStep} (flight : client.store.isInFlight key = true)
    (taken : client.step now (.pump conn step) = some (after, effects)) :
    client.Keeps after key (Moment.recorded ⟨now, .pump conn step, client, after, effects⟩) := by
  obtain ⟨channel, mid, output, next, first, found, stepped, handed, rest⟩ := stepPump_cases taken
  have arrived : Moment.recorded ⟨now, .pump conn step, client, after, effects⟩ =
      storedOf client output.calls := by
    simp [Moment.recorded, found, stepped]
  have keeps : client.Keeps next key (storedOf client output.calls) := by
    have taken := keeps_takeAll (client.setChannel conn mid) flight output.calls
    have desk := desk_takeOutput (client.setChannel conn mid) now conn output
    rw [handed] at desk
    intro bytes held
    rw [show next.store = _ from congrArg Desk.store desk]
    exact taken bytes held
  rw [arrived]
  obtain ⟨rfl, -⟩ | ⟨last, more, second, dispatched, handed', -⟩ := rest
  · exact keeps
  · -- The handlers are done, and nothing more is stored.
    have desk := desk_takeOutput (next.setChannel conn last) now conn more
    obtain ⟨-, -, quiet | ⟨chunk, other, -⟩⟩ := Channel.step_cases dispatched
    · rw [handed', quiet] at desk
      intro bytes held
      rw [show after.store = next.store from congrArg Desk.store desk]
      exact keeps bytes held
    · cases other

omit [DecidableEq ι] in
theorem get?_cancelWait (client : Client ι) (key : String) :
    client.cancelWait.store.get? key = client.store.get? key := by
  unfold cancelWait
  split
  · exact PendingReplies.get?_congr rfl key
  · rfl

theorem takes_or_keeps_of_handles {id : ι} (flight : client.store.isInFlight key = true)
    (handles : client.Handles id event after effects) :
    event = .callSlept id true ∧ client.desk.awaited (some id) = some key ∨
      after.store.get? key = client.store.get? key := by
  cases handles with
  | @send msg timeout _ _ free sends =>
    have same := client.get?_send flight id msg timeout
    rw [sends] at same
    exact .inr same
  | @await timeout next _ _ free checks =>
    have same := client.get?_checkActive flight id timeout (client.pollFor timeout) next
    rw [checks] at same
    exact .inr same
  | @checkReply other timeout poll _ _ held checks =>
    by_cases own : key = other
    · subst own
      have standing : client.desk.call? id = some (.awaitingReply key timeout poll) := held
      exact .inl ⟨rfl, Desk.awaited_of_call? standing⟩
    · have same := client.get?_checkReply_of_ne own id timeout poll.slept
      rw [checks] at same
      exact .inr same
  | @checkActive timeout poll next _ _ held checks =>
    have same := client.get?_checkActive flight id timeout poll.slept next
    rw [checks] at same
    exact .inr same
  | wakeReply | dropReply => exact .inr (PendingReplies.get?_congr rfl key)
  | wakeActive | dropActive => exact .inr rfl

/-- A reply that is awaited is taken away only by the one who waits for it. Otherwise it stays, unless a
message that is stored in this step comes in its place. -/
theorem keeps_of_step (flight : client.store.isInFlight key = true)
    (taken : client.step now event = some (after, effects)) :
    (∃ id, event = .callSlept id true ∧ client.desk.awaited (some id) = some key) ∨
      (∃ conn, event = .sessionSlept true ∧ client.session = .handshaking conn key) ∨
      client.Keeps after key (Moment.recorded ⟨now, event, client, after, effects⟩) := by
  have kept (same : after.store.get? key = client.store.get? key) :
      (∃ id, event = .callSlept id true ∧ client.desk.awaited (some id) = some key) ∨
        (∃ conn, event = .sessionSlept true ∧ client.session = .handshaking conn key) ∨
        client.Keeps after key (Moment.recorded ⟨now, event, client, after, effects⟩) :=
    .inr (.inr (keeps_of_get? same _))
  have cancelled {store : PendingReplies} (same : store = client.cancelWait.store) :
      store.get? key = client.store.get? key := by
    rw [same, get?_cancelWait]
  cases takes_of_step taken with
  | @join unique _ _ connecting starts =>
    have awaited : client.joined.store.isInFlight key = true := flight
    have same := get?_startHandshake awaited now client.channels.length unique
    rw [starts] at same
    exact kept same
  | @check conn other _ _ handshaking checks =>
    by_cases own : key = other
    · exact .inr (.inl ⟨conn, rfl, own ▸ handshaking⟩)
    · have same := client.get?_checkHandshake_of_ne own now conn
      rw [checks] at same
      exact kept same
  | @interrupt conn =>
    have left := desk_endHandshake client.cancelWait now conn false
    exact kept (cancelled (congrArg Desk.store left))
  | lose | finish => exact kept (cancelled rfl)
  | @finishOn conn =>
    have left := desk_closeChannel client.cancelWait conn
    exact kept (@cancelled (client.cancelWait.closeChannel conn).store (congrArg Desk.store left))
  | pump => exact .inr (.inr (keeps_stepPump flight taken))
  | call handles =>
    obtain own | same := takes_or_keeps_of_handles flight handles
    · exact .inl ⟨_, own⟩
    · exact kept same
  | _ => exact kept rfl

end Client

section

variable {fields : KeyFields} {codec : Codec} {desk last : Desk ι} {entries : List (Entry ι)} {id : ι}
  {key : String}

theorem Act.of_duplicate (act : Act fields codec desk entries last) {earlier later : List (Entry ι)}
    {other : String}
    (split : entries = earlier ++ .ended id (.failed (.duplicateKey other)) :: later) :
    earlier = [] ∧ desk.awaited (some id) = none := by
  have written : .ended id (.failed (.duplicateKey other)) ∈ entries := by simp [split]
  have reads (bytes : Bytes) := Client.replyOf_ne_duplicateKey codec bytes other
  cases act with
  | ask timeout poll free =>
    rename_i caller next
    cases next <;> simp [askedBy] at written
  | settle standing early =>
    obtain ⟨rfl, rfl⟩ : id = _ ∧ _ = _ := by simpa using written
    refine ⟨?_, Desk.awaited_of_call? standing⟩
    cases earlier with
    | nil => rfl
    | cons first rest => simp at split
  | claim standing keyed free found => simp [(reads _).symm] at written
  | take standing found => simp [(reads _).symm] at written
  | expire standing absent reason =>
    obtain rfl | ⟨waited, rfl⟩ := reason <;> simp at written
  | _ => simp at written

theorem Acts.not_registered_of_duplicate (acts : Acts fields codec desk entries last)
    (sound : desk.Sound) {before later : List (Entry ι)} {other : String}
    (split : entries = before ++ .ended id (.failed (.duplicateKey other)) :: later) :
    ¬ Registered before id key := by
  induction acts generalizing later with
  | nil => simp at split
  | snoc acts act ih =>
    obtain ⟨part, inside, -⟩ | ⟨part, rfl, inside⟩ := append_eq_append_cons split
    · exact ih inside
    · rintro ⟨earlier, since, begins, stays⟩
      obtain ⟨rfl, idle⟩ := act.of_duplicate inside
      rw [List.append_nil] at begins
      have awaits := (acts.waits_since sound begins stays).awaits
      rw [idle] at awaits
      cases awaits

end

/-! ## Every run -/

/-- The keys in flight are those that calls and handshakes have registered, from then on until they end,
and no two of these wait under one key. An open client refuses the request of a call because of its key
exactly if the key is in flight just then, and never once the call has registered its key. A reply under
a key in flight is taken away only when the one who waits for it looks for it; it may give way to a
message that is stored under the same key. -/
theorem one_waiter_per_key {config : ClientConfig} {codec : Codec} {past : List (Moment ι)}
    {client : Client ι} (run : Client.Run (.new config codec) past client) :
    (∀ key, key ∈ client.store.inFlight ↔ ∃ waiter : Waiter ι, waiter.Awaits past key) ∧
    (∀ (first second : Waiter ι) key, first.Awaits past key → second.Awaits past key → first = second) ∧
    (∀ now event after effects id msg key other, client.step now event = some (after, effects) →
      event.call? = some id → client.sends? event = some msg → client.closed = false →
      config.keyFields.keyFor msg = .ok key →
      (.finish id (.failed (.duplicateKey other)) ∈ effects ↔
        other = key ∧ key ∈ client.store.inFlight)) ∧
    (∀ before id other later key,
      journal past = before ++ .ended id (.failed (.duplicateKey other)) :: later →
      ¬ Registered before id key) ∧
    (∀ now event after effects key bytes, client.step now event = some (after, effects) →
      key ∈ client.store.inFlight → client.store.get? key = some bytes →
      (∃ waiter : Waiter ι, waiter.Awaits past key ∧ event = waiter.check) ∨
        ∃ kept, after.store.get? key = some kept ∧
          (kept = bytes ∨ ∃ msg ∈ Moment.recorded ⟨now, event, client, after, effects⟩,
            config.keyFields.keyFor msg = .ok key ∧ codec.encode msg = .ok kept)) := by
  have acts : Acts config.keyFields codec (Client.new config codec).desk (journal past) client.desk :=
    run.acts
  have sound := acts.sound (Client.sound_new config codec)
  obtain ⟨sameConfig, sameCodec⟩ : client.config = config ∧ client.codec = codec := acts.keeps
  have greeting {conn : Nat} {key : String} (waits : Handshakes past conn key) :
      client.desk.awaited none = some key := by
    simp [Desk.awaited, Client.desk, run.handshakes_iff.1 waits, SessionTask.handshake?]
  refine ⟨fun key => ?_, fun first second key one two => ?_, ?_, ?_, ?_⟩
  · rw [show client.store.inFlight = client.desk.store.inFlight from rfl, sound.inFlight]
    constructor
    · rintro ⟨who, awaits⟩
      cases who with
      | some id => exact ⟨.call id, run.registered_iff.2 awaits⟩
      | none =>
        obtain ⟨⟨conn, under⟩, handshake, rfl⟩ := Option.map_eq_some_iff.1 awaits
        refine ⟨.handshake conn, run.handshakes_iff.2 ?_⟩
        cases session : client.session <;> simp_all [Client.desk, SessionTask.handshake?]
    · rintro ⟨waiter, awaits⟩
      cases waiter with
      | call id => exact ⟨some id, run.registered_iff.1 awaits⟩
      | handshake conn => exact ⟨none, greeting awaits⟩
  · cases first with
    | call id =>
      cases second with
      | call other =>
        cases sound.once _ _ key (run.registered_iff.1 one) (run.registered_iff.1 two)
        rfl
      | handshake conn => cases sound.once _ _ key (run.registered_iff.1 one) (greeting two)
    | handshake conn =>
      cases second with
      | call other => cases sound.once _ _ key (greeting one) (run.registered_iff.1 two)
      | handshake other =>
        cases (run.handshakes_iff.1 one).symm.trans (run.handshakes_iff.1 two)
        rfl
  · intro now event after effects id msg key other taken about sends opened keyed
    obtain ⟨timeout, same⟩ := Client.send_of_sends? taken about sends opened
    have iff := @Client.duplicateKey_iff ι _ client key id msg opened (sameConfig ▸ keyed) timeout other
    rwa [same, PendingReplies.isInFlight_iff] at iff
  · intro before id other later key split
    exact acts.not_registered_of_duplicate (Client.sound_new config codec) split
  · intro now event after effects key bytes taken flight found
    obtain ⟨id, rfl, awaits⟩ | ⟨conn, rfl, session⟩ | keeps :=
      Client.keeps_of_step (PendingReplies.isInFlight_iff.2 flight) taken
    · exact .inl ⟨.call id, run.registered_iff.2 awaits, rfl⟩
    · exact .inl ⟨.handshake conn, run.handshakes_iff.2 session, rfl⟩
    · have kept := keeps bytes found
      rw [sameConfig, sameCodec] at kept
      exact .inr kept

theorem one_waiter_per_key_in_exchange : ∃ past client,
    Client.Run (.new (.localNetwork "peer") .binary) past (client : Client Nat) ∧
      client.store.inFlight = ["a"] ∧ (∃ waiter : Waiter Nat, waiter.Awaits past "a") ∧
      ∃ after effects, client.step ⟨6⟩ (.send 8 (keyedMessage "0200" "a") (.ofSeconds 1)) =
          some (after, effects) ∧
        .finish 8 (.failed (.duplicateKey "a")) ∈ effects := by
  obtain ⟨past, client, run, seen⟩ := exists_run_of_replay (.new (.localNetwork "peer") .binary) exchange
    (fun _ client => (client.store.inFlight, client.closed, (callIn client.calls 8).isNone))
    (["a"], false, true) (by decide +kernel)
  simp only [Prod.mk.injEq] at seen
  obtain ⟨inFlight, opened, free⟩ := seen
  obtain ⟨holders, -, duplicate, -⟩ := one_waiter_per_key run
  have flight : "a" ∈ client.store.inFlight := by simp [inFlight]
  have taken : client.step ⟨6⟩ (.send 8 (keyedMessage "0200" "a") (.ofSeconds 1)) =
      some (client.send 8 (keyedMessage "0200" "a") (.ofSeconds 1)) :=
    Client.step_send (Option.isNone_iff_eq_none.1 free) _ _ _
  refine ⟨past, client, run, inFlight, (holders "a").1 flight, _, _, taken, ?_⟩
  exact (duplicate _ _ _ _ 8 _ "a" "a" taken rfl rfl opened (by decide +kernel)).2 ⟨rfl, flight⟩

end Iso8583
