import Iso8583.Proofs.Client.Closing

/-!
# What becomes of a call

Each event about a call lets it sleep or ends it. A call that sleeps waits for one thing, the reply under
a key or an active session, with a poll that counts its sleeps; when it goes on to wait for another thing,
it starts with a new poll.
-/

namespace Iso8583

def Call.timeout : Call → Duration
  | .awaitingReply _ timeout _ => timeout
  | .awaitingActive timeout _ _ => timeout

def Call.poll : Call → Poll
  | .awaitingReply _ _ poll => poll
  | .awaitingActive _ poll _ => poll

def Call.slept : Call → Call
  | .awaitingReply key timeout poll => .awaitingReply key timeout poll.slept
  | .awaitingActive timeout poll next => .awaitingActive timeout poll.slept next

def Call.expired : Call → CallResult
  | .awaitingReply key timeout _ => .failed (.responseTimeout key timeout)
  | .awaitingActive timeout _ _ => .failed (.handshakeTimeout timeout)

@[simp] theorem Call.key?_slept (call : Call) : call.slept.key? = call.key? := by cases call <;> rfl

@[simp] theorem Call.timeout_slept (call : Call) : call.slept.timeout = call.timeout := by
  cases call <;> rfl

@[simp] theorem Call.poll_slept (call : Call) : call.slept.poll = call.poll.slept := by cases call <;> rfl

variable {ι : Type} [DecidableEq ι]

/-- What the call of a given name waits for, if there is one: the reply under a key, or an active
session. -/
def aimIn (calls : List (ι × Call)) (id : ι) : Option (Option String) :=
  (callIn calls id).map Call.key?

def ClientEffect.call? {ι : Type} : ClientEffect ι → Option ι
  | .sleepCall id _ => some id
  | .finish id _ => some id
  | _ => none

namespace Client

variable {client after : Client ι} {now : Duration} {event : ClientEvent ι}
  {effects : List (ClientEffect ι)} {id : ι}

/-! ## Steps that concern no call -/

omit [DecidableEq ι] in
theorem apart_of_takeOutput (client : Client ι) (now : Duration) (conn : Nat)
    (output : PumpOutput Unit Unit) :
    ∀ effect ∈ (client.takeOutput now conn output).2, effect.call? = none := by
  unfold takeOutput
  dsimp only
  split <;> split <;> simp [ClientEffect.call?]

omit [DecidableEq ι] in
theorem apart_of_checkHandshake (client : Client ι) (now : Duration) (conn : Nat) (key : String) :
    ∀ effect ∈ (client.checkHandshake now conn key).2, effect.call? = none := by
  unfold checkHandshake
  split <;> simp [ClientEffect.call?]

theorem apart_of_step (apart : event.call? = none)
    (taken : client.step now event = some (after, effects)) : ∀ effect ∈ effects, effect.call? = none := by
  cases takes_of_step taken with
  | @join unique _ _ connecting starts =>
    obtain fails | ⟨store, before, channel, msg, -, -, -, sent⟩ :=
      client.joined.startHandshake_cases now client.channels.length unique
    · cases starts.symm.trans fails
      simp
    · have silent := apart_of_checkHandshake (Client.setChannel { client.joined with store := store }
        client.channels.length channel) now client.channels.length (client.joined.handshakeKey unique)
      rwa [← sent, starts] at silent
  | @check conn key _ _ handshaking checks =>
    have silent := apart_of_checkHandshake client now conn key
    rwa [checks] at silent
  | @pump conn _ _ _ stepped =>
    obtain ⟨channel, mid, output, next, first, -, -, handed, rest⟩ := stepPump_cases stepped
    have one := apart_of_takeOutput (client.setChannel conn mid) now conn output
    rw [handed] at one
    obtain ⟨-, rfl⟩ | ⟨last, more, second, -, handed', rfl⟩ := rest
    · exact one
    · have other := apart_of_takeOutput (next.setChannel conn last) now conn more
      rw [handed'] at other
      exact List.forall_mem_append.2 ⟨one, other⟩
  | call handles => cases apart.symm.trans handles.call?_eq
  | _ => simp [ClientEffect.call?]

/-! ## Steps that concern a call -/

/-- What a step does with the call that it is about. -/
inductive Tends (client : Client ι) (id : ι) :
    ClientEvent ι → Client ι → List (ClientEffect ι) → Prop where
  /-- It starts to wait, or has what it waited for and starts to wait for another thing. -/
  | begins {event : ClientEvent ι} {call : Call} {after : Client ι}
      (other : aimIn client.calls id ≠ some call.key?) (poll : call.poll = client.pollFor call.timeout)
      (calls : after.calls = (id, call) :: client.calls.filter (·.1 ≠ id)) :
      Tends client id event after [.sleepCall id client.config.pollInterval]
  /-- It goes on to sleep. -/
  | sleeps {call : Call} {after : Client ι} (held : callIn client.calls id = some call)
      (more : call.poll.slept.isExhausted = false)
      (calls : after.calls = (id, call.slept) :: client.calls.filter (·.1 ≠ id)) :
      Tends client id (.callSlept id true) after [.sleepCall id client.config.pollInterval]
  /-- It has slept as often as its poll allows. -/
  | expires {call : Call} {after : Client ι} (held : callIn client.calls id = some call)
      (spent : call.poll.slept.isExhausted = true)
      (calls : after.calls = client.calls.filter (·.1 ≠ id)) :
      Tends client id (.callSlept id true) after [.finish id call.expired]
  /-- Its sleep fails. -/
  | wakes {call : Call} {after : Client ι} (held : callIn client.calls id = some call)
      (calls : after.calls = client.calls.filter (·.1 ≠ id)) :
      Tends client id (.callSlept id false) after [.finish id call.expired]
  /-- It ends in time. -/
  | ends {event : ClientEvent ι} {result : CallResult} {after : Client ι}
      (intime : result.isTimeout = false) (calls : after.calls = client.calls.filter (·.1 ≠ id)) :
      Tends client id event after [.finish id result]
  /-- It is given up. -/
  | leaves {after : Client ι} (calls : after.calls = client.calls.filter (·.1 ≠ id)) :
      Tends client id (.dropCall id) after []

theorem callIn_of_placed {call : Call} (calls : after.calls = (id, call) :: client.calls.filter (·.1 ≠ id)) :
    callIn after.calls id = some call := by
  have found := client.desk.call?_place id id call
  rw [if_pos rfl] at found
  rw [calls]
  exact found

theorem callIn_of_dropped (calls : after.calls = client.calls.filter (·.1 ≠ id)) :
    callIn after.calls id = none := by
  have found := client.desk.call?_drop id id
  rw [if_pos rfl] at found
  rw [calls]
  exact found

theorem Tends.callIn_of_ne (tends : client.Tends id event after effects) {other : ι}
    (different : other ≠ id) : callIn after.calls other = callIn client.calls other := by
  have placed (call : Call) : callIn ((id, call) :: client.calls.filter (·.1 ≠ id)) other =
      callIn client.calls other := by
    have found := client.desk.call?_place id other call
    rwa [if_neg different] at found
  have dropped : callIn (client.calls.filter (·.1 ≠ id)) other = callIn client.calls other := by
    have found := client.desk.call?_drop id other
    rwa [if_neg different] at found
  cases tends with
  | begins _ _ calls | sleeps _ _ calls =>
    rw [calls]
    exact placed _
  | expires _ _ calls | wakes _ calls | ends _ calls | leaves calls =>
    rw [calls]
    exact dropped

theorem Tends.call?_eq (tends : client.Tends id event after effects) :
    ∀ effect ∈ effects, effect.call? = some id := by
  cases tends <;> simp [ClientEffect.call?]

/-! ### How a check ends -/

omit [DecidableEq ι] in
theorem isTimeout_of_refused {key : String} {msg : Message} {error : ClientError}
    (refused : client.register key msg = .refused after error) :
    (CallResult.failed error).isTimeout = false := by
  obtain rfl | ⟨cause, rfl⟩ | ⟨cause, rfl⟩ | ⟨rfl, -⟩ := error_of_refused refused <;> rfl

/-- A call that takes a reply out of the store ends with it. -/
def claim (client : Client ι) (id : ι) (bytes : Bytes) (store : PendingReplies) :
    Client ι × List (ClientEffect ι) :=
  let (client, result) := { client with store := store }.decodeReply bytes
  client.endCall id result

theorem send_outcomes (client : Client ι) (id : ι) (msg : Message) (timeout : Duration) :
    (∃ error, (CallResult.failed error).isTimeout = false ∧
      client.send id msg timeout = client.endCall id (.failed error)) ∨
    (∃ key bytes, client.store.get? key = some bytes ∧
      client.send id msg timeout = client.claim id bytes (client.store.erase key)) ∨
    (∃ key last, client.register key msg = .awaiting last ∧ last.calls = client.calls ∧
      last.config = client.config ∧
      client.send id msg timeout =
        last.sleepCall id (.awaitingReply key timeout (client.pollFor timeout))) := by
  unfold send
  split
  · exact .inl ⟨_, rfl, rfl⟩
  rename_i unclosed
  split
  · rename_i error unkeyed
    obtain ⟨lacking, -, rfl⟩ := KeyFields.keyFor_eq_error_iff.1 unkeyed
    exact .inl ⟨_, rfl, rfl⟩
  rename_i key keyed
  split
  · exact .inl ⟨_, rfl, rfl⟩
  unfold PendingReplies.remove
  cases found : client.store.get? key with
  | some bytes => exact .inr (.inl ⟨key, bytes, found, rfl⟩)
  | none =>
    dsimp only
    cases registered : client.register key msg with
    | refused last error =>
      cases eq_of_refused registered
      exact .inl ⟨error, isTimeout_of_refused registered, rfl⟩
    | awaiting last =>
      obtain ⟨error, refused, -⟩ | ⟨store, same, awaiting, begun, left, -⟩ := client.register_cases key msg
      · cases registered.symm.trans refused
      cases registered.symm.trans awaiting
      have config : last.config = client.config := congrArg Desk.config left
      have poll : last.pollFor timeout = client.pollFor timeout := by rw [pollFor, pollFor, config]
      have sleeps := checkReply_of_awaiting registered (by simpa using unclosed) found id timeout
      refine .inr (.inr ⟨key, last, registered, congrArg Desk.calls left, config, ?_⟩)
      rw [← poll]
      exact sleeps

theorem checkActive_outcomes (client : Client ι) (id : ι) (timeout : Duration) (poll : Poll)
    (next : Option Message) :
    (∃ result, result.isTimeout = false ∧
      client.checkActive id timeout poll next = client.endCall id result) ∨
    (∃ msg, client.checkActive id timeout poll next =
      client.send id msg client.config.responseTimeout) ∨
    (poll.isExhausted = true ∧
      client.checkActive id timeout poll next = client.endCall id (.failed (.handshakeTimeout timeout))) ∨
    (poll.isExhausted = false ∧
      client.checkActive id timeout poll next =
        client.sleepCall id (.awaitingActive timeout poll next)) := by
  have waits (found : Option Bool) :
      match poll.afterCheck found with
      | .ready _ => True
      | .expired _ => poll.isExhausted = true
      | .sleep => poll.isExhausted = false := by
    unfold Poll.afterCheck
    cases found with
    | some value => trivial
    | none => cases spent : poll.isExhausted <;> trivial
  unfold checkActive
  dsimp only
  generalize (if client.closed = true then some false
    else if client.state = .active then some true else none) = found
  have waits := waits found
  split
  · cases next with
    | none => exact .inl ⟨_, rfl, rfl⟩
    | some msg => exact .inr (.inl ⟨msg, rfl⟩)
  · exact .inl ⟨_, rfl, rfl⟩
  · rename_i expires
    rw [expires] at waits
    exact .inr (.inr (.inl ⟨waits, rfl⟩))
  · rename_i goes
    rw [goes] at waits
    exact .inr (.inr (.inr ⟨waits, rfl⟩))

theorem checkReply_outcomes (client : Client ι) (id : ι) (key : String) (timeout : Duration) (poll : Poll) :
    (∃ bytes, client.store.get? key = some bytes ∧ client.checkReply id key timeout poll =
      client.claim id bytes ((client.store.erase key).finish key)) ∨
    client.checkReply id key timeout poll =
      endCall { client with store := client.store.finish key } id (.failed .closed) ∨
    (poll.isExhausted = true ∧
      client.checkReply id key timeout poll = client.expireReply id key timeout) ∨
    (poll.isExhausted = false ∧ client.checkReply id key timeout poll =
      client.sleepCall id (.awaitingReply key timeout poll)) := by
  unfold checkReply PendingReplies.remove Poll.afterCheck
  cases found : client.store.get? key with
  | some bytes => exact .inl ⟨bytes, rfl, rfl⟩
  | none =>
    cases closed : client.closed with
    | true => exact .inr (.inl rfl)
    | false =>
      cases spent : poll.isExhausted with
      | true => exact .inr (.inr (.inl ⟨rfl, rfl⟩))
      | false => exact .inr (.inr (.inr ⟨rfl, rfl⟩))

/-! ### Events -/

theorem tends_of_claim (id : ι) (event : ClientEvent ι) (bytes : Bytes) (store : PendingReplies) :
    client.Tends id event (client.claim id bytes store).1 (client.claim id bytes store).2 := by
  obtain ⟨left, result⟩ := decodeReply_eq { client with store := store } bytes
  have calls : ({ client with store := store }.decodeReply bytes).1.calls = client.calls :=
    congrArg Desk.calls left
  unfold claim
  dsimp only
  rw [result]
  exact .ends (isTimeout_replyOf client.codec bytes) (by rw [endCall, calls])

theorem tends_of_send (other : ∀ key, aimIn client.calls id ≠ some (some key)) (msg : Message)
    (timeout : Duration) :
    client.Tends id event (client.send id msg timeout).1 (client.send id msg timeout).2 := by
  obtain ⟨error, intime, ends⟩ | ⟨key, bytes, -, claims⟩ | ⟨key, last, -, calls, config, sleeps⟩ :=
    client.send_outcomes id msg timeout
  · rw [ends]
    exact .ends intime rfl
  · rw [claims]
    exact tends_of_claim id event bytes _
  · rw [sleeps, sleepCall, calls, config]
    exact @Tends.begins ι _ client id event (.awaitingReply key timeout (client.pollFor timeout)) _
      (other key) rfl rfl

theorem tends_of_checkReply {key : String} {timeout : Duration} {poll : Poll}
    (held : callIn client.calls id = some (.awaitingReply key timeout poll)) :
    client.Tends id (.callSlept id true) (client.checkReply id key timeout poll.slept).1
      (client.checkReply id key timeout poll.slept).2 := by
  obtain ⟨bytes, -, claims⟩ | ends | ⟨spent, expires⟩ | ⟨more, sleeps⟩ :=
    client.checkReply_outcomes id key timeout poll.slept
  · rw [claims]
    exact tends_of_claim id _ bytes _
  · rw [ends]
    exact .ends rfl rfl
  · rw [expires]
    exact .expires held spent rfl
  · rw [sleeps]
    exact .sleeps held more rfl

theorem tends_of_handles (handles : client.Handles id event after effects) :
    client.Tends id event after effects := by
  cases handles with
  | @send msg timeout _ _ free sends =>
    have absent : aimIn client.calls id = none := congrArg (Option.map _) free
    have tends := @tends_of_send ι _ client (.send id msg timeout) id (by simp [absent]) msg timeout
    rwa [sends] at tends
  | @await timeout next _ _ free checks =>
    have absent : aimIn client.calls id = none := congrArg (Option.map _) free
    obtain ⟨result, intime, ends⟩ | ⟨msg, sends⟩ | ⟨spent, -⟩ | ⟨-, goes⟩ :=
      client.checkActive_outcomes id timeout (client.pollFor timeout) next
    · cases checks.symm.trans ends
      exact .ends intime rfl
    · have tends := @tends_of_send ι _ client (.awaitActive id timeout next) id (by simp [absent]) msg
        client.config.responseTimeout
      rwa [← sends, checks] at tends
    · cases (client.isExhausted_pollFor timeout).symm.trans spent
    · cases checks.symm.trans goes
      exact .begins (by simp [absent]) rfl rfl
  | checkReply held checks =>
    have tends := tends_of_checkReply held
    rwa [checks] at tends
  | @checkActive timeout poll next _ _ held checks =>
    have aim : aimIn client.calls id = some none := congrArg (Option.map _) held
    obtain ⟨result, intime, ends⟩ | ⟨msg, sends⟩ | ⟨spent, expires⟩ | ⟨more, goes⟩ :=
      client.checkActive_outcomes id timeout poll.slept next
    · cases checks.symm.trans ends
      exact .ends intime rfl
    · have tends := @tends_of_send ι _ client (.callSlept id true) id (by simp [aim]) msg
        client.config.responseTimeout
      rwa [← sends, checks] at tends
    · cases checks.symm.trans expires
      exact .expires held spent rfl
    · cases checks.symm.trans goes
      exact .sleeps held more rfl
  | wakeReply held | wakeActive held => exact .wakes held rfl
  | dropReply | dropActive => exact .leaves rfl

/-- A step that concerns another call, or none, leaves a call as it is and asks for nothing of it. -/
theorem step_of_call?_ne (apart : event.call? ≠ some id)
    (taken : client.step now event = some (after, effects)) :
    callIn after.calls id = callIn client.calls id ∧ ∀ effect ∈ effects, effect.call? ≠ some id := by
  cases about : event.call? with
  | none =>
    refine ⟨by rw [(calls_of_step about taken).1], fun effect mem => ?_⟩
    rw [apart_of_step about taken effect mem]
    simp
  | some other =>
    have tends := tends_of_handles (handles_of_step about taken)
    have different : id ≠ other := fun same => apart (same ▸ about)
    refine ⟨tends.callIn_of_ne different, fun effect mem same => different ?_⟩
    exact Option.some.inj (same.symm.trans (tends.call?_eq effect mem))

end Client

end Iso8583
