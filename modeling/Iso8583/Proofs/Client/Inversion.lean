import Iso8583.Proofs.Client.Run

/-!
# What a step can do

Each event of a client, with the condition under which it can happen and what the client is afterwards.
-/

namespace Iso8583

variable {ι : Type} [DecidableEq ι]

theorem callIn_eq_none_iff {calls : List (ι × Call)} {id : ι} :
    callIn calls id = none ↔ calls.any (·.1 = id) = false := by
  simp [callIn, List.find?_eq_none, List.any_eq_false]

namespace Client

/-- The channel of a connection right after it was bound. -/
def boundChannel : Channel Unit Unit :=
  { newChannel with
    status := .live
    outbox := newChannel.outbox.bind
    onConnected := none
    pump := .waiting }

/-- The client with a new connection, before the handshake. -/
def joined (client : Client ι) : Client ι :=
  setState
    { client.count fun m => { m with sessionsEstablished := m.sessionsEstablished + 1 } with
      channels := client.channels ++ [boundChannel]
      current := some client.channels.length }
    .awaitingHandshakeAck

theorem step_connected (client : Client ι) (now : Duration) (unique : Nat → String) :
    client.step now (.connected unique) =
      if client.session = .connecting then
        some (client.joined.startHandshake now client.channels.length unique)
      else none := rfl

variable {client after : Client ι} {now : Duration} {event : ClientEvent ι}
  {effects : List (ClientEffect ι)} {id : ι}

theorem step_connected_eq_some_iff {unique : Nat → String} :
    client.step now (.connected unique) = some (after, effects) ↔ client.session = .connecting ∧
      client.joined.startHandshake now client.channels.length unique = (after, effects) := by
  rw [step_connected, Option.ite_none_right_eq_some, Option.some.injEq]

/-! ## Calls -/

theorem step_send (free : callIn client.calls id = none) (now : Duration) (msg : Message)
    (timeout : Duration) :
    client.step now (.send id msg timeout) = some (client.send id msg timeout) := by
  simp only [step, callIn_eq_none_iff.1 free, Bool.false_eq_true, if_false]

theorem step_awaitActive (free : callIn client.calls id = none) (now timeout : Duration)
    (next : Option Message) :
    client.step now (.awaitActive id timeout next) =
      some (client.checkActive id timeout (client.pollFor timeout) next) := by
  simp only [step, callIn_eq_none_iff.1 free, Bool.false_eq_true, if_false]

theorem step_callSlept_reply {key : String} {timeout : Duration} {poll : Poll}
    (held : callIn client.calls id = some (.awaitingReply key timeout poll)) (now : Duration) :
    client.step now (.callSlept id true) = some (client.checkReply id key timeout poll.slept) := by
  obtain ⟨entry, found, same⟩ := Option.map_eq_some_iff.1 held
  simp only [step, found]
  simp [same]

theorem step_callSlept_active {timeout : Duration} {poll : Poll} {next : Option Message}
    (held : callIn client.calls id = some (.awaitingActive timeout poll next)) (now : Duration) :
    client.step now (.callSlept id true) = some (client.checkActive id timeout poll.slept next) := by
  obtain ⟨entry, found, same⟩ := Option.map_eq_some_iff.1 held
  simp only [step, found]
  simp [same]

inductive Handles (client : Client ι) (id : ι) :
    ClientEvent ι → Client ι → List (ClientEffect ι) → Prop where
  | send {msg : Message} {timeout : Duration} {after : Client ι} {effects : List (ClientEffect ι)}
      (free : callIn client.calls id = none) (sends : client.send id msg timeout = (after, effects)) :
      Handles client id (.send id msg timeout) after effects
  | await {timeout : Duration} {next : Option Message} {after : Client ι}
      {effects : List (ClientEffect ι)} (free : callIn client.calls id = none)
      (checks : client.checkActive id timeout (client.pollFor timeout) next = (after, effects)) :
      Handles client id (.awaitActive id timeout next) after effects
  | checkReply {key : String} {timeout : Duration} {poll : Poll} {after : Client ι}
      {effects : List (ClientEffect ι)}
      (held : callIn client.calls id = some (.awaitingReply key timeout poll))
      (checks : client.checkReply id key timeout poll.slept = (after, effects)) :
      Handles client id (.callSlept id true) after effects
  | checkActive {timeout : Duration} {poll : Poll} {next : Option Message} {after : Client ι}
      {effects : List (ClientEffect ι)}
      (held : callIn client.calls id = some (.awaitingActive timeout poll next))
      (checks : client.checkActive id timeout poll.slept next = (after, effects)) :
      Handles client id (.callSlept id true) after effects
  | wakeReply {key : String} {timeout : Duration} {poll : Poll}
      (held : callIn client.calls id = some (.awaitingReply key timeout poll)) :
      Handles client id (.callSlept id false) (client.expireReply id key timeout).1
        [.finish id (.failed (.responseTimeout key timeout))]
  | wakeActive {timeout : Duration} {poll : Poll} {next : Option Message}
      (held : callIn client.calls id = some (.awaitingActive timeout poll next)) :
      Handles client id (.callSlept id false) { client with calls := client.calls.filter (·.1 ≠ id) }
        [.finish id (.failed (.handshakeTimeout timeout))]
  | dropReply {key : String} {timeout : Duration} {poll : Poll}
      (held : callIn client.calls id = some (.awaitingReply key timeout poll)) :
      Handles client id (.dropCall id)
        { client with calls := client.calls.filter (·.1 ≠ id), store := client.store.finish key } []
  | dropActive {timeout : Duration} {poll : Poll} {next : Option Message}
      (held : callIn client.calls id = some (.awaitingActive timeout poll next)) :
      Handles client id (.dropCall id) { client with calls := client.calls.filter (·.1 ≠ id) } []

theorem Handles.call?_eq (handles : client.Handles id event after effects) : event.call? = some id := by
  cases handles <;> rfl

theorem handles_of_step (about : event.call? = some id)
    (taken : client.step now event = some (after, effects)) : client.Handles id event after effects := by
  have held {entry : ι × Call} (found : client.calls.find? (·.1 = id) = some entry) :
      callIn client.calls id = some entry.2 := Option.map_eq_some_iff.2 ⟨entry, found, rfl⟩
  cases event with
  | send =>
    cases about
    simp only [step, Option.ite_none_left_eq_some, Option.some.injEq, Bool.not_eq_true] at taken
    exact .send (callIn_eq_none_iff.2 taken.1) taken.2
  | awaitActive =>
    cases about
    simp only [step, Option.ite_none_left_eq_some, Option.some.injEq, Bool.not_eq_true] at taken
    exact .await (callIn_eq_none_iff.2 taken.1) taken.2
  | callSlept caller ok =>
    cases about
    obtain ⟨⟨name, call⟩, found, taken⟩ := Option.bind_eq_some_iff.1 taken
    cases call with
    | awaitingReply key timeout poll =>
      cases ok with
      | true => exact .checkReply (held found) (Option.some.inj taken)
      | false =>
        cases taken
        exact .wakeReply (held found)
    | awaitingActive timeout poll next =>
      cases ok with
      | true => exact .checkActive (held found) (Option.some.inj taken)
      | false =>
        cases taken
        exact .wakeActive (held found)
  | dropCall =>
    cases about
    obtain ⟨⟨name, call⟩, found, taken⟩ := Option.bind_eq_some_iff.1 taken
    cases call with
    | awaitingReply key timeout poll =>
      cases taken
      exact .dropReply (held found)
    | awaitingActive timeout poll next =>
      cases taken
      exact .dropActive (held found)
  | _ => cases about

/-! ## All events -/

inductive Takes (client : Client ι) (now : Duration) :
    ClientEvent ι → Client ι → List (ClientEffect ι) → Prop where
  | attempt (idle : client.session = .idle) :
      Takes client now .attempt
        { (client.setState .connecting).count fun m =>
            { m with connectionAttempts := m.connectionAttempts + 1 } with session := .connecting }
        [.connect]
  | join {unique : Nat → String} {after : Client ι} {effects : List (ClientEffect ι)}
      (connecting : client.session = .connecting)
      (starts : client.joined.startHandshake now client.channels.length unique = (after, effects)) :
      Takes client now (.connected unique) after effects
  | fail (connecting : client.session = .connecting) :
      Takes client now .connectFailed
        { (client.count fun m => { m with connectionFailures := m.connectionFailures + 1 }).setState
            .disconnected with session := .pausing }
        [.sleepSession client.config.reconnectDelay]
  | rest {ok : Bool} (pausing : client.session = .pausing) :
      Takes client now (.sessionSlept ok) { client with session := .idle } []
  | check {conn : Nat} {key : String} {after : Client ι} {effects : List (ClientEffect ι)}
      (handshaking : client.session = .handshaking conn key)
      (checks : client.checkHandshake now conn key = (after, effects)) :
      Takes client now (.sessionSlept true) after effects
  | interrupt {conn : Nat} {key : String} (handshaking : client.session = .handshaking conn key) :
      Takes client now (.sessionSlept false) (client.cancelWait.endHandshake now conn false) []
  | lose {conn : Nat} {key : String} (handshaking : client.session = .handshaking conn key)
      (released : (client.channels[conn]?).any (·.released) = true) :
      Takes client now .connectionEnded { client.cancelWait with session := .idle } []
  | leave {conn : Nat} (attached : client.session = .attached conn)
      (released : (client.channels[conn]?).any (·.released) = true) :
      Takes client now .connectionEnded { client with session := .idle } []
  | finish (asked : client.shutdown = true) (unfinished : client.session ≠ .finished)
      (current : client.cancelWait.current = none) :
      Takes client now .sessionShutDown
        { client.cancelWait.setState .disconnected with session := .finished } []
  /-- The connection is given up. -/
  | finishOn {conn : Nat} (asked : client.shutdown = true) (unfinished : client.session ≠ .finished)
      (current : client.cancelWait.current = some conn) :
      Takes client now .sessionShutDown
        { setState { client.cancelWait.closeChannel conn with current := none } .disconnected with
          session := .finished } []
  | pump {conn : Nat} {step : PumpStep} {after : Client ι} {effects : List (ClientEffect ι)}
      (stepped : client.stepPump now conn step = some (after, effects)) :
      Takes client now (.pump conn step) after effects
  | call {event : ClientEvent ι} {id : ι} {after : Client ι} {effects : List (ClientEffect ι)}
      (handles : client.Handles id event after effects) : Takes client now event after effects
  | close (kept : client.handle = .kept) :
      Takes client now .close { client.shut with handle := .awaited } []
  /-- Nobody awaits the session task any more. -/
  | closeAtOnce (spent : client.handle = .spent) :
      Takes client now .close (client.shut.setState .disconnected) []
  | dropClose (awaited : client.handle = .awaited) :
      Takes client now .dropClose { client with handle := .spent } []
  | settle (awaited : client.handle = .awaited) (finished : client.session = .finished) :
      Takes client now .closingDone { client.setState .disconnected with handle := .spent } []
  | drop (free : client.handle = .kept ∨ client.handle = .spent) :
      Takes client now .drop { client.shut with handle := .dropped } []

theorem takes_of_step (taken : client.step now event = some (after, effects)) :
    client.Takes now event after effects := by
  cases event with
  | attempt =>
    simp only [step, Option.ite_none_right_eq_some, Option.some.injEq] at taken
    obtain ⟨idle, same⟩ := taken
    cases same
    exact .attempt idle
  | connected unique =>
    obtain ⟨connecting, starts⟩ := step_connected_eq_some_iff.1 taken
    exact .join connecting starts
  | connectFailed =>
    simp only [step, Option.ite_none_right_eq_some, Option.some.injEq] at taken
    obtain ⟨connecting, same⟩ := taken
    cases same
    exact .fail connecting
  | sessionSlept ok =>
    simp only [step] at taken
    split at taken
    · rename_i pausing
      cases taken
      exact .rest pausing
    · rename_i conn key handshaking
      cases ok with
      | true => exact .check handshaking (Option.some.inj taken)
      | false =>
        cases taken
        exact .interrupt handshaking
    · cases taken
  | connectionEnded =>
    simp only [step] at taken
    split at taken
    · rename_i conn key handshaking
      simp only [Option.ite_none_right_eq_some, Option.some.injEq] at taken
      obtain ⟨released, same⟩ := taken
      cases same
      exact .lose handshaking released
    · rename_i conn attached
      simp only [Option.ite_none_right_eq_some, Option.some.injEq] at taken
      obtain ⟨released, same⟩ := taken
      cases same
      exact .leave attached released
    · cases taken
  | sessionShutDown =>
    simp only [step, Option.ite_none_right_eq_some, Option.some.injEq] at taken
    obtain ⟨⟨asked, unfinished⟩, same⟩ := taken
    cases same
    split
    · rename_i conn current
      exact .finishOn asked unfinished current
    · rename_i current
      exact .finish asked unfinished current
  | pump conn step => exact .pump taken
  | send | awaitActive | callSlept | dropCall => exact .call (handles_of_step rfl taken)
  | close =>
    simp only [step] at taken
    split at taken
    · rename_i kept
      cases taken
      exact .close kept
    · rename_i spent
      cases taken
      exact .closeAtOnce spent
    · cases taken
    · cases taken
  | dropClose =>
    simp only [step, Option.ite_none_right_eq_some, Option.some.injEq] at taken
    obtain ⟨awaited, same⟩ := taken
    cases same
    exact .dropClose awaited
  | closingDone =>
    simp only [step, Option.ite_none_right_eq_some, Option.some.injEq] at taken
    obtain ⟨⟨awaited, finished⟩, same⟩ := taken
    cases same
    exact .settle awaited finished
  | drop =>
    simp only [step] at taken
    split at taken
    · rename_i kept
      cases taken
      exact .drop (.inl kept)
    · rename_i spent
      cases taken
      exact .drop (.inr spent)
    · cases taken
    · cases taken

end Client

end Iso8583
