import Iso8583.Client.Call
import Iso8583.Client.Handshake

/-!
# Clients

A client keeps one session to its peer at a time. Its session task connects, sends a handshake and
waits for the reply, and starts over when the connection is lost. Every message received is stored
under its key, and each call polls the store for the reply to its own request.

`Client.step` says what each event does. Between two steps every task waits; which of the possible
events comes next is up to the environment.
-/

namespace Iso8583.Client

variable {ι : Type} [DecidableEq ι]

/-! ## Steps of a pump -/

def disconnect (client : Client ι) (now : Duration) : Client ι :=
  { client with current := none }
    |>.count (fun m =>
      { m with disconnects := m.disconnects + 1, lastDisconnectAt := some now })
    |>.setState .disconnected

def takeOutput (client : Client ι) (now : Duration) (conn : Nat) (output : PumpOutput Unit Unit) :
    Client ι × List (ClientEffect ι) :=
  let client := output.calls.foldl take client
  let client := if output.disconnected.isSome then client.disconnect now else client
  (client, (if output.written.isEmpty then [] else [.write conn output.written]) ++
    if output.hungUp then [.hangUp conn] else [])

/-- One step of a connection's pump. What is read is handed on at once. -/
def stepPump (client : Client ι) (now : Duration) (conn : Nat) (step : PumpStep) :
    Option (Client ι × List (ClientEffect ι)) := do
  let channel ← client.channels[conn]?
  let (channel, output) ← channel.step client.codec.decode step
  let (client, effects) := (client.setChannel conn channel).takeOutput now conn output
  match step with
  | .received _ =>
    let (channel, output) ← channel.step client.codec.decode .dispatched
    let (client, more) := (client.setChannel conn channel).takeOutput now conn output
    return (client, effects ++ more)
  | _ => return (client, effects)

/-! ## Steps -/

/-- One step at time `now`; nothing if it cannot happen now. -/
def step (client : Client ι) (now : Duration) :
    ClientEvent ι → Option (Client ι × List (ClientEffect ι))
  | .attempt =>
    if client.session = .idle then
      let client := client.setState .connecting |>.count fun m =>
        { m with connectionAttempts := m.connectionAttempts + 1 }
      some ({ client with session := .connecting }, [.connect])
    else none
  | .connected unique =>
    if client.session = .connecting then
      let conn := client.channels.length
      let client := client.count fun m =>
        { m with sessionsEstablished := m.sessionsEstablished + 1 }
      match newChannel.bind with
      | .ok (channel, connected) =>
        let client :=
          { client with channels := client.channels ++ [channel], current := some conn }
        let client := if connected.isSome then client.setState .awaitingHandshakeAck else client
        some (client.startHandshake now conn unique)
      | .error _ => some ({ client with session := .idle }, [])
    else none
  | .connectFailed =>
    if client.session = .connecting then
      let client := client.count fun m => { m with connectionFailures := m.connectionFailures + 1 }
      let client := client.setState .disconnected
      some ({ client with session := .pausing }, [.sleepSession client.config.reconnectDelay])
    else none
  | .sessionSlept ok =>
    match client.session with
    | .pausing => some ({ client with session := .idle }, [])
    | .handshaking conn key =>
      if ok then some (client.checkHandshake now conn key)
      else some (client.cancelWait.endHandshake now conn false, [])
    | _ => none
  | .connectionEnded =>
    let ended (conn : Nat) : Bool := (client.channels[conn]?).any (·.released)
    match client.session with
    | .handshaking conn _ =>
      if ended conn then some ({ client.cancelWait with session := .idle }, []) else none
    | .attached conn => if ended conn then some ({ client with session := .idle }, []) else none
    | _ => none
  | .sessionShutDown =>
    if client.shutdown ∧ client.session ≠ .finished then
      let client := client.cancelWait
      let client := match client.current with
        | some conn => { client.closeChannel conn with current := none }
        | none => client
      some ({ client.setState .disconnected with session := .finished }, [])
    else none
  | .pump conn step => client.stepPump now conn step
  | .send id msg timeout =>
    if client.calls.any (·.1 = id) then none else some (client.send id msg timeout)
  | .awaitActive id timeout next =>
    if client.calls.any (·.1 = id) then none
    else some (client.checkActive id timeout (client.pollFor timeout) next)
  | .callSlept id ok => do
    let (_, call) ← client.calls.find? (·.1 = id)
    match call, ok with
    | .awaitingReply key timeout poll, true =>
      return client.checkReply id key timeout poll.slept
    | .awaitingReply key timeout _, false => return client.expireReply id key timeout
    | .awaitingActive timeout poll next, true =>
      return client.checkActive id timeout poll.slept next
    | .awaitingActive timeout _ _, false =>
      return client.endCall id (.failed (.handshakeTimeout timeout))
  | .dropCall id => do
    let (_, call) ← client.calls.find? (·.1 = id)
    let client := { client with calls := client.calls.filter (·.1 ≠ id) }
    match call with
    | .awaitingReply key .. => return ({ client with store := client.store.finish key }, [])
    | .awaitingActive .. => return (client, [])
  | .close =>
    match client.handle with
    | .kept => some ({ client.shut with handle := .awaited }, [])
    -- With no handle to await, the close is over at once, whatever the session task still does.
    | .spent => some (client.shut.setState .disconnected, [])
    | .awaited | .dropped => none
  | .dropClose =>
    if client.handle = .awaited then some ({ client with handle := .spent }, []) else none
  | .closingDone =>
    if client.handle = .awaited ∧ client.session = .finished then
      some ({ client.setState .disconnected with handle := .spent }, [])
    else none
  | .drop =>
    match client.handle with
    | .kept | .spent => some ({ client.shut with handle := .dropped }, [])
    | .awaited | .dropped => none

end Iso8583.Client
