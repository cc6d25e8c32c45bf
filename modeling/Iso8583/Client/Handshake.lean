import Iso8583.Client.State

/-!
# Handshakes

Every message received is stored under its key. The session task sends a handshake on each new
connection and finds the reply in the same store.
-/

namespace Iso8583.Client

variable {ι : Type} [DecidableEq ι]

/-! ## Recording what is read -/

/-- Stores a message under its key, or counts it as dropped if it has no key or no payload. -/
def record (client : Client ι) (msg : Message) : Client ι :=
  match client.config.keyFields.keyFor msg with
  | .error _ => client.count fun m => { m with framesDropped := m.framesDropped + 1 }
  | .ok key =>
    match client.codec.encode msg with
    | .error _ => client.count fun m => { m with framesDropped := m.framesDropped + 1 }
    | .ok bytes =>
      { client with store := (client.store.put key bytes).2 }.count fun m =>
        { m with repliesReceived := m.repliesReceived + 1 }

def take (client : Client ι) : ReaderCall Unit → Client ι
  | .message _ msg => client.record msg
  | .dropped _ _ => client.count fun m => { m with framesDropped := m.framesDropped + 1 }

/-! ## The handshake -/

/-- Ends the handshake on a connection. If its reply came, and the channel has not ended, the session
is active; otherwise the channel is asked to end. -/
def endHandshake (client : Client ι) (now : Duration) (conn : Nat) (acknowledged : Bool) :
    Client ι :=
  let client := { client with session := .attached conn }
  let isOpen := (client.channels[conn]?).any (·.isOpen)
  if acknowledged && isOpen then
    (client.count fun m =>
      { m with handshakesCompleted := m.handshakesCompleted + 1, lastActiveAt := some now })
      |>.setState .active
  else client.closeChannel conn

/-- Looks for the reply to the handshake, and sleeps if it is not there. -/
def checkHandshake (client : Client ι) (now : Duration) (conn : Nat) (key : String) :
    Client ι × List (ClientEffect ι) :=
  match client.store.remove key with
  | (some bytes, store) =>
    let acknowledged := (client.codec.decode bytes).isOk
    ({ client with store := store.finish key }.endHandshake now conn acknowledged, [])
  | (none, _) =>
    ({ client with session := .handshaking conn key }, [.sleepSession client.config.pollInterval])

/-- Sends a handshake with a key of its own on a connection and looks for the reply. -/
def startHandshake (client : Client ι) (now : Duration) (conn : Nat) (unique : Nat → String) :
    Client ι × List (ClientEffect ι) :=
  let (key, request) := client.config.keyFields.stamp unique 0 ⟨handshakeMti, .empty⟩
  match client.store.begin? key, client.channels[conn]? with
  | some store, some channel =>
    match channel.write client.codec request with
    | .ok channel =>
      { client with store := store }.setChannel conn channel |>.checkHandshake now conn key
    | .error _ => (client.endHandshake now conn false, [])
  | _, _ => (client.endHandshake now conn false, [])

/-- The client after its session task has stopped waiting for whatever it waits for. -/
def cancelWait (client : Client ι) : Client ι :=
  match client.session with
  | .handshaking _ key => { client with store := client.store.finish key }
  | _ => client

/-- The event of the session task that is due without anything else happening. -/
def sessionEvent? (client : Client ι) : Option (ClientEvent ι) :=
  let ended (conn : Nat) : Option (ClientEvent ι) :=
    if (client.channels[conn]?).any (·.released) then some .connectionEnded else none
  if client.shutdown && client.session ≠ .finished then some .sessionShutDown
  else match client.session with
    | .idle => some .attempt
    | .handshaking conn _ => ended conn
    | .attached conn => ended conn
    | _ => none

end Iso8583.Client
