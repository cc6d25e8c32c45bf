import Iso8583.Client.State

/-!
# Calls

A call sends a request and polls the store for the reply under the request's key, or polls for an active
session.
-/

namespace Iso8583.Client

variable {ι : Type} [DecidableEq ι]

def decodeReply (client : Client ι) (bytes : Bytes) : Client ι × CallResult :=
  match client.codec.decode bytes with
  | .ok msg =>
    (client.count fun m => { m with repliesClaimed := m.repliesClaimed + 1 }, .replied msg)
  | .error error => (client, .failed (.codec error))

/-- The poll of a call that waits for a given time at most. -/
def pollFor (client : Client ι) (timeout : Duration) : Poll :=
  ⟨client.config.pollInterval, .ofTimeout timeout client.config.pollInterval, 0⟩

def endCall (client : Client ι) (id : ι) (result : CallResult) :
    Client ι × List (ClientEffect ι) :=
  ({ client with calls := client.calls.filter (·.1 ≠ id) }, [.finish id result])

/-- Puts a call in place of the one of its name, or adds it, and lets it sleep. -/
def sleepCall (client : Client ι) (id : ι) (call : Call) : Client ι × List (ClientEffect ι) :=
  ({ client with calls := (id, call) :: client.calls.filter (·.1 ≠ id) },
   [.sleepCall id client.config.pollInterval])

def expireReply (client : Client ι) (id : ι) (key : String) (timeout : Duration) :
    Client ι × List (ClientEffect ι) :=
  { client with store := client.store.finish key }
    |>.count (fun m => { m with responseTimeouts := m.responseTimeouts + 1 })
    |>.endCall id (.failed (.responseTimeout key timeout))

/-- Checks for the reply that a call waits for. A reply that is there counts even if the client is
closed. -/
def checkReply (client : Client ι) (id : ι) (key : String) (timeout : Duration) (poll : Poll) :
    Client ι × List (ClientEffect ι) :=
  let (bytes?, store) := client.store.remove key
  let found : Option (Option Bytes) :=
    match bytes? with
    | some bytes => some (some bytes)
    | none => if client.closed then some none else none
  match poll.afterCheck found with
  | .ready (some bytes) =>
    let (client, result) := { client with store := store.finish key }.decodeReply bytes
    client.endCall id result
  | .ready none =>
    { client with store := client.store.finish key }.endCall id (.failed .closed)
  | .expired _ => client.expireReply id key timeout
  | .sleep => client.sleepCall id (.awaitingReply key timeout poll)

/-- What becomes of a request that is not answered yet. -/
inductive Sent (ι : Type) where
  /-- It is refused. -/
  | refused (client : Client ι) (error : ClientError)
  /-- Its reply is awaited. -/
  | awaiting (client : Client ι)

/-- Lets the registration of a key go. -/
def release (client : Client ι) (key : String) : Client ι :=
  { client with store := client.store.finish key }

/-- Registers a key and queues its request. A message that cannot be framed is refused, and lets the
registration go. If the channel does not take the request for another reason, it is asked to end, but the
reply is awaited all the same. -/
def register (client : Client ι) (key : String) (msg : Message) : Sent ι :=
  match client.current with
  | none => .refused client .notActive
  | some conn =>
    match client.channels[conn]?, client.store.begin? key with
    | some channel, some store =>
      let registered := { client with store := store }
      match channel.write client.codec msg with
      | .ok channel =>
        .awaiting ((registered.setChannel conn channel).count fun m =>
          { m with requestsSent := m.requestsSent + 1 })
      | .error (.codec error) => .refused (registered.release key) (.codec error)
      | .error (.wire error) => .refused (registered.release key) (.wire error)
      | .error _ => .awaiting (registered.closeChannel conn)
    | some _, none => .refused client (.duplicateKey key)
    | none, _ => .refused client .notActive

/-- Starts a call that sends a request: the checks in order, a reply that is already there, and then
the request itself. -/
def send (client : Client ι) (id : ι) (msg : Message) (timeout : Duration) :
    Client ι × List (ClientEffect ι) :=
  if client.closed then client.endCall id (.failed .closed)
  else match client.config.keyFields.keyFor msg with
    | .error error => client.endCall id (.failed error)
    | .ok key =>
      if client.store.isInFlight key then client.endCall id (.failed (.duplicateKey key))
      else match client.store.remove key with
        | (some bytes, store) =>
          let (client, result) := { client with store := store }.decodeReply bytes
          client.endCall id result
        | (none, _) =>
          match client.register key msg with
          | .refused client error => client.endCall id (.failed error)
          | .awaiting client => client.checkReply id key timeout (client.pollFor timeout)

/-- Checks for the active session that a call waits for. -/
def checkActive (client : Client ι) (id : ι) (timeout : Duration) (poll : Poll)
    (next : Option Message) : Client ι × List (ClientEffect ι) :=
  let found : Option Bool :=
    if client.closed then some false
    else if client.state = .active then some true
    else none
  match poll.afterCheck found with
  | .ready true =>
    match next with
    | none => client.endCall id .activated
    | some msg => client.send id msg client.config.responseTimeout
  | .ready false => client.endCall id (.failed .closed)
  | .expired _ => client.endCall id (.failed (.handshakeTimeout timeout))
  | .sleep => client.sleepCall id (.awaitingActive timeout poll next)

end Iso8583.Client
