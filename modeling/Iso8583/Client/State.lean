import Iso8583.Channel
import Iso8583.Config
import Iso8583.Metrics
import Iso8583.Poll

/-!
# The state of a client

What a client holds, what can happen to it, and what it asks of its environment.
-/

namespace Iso8583

/-- Where a client is in the life of its session. -/
inductive SessionState where
  | disconnected
  | connecting
  | awaitingHandshakeAck
  | active
  deriving DecidableEq, Repr

/-- What the session task is waiting for. -/
inductive SessionTask where
  /-- Nothing: the next attempt to connect starts. -/
  | idle
  /-- The outcome of an attempt to connect. -/
  | connecting
  /-- The end of the pause after a failed attempt. -/
  | pausing
  /-- The reply to the handshake on a connection, under its key, or the end of the connection. -/
  | handshaking (conn : Nat) (key : String)
  /-- The end of a connection. -/
  | attached (conn : Nat)
  /-- Nothing any more. -/
  | finished
  deriving DecidableEq, Repr

/-- Who can await the end of the session task. -/
inductive SessionHandle where
  /-- The client, which has not been closed. -/
  | kept
  /-- A close that goes on. -/
  | awaited
  /-- No one any more, since a close took the handle. It is over, or was given up. -/
  | spent
  /-- No one any more, since the client was given up. -/
  | dropped
  deriving DecidableEq, Repr

/-- A call that goes on. -/
inductive Call where
  /-- It polls for the reply under a key. -/
  | awaitingReply (key : String) (timeout : Duration) (poll : Poll)
  /-- It polls for an active session, and then perhaps sends a message. -/
  | awaitingActive (timeout : Duration) (poll : Poll) (next : Option Message)

/-- How a call ends. -/
inductive CallResult where
  | replied (msg : Message)
  | activated
  | failed (error : ClientError)
  deriving DecidableEq

/-- A client. Connections, and their channels, are numbered from zero; calls are named by `ι`. -/
structure Client (ι : Type) where
  config : ClientConfig
  codec : Codec
  /-- Whether the client was closed or given up. -/
  closed : Bool := false
  /-- Whether the session task has been asked to finish. -/
  shutdown : Bool := false
  handle : SessionHandle := .kept
  state : SessionState := .disconnected
  /-- The states set so far, the last one first. -/
  states : List SessionState := []
  metrics : Metrics := {}
  store : PendingReplies
  channels : List (Channel Unit Unit) := []
  current : Option Nat := none
  session : SessionTask := .idle
  calls : List (ι × Call) := []

/-- Something that happens to a client. -/
inductive ClientEvent (ι : Type) where
  /-- The session task starts an attempt to connect. -/
  | attempt
  /-- The attempt succeeds. `unique` numbers the identifiers generated for the handshake. -/
  | connected (unique : Nat → String)
  /-- The attempt fails or takes too long. -/
  | connectFailed
  /-- The sleep of the session task ends, or fails. -/
  | sessionSlept (ok : Bool)
  /-- The session task sees that its connection has ended. -/
  | connectionEnded
  /-- The session task takes the request to finish. -/
  | sessionShutDown
  /-- A step of a connection's pump. -/
  | pump (conn : Nat) (step : PumpStep)
  /-- A call sends a request and awaits its reply. -/
  | send (id : ι) (msg : Message) (timeout : Duration)
  /-- A call awaits an active session, and then perhaps sends a message. -/
  | awaitActive (id : ι) (timeout : Duration) (next : Option Message)
  /-- The sleep of a call ends, or fails. -/
  | callSlept (id : ι) (ok : Bool)
  /-- A call is given up. -/
  | dropCall (id : ι)
  /-- The client is asked to close. -/
  | close
  /-- A close that goes on is given up. -/
  | dropClose
  /-- A close that goes on is over, since the session task has finished. -/
  | closingDone
  /-- The client is given up. -/
  | drop

/-- What a client asks of its environment in a step. -/
inductive ClientEffect (ι : Type) where
  /-- A connection to the configured address. -/
  | connect
  /-- A sleep of the session task. -/
  | sleepSession (time : Duration)
  /-- A sleep of a call. -/
  | sleepCall (id : ι) (time : Duration)
  /-- The result of a call for its caller. -/
  | finish (id : ι) (result : CallResult)
  /-- Bytes for a connection. -/
  | write (conn : Nat) (bytes : Bytes)
  /-- The end of a connection. -/
  | hangUp (conn : Nat)

namespace Client

variable {ι : Type} [DecidableEq ι]

def new (config : ClientConfig) (codec : Codec) : Client ι :=
  { config := config, codec := codec, store := .ofLimit config.maxPendingReplies }

/-! ## Parts of steps -/

def setState (client : Client ι) (state : SessionState) : Client ι :=
  { client with state := state, states := state :: client.states }

/-- How often the state has been set: a watcher compares it with what it last saw. -/
def stateSets (client : Client ι) : Nat := client.states.length

/-- Refuses calls from now on and asks the session task to finish. -/
def shut (client : Client ι) : Client ι := { client with closed := true, shutdown := true }

def count (client : Client ι) (change : Metrics → Metrics) : Client ι :=
  { client with metrics := change client.metrics }

/-- Puts a channel in place of the one of its connection. -/
def setChannel (client : Client ι) (conn : Nat) (channel : Channel Unit Unit) : Client ι :=
  { client with channels := client.channels.set conn channel }

def closeChannel (client : Client ι) (conn : Nat) : Client ι :=
  match client.channels[conn]? with
  | some channel => client.setChannel conn channel.close
  | none => client

/-- The channel of a new connection: everything that is read is recorded. -/
def newChannel : Channel Unit Unit where
  reader := { onMessage := some (), onDropped := some () }
  onConnected := some ()
  onDisconnected := some ()

end Client

end Iso8583
