import Iso8583.Channel
import Iso8583.Config

/-!
# Servers

A server accepts connections, gives each its own channel, and hands every message that it reads to the
request handler together with the connection it came from. Whether and what to answer is up to the
handler.

`Server.step` says what each event does. Between two steps every task waits; which of the possible
events comes next is up to the environment.
-/

namespace Iso8583

/-- A message from a peer that may be answered on its connection. -/
structure Request where
  message : Message
  peer : String
  conn : Nat
  deriving DecidableEq

/-- An answer to a request. -/
inductive Answer where
  /-- The message itself with its response indicator. -/
  | respond
  /-- Any message. -/
  | write (msg : Message)
  deriving DecidableEq

/-- What the handler does with a request: the answers that it gives at once, in order. -/
abbrev Handler := Message → List Answer

/-- What a listening task does. -/
inductive AcceptState where
  /-- It waits for a connection. -/
  | accepting
  /-- It pauses after a failure. -/
  | pausing
  | finished
  deriving DecidableEq, Repr

/-- A listening task. -/
structure Listener where
  /-- Whether it has been asked to finish. -/
  shutdown : Bool := false
  state : AcceptState := .accepting
  deriving DecidableEq, Repr

/-- A server. Listeners, and connections with their channels, are numbered from zero. -/
structure Server where
  config : ServerConfig
  codec : Codec
  handler : Option Handler
  /-- The address of the listener, while the server listens. -/
  localAddress : Option String := none
  /-- The listener that closing the server asks to finish. -/
  listening : Option Nat := none
  /-- The listener whose end closing the server awaits. -/
  closing : Option Nat := none
  listeners : List Listener := []
  channels : List (Channel String Nat) := []
  /-- The connections whose channels have not ended. -/
  registry : List Nat := []

/-- Something that happens to a server. -/
inductive ServerEvent where
  /-- Binding to `address` gives the local address, or fails. -/
  | listen (address : String) (result : Except String String)
  /-- The server is asked to close. -/
  | close
  /-- Closing is over, since the listener has finished. -/
  | closingDone
  /-- The server is given up. -/
  | drop
  | disconnectAll
  /-- A listener takes its request to finish. -/
  | listenerShutDown (listener : Nat)
  /-- A listener accepts a connection. -/
  | accepted (listener : Nat) (peer : String)
  | acceptFailed (listener : Nat)
  /-- The pause of a listener ends, or fails. -/
  | listenerSlept (listener : Nat)
  /-- A step of a connection's pump. -/
  | pump (conn : Nat) (step : PumpStep)
  /-- A request that the handler kept is answered. -/
  | answer (request : Request) (answer : Answer)

/-- What a server asks of its environment, or reports, in a step. -/
inductive ServerEffect where
  /-- The result of a call that does not wait. -/
  | returned (result : Except ServerError String)
  /-- How many connections were asked to end. -/
  | disconnecting (count : Nat)
  /-- The handler was given a request; the results of its answers. -/
  | handled (request : Request) (results : List (Except ServerError Unit))
  | answered (result : Except ServerError Unit)
  | sleepListener (listener : Nat) (time : Duration)
  | write (conn : Nat) (bytes : Bytes)
  | hangUp (conn : Nat)

namespace Server

/-! ## Answers -/

def Answer.message (request : Message) : Answer → Except ServerError Message
  | .respond => request.toResponse.mapError .mti
  | .write msg => .ok msg

/-- Queues an answer to a request in an outbox. -/
def writeAnswer (codec : Codec) (outbox : Outbox) (request : Message) (answer : Answer) :
    Outbox × Except ServerError Unit :=
  match Answer.message request answer with
  | .error error => (outbox, .error error)
  | .ok msg =>
    match outbox.write codec msg with
    | .ok outbox => (outbox, .ok ())
    | .error error => (outbox, .error (.channel error))

def writeAnswers (codec : Codec) (request : Message) :
    Outbox → List Answer → Outbox × List (Except ServerError Unit)
  | outbox, [] => (outbox, [])
  | outbox, answer :: answers =>
    let (outbox, result) := writeAnswer codec outbox request answer
    let (outbox, results) := writeAnswers codec request outbox answers
    (outbox, result :: results)

/-! ## Connections -/

/-- Puts a channel in place of the one of its connection. -/
def setChannel (server : Server) (conn : Nat) (channel : Channel String Nat) : Server :=
  { server with channels := server.channels.set conn channel }

/-- The channel of a new connection: messages go to the handler under the peer's name. -/
def newChannel (conn : Nat) (peer : String) : Channel String Nat where
  reader := { onMessage := some peer }
  onDisconnected := some conn

def serve (server : Server) (peer : String) : Server :=
  let conn := server.channels.length
  match (newChannel conn peer).bind with
  | .ok (channel, _) =>
    { server with channels := server.channels ++ [channel], registry := server.registry ++ [conn] }
  | .error _ => server

/-- Hands the messages that a connection has read to the handler, in order. -/
def handle (codec : Codec) (handler : Handler) (conn : Nat) :
    Outbox → List (ReaderCall String) → Outbox × List ServerEffect
  | outbox, [] => (outbox, [])
  | outbox, .dropped .. :: calls => handle codec handler conn outbox calls
  | outbox, .message peer msg :: calls =>
    let (outbox, results) := writeAnswers codec msg outbox (handler msg)
    let (outbox, effects) := handle codec handler conn outbox calls
    (outbox, .handled ⟨msg, peer, conn⟩ results :: effects)

/-- Takes in what a pump did, its calls apart. -/
def takeOutput (server : Server) (conn : Nat) (output : PumpOutput String Nat) :
    Server × List ServerEffect :=
  let server := match output.disconnected with
    | some visit => { server with registry := server.registry.filter (· ≠ visit.callback) }
    | none => server
  (server, (if output.written.isEmpty then [] else [.write conn output.written]) ++
    if output.hungUp then [.hangUp conn] else [])

/-- One step of a connection's pump. What is read is handed on at once. -/
def stepPump (server : Server) (conn : Nat) (step : PumpStep) :
    Option (Server × List ServerEffect) := do
  let channel ← server.channels[conn]?
  let (channel, output) ← channel.step server.codec.decode step
  match step with
  | .received _ =>
    let handler := server.handler.getD fun _ => []
    let (outbox, effects) := handle server.codec handler conn channel.outbox output.calls
    let (channel, output) ← { channel with outbox := outbox }.step server.codec.decode .dispatched
    let (server, more) := (server.setChannel conn channel).takeOutput conn output
    return (server, effects ++ more)
  | _ => return (server.setChannel conn channel).takeOutput conn output

/-! ## Listeners -/

def setListener (server : Server) (listener : Nat) (change : Listener → Listener) : Server :=
  { server with listeners := server.listeners.modify listener change }

def shutListener (server : Server) : Server :=
  match server.listening with
  | some listener => server.setListener listener fun l => { l with shutdown := true }
  | none => server

def listenerIs (server : Server) (listener : Nat) (state : AcceptState) : Bool :=
  (server.listeners[listener]?).any (·.state = state)

/-- Starts a listener. The one before, if it still listens, finishes. -/
def startListener (server : Server) (address : String) : Server :=
  let server := server.shutListener
  { server with
    listeners := server.listeners ++ [{}]
    listening := some server.listeners.length
    closing := none
    localAddress := some address }

/-! ## Steps -/

def step (server : Server) : ServerEvent → Option (Server × List ServerEffect)
  | .listen address result =>
    if server.handler.isNone then some (server, [.returned (.error .noHandler)])
    else match result with
      | .error reason => some (server, [.returned (.error (.bind address reason))])
      | .ok bound => some (server.startListener bound, [.returned (.ok bound)])
  | .close =>
    if server.listening.isNone then some (server, [.returned (.error .notListening)])
    else some ({ server.shutListener with listening := none, closing := server.listening }, [])
  | .closingDone =>
    match server.closing with
    | some listener =>
      if server.listenerIs listener .finished then
        some ({ server with closing := none, localAddress := none }, [])
      else none
    | none => none
  | .drop => some ({ server.shutListener with listening := none, closing := none }, [])
  | .disconnectAll =>
    let channels := server.channels.zipIdx.map fun (channel, conn) =>
      if server.registry.contains conn then channel.close else channel
    some ({ server with channels := channels }, [.disconnecting server.registry.length])
  | .listenerShutDown listener =>
    if server.listenerIs listener .accepting ∧ (server.listeners[listener]?).any (·.shutdown) then
      some (server.setListener listener fun l => { l with state := .finished }, [])
    else none
  | .accepted listener peer =>
    if server.listenerIs listener .accepting then some (server.serve peer, []) else none
  | .acceptFailed listener =>
    if server.listenerIs listener .accepting then
      some (server.setListener listener fun l => { l with state := .pausing },
        [.sleepListener listener server.config.acceptErrorDelay])
    else none
  | .listenerSlept listener =>
    if server.listenerIs listener .pausing then
      some (server.setListener listener fun l => { l with state := .accepting }, [])
    else none
  | .pump conn step => server.stepPump conn step
  | .answer request answer => do
    let channel ← server.channels[request.conn]?
    let (outbox, result) := writeAnswer server.codec channel.outbox request.message answer
    return (server.setChannel request.conn { channel with outbox := outbox }, [.answered result])

end Server

end Iso8583
