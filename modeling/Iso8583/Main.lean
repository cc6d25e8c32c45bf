import Iso8583.Client
import Iso8583.CommandLine
import Iso8583.Server
import Iso8583.Uuid
import Std.Async.DNS
import Std.Async.TCP

/-!
# The program

`serve` and `probe` over TCP. Two loops tell a server or a client what happens on the sockets, and do
what its steps ask for.
-/

namespace Iso8583.Program

open Std.Async Std.Net

/-! ## Sockets -/

/-- The result of a task, if it has finished. -/
def finished? {α : Type} (task : AsyncTask α) : IO (Option (Except IO.Error α)) := do
  match ← task.getState with
  | .finished =>
    try return some (.ok (← task.block))
    catch error => return some (.error error)
  | _ => return none

/-- The address of a socket at an endpoint; a name is looked up. -/
def resolve (endpoint : CommandLine.Endpoint) : IO SocketAddress := do
  let port := UInt16.ofNat endpoint.port
  let socketAt (ip : IPAddr) : SocketAddress :=
    match ip with
    | .v4 ip => .v4 ⟨ip, port⟩
    | .v6 ip => .v6 ⟨ip, port⟩
  match IPv4Addr.ofString endpoint.host, IPv6Addr.ofString endpoint.host with
  | some ip, _ => return socketAt (.v4 ip)
  | none, some ip => return socketAt (.v6 ip)
  | none, none =>
    match (← (DNS.getAddrInfo endpoint.host (toString endpoint.port)).block).toList with
    | ip :: _ => return socketAt ip
    | [] => throw (IO.userError "no such host")

/-- The address of a socket at an address in text form. -/
def resolveText (address : String) : IO SocketAddress :=
  match CommandLine.Endpoint.ofText address with
  | .ok endpoint => resolve endpoint
  | .error reason => throw (IO.userError reason)

/-- A connection and what is under way on it. -/
structure Connection where
  socket : TCP.Socket.Client
  reading : Option (AsyncTask (Option ByteArray)) := none
  writing : Option (AsyncTask Unit) := none

def readSize : UInt64 := 4096

/-- The next step of the pump that owns a connection, if there is one. -/
def Connection.next {η κ : Type} (connection : Connection) (channel : Channel η κ) :
    IO (Connection × Option PumpStep) := do
  match channel.pump with
  | .waiting =>
    if channel.shutdown then return (connection, some .shutDown)
    if channel.outbox.wakeUp then return (connection, some .wake)
    match connection.reading with
    | none =>
      let task ← (connection.socket.recv? readSize).toIO
      return ({ connection with reading := some task }, none)
    | some task =>
      let behind := { connection with reading := none }
      match ← finished? task with
      | none => return (connection, none)
      | some (.error _) => return (behind, some .readFailed)
      | some (.ok none) => return (behind, some .endOfStream)
      | some (.ok (some chunk)) =>
        return (behind, some (if chunk.isEmpty then .endOfStream else .received chunk.data.toList))
  | .writing rest =>
    match connection.writing with
    | none =>
      let task ← (connection.socket.send ⟨rest.toArray⟩).toIO
      return ({ connection with writing := some task }, none)
    | some task =>
      let behind := { connection with writing := none }
      match ← finished? task with
      | none => return (connection, none)
      | some (.ok ()) => return (behind, some (.wrote rest.length))
      | some (.error _) => return (behind, some .writeFailed)
  | .flushing => return (connection, some .flushed)
  | _ => return (connection, none)

def Connection.hangUp (connection : Connection) : IO Unit := do
  (connection.socket.recvSelector readSize).unregisterFn.block
  try connection.socket.shutdown.block catch _ => return

/-- How long a loop waits when nothing has happened. -/
def pauseMillis : UInt32 := 1

/-! ## Serving -/

/-- A server and its sockets. -/
structure ServerHost where
  server : Server
  listener : TCP.Socket.Server
  accepting : Option (AsyncTask TCP.Socket.Client) := none
  /-- When the pause after a failure ends. -/
  pausedUntil : Option Nat := none
  connections : Array Connection := #[]

namespace ServerHost

def perform (host : ServerHost) : ServerEffect → IO ServerHost
  | .sleepListener _ time => do
    return { host with pausedUntil := some ((← IO.monoNanosNow) + time.nanos) }
  | .hangUp conn => do
    if let some connection := host.connections[conn]? then connection.hangUp
    return host
  | _ => return host

def apply (host : ServerHost) (event : ServerEvent) : IO ServerHost :=
  match host.server.step event with
  | none => return host
  | some (server, effects) => effects.foldlM perform { host with server := server }

/-- Looks after the listener. Also answers whether anything happened. -/
def listen (host : ServerHost) : IO (ServerHost × Bool) := do
  match host.pausedUntil, host.accepting with
  | some due, _ =>
    if (← IO.monoNanosNow) < due then return (host, false)
    return (← { host with pausedUntil := none }.apply (.listenerSlept 0), true)
  | none, none => return ({ host with accepting := some (← host.listener.accept.toIO) }, true)
  | none, some task =>
    let behind := { host with accepting := none }
    match ← finished? task with
    | none => return (host, false)
    | some (.error _) => return (← behind.apply (.acceptFailed 0), true)
    | some (.ok socket) =>
      let peer ← try pure (toString (← socket.getPeerName)) catch _ => pure ""
      let behind := { behind with connections := behind.connections.push ⟨socket, none, none⟩ }
      return (← behind.apply (.accepted 0 peer), true)

/-- Looks after a connection. Also answers whether anything happened. -/
def attend (host : ServerHost) (conn : Nat) : IO (ServerHost × Bool) := do
  match host.connections[conn]?, host.server.channels[conn]? with
  | some connection, some channel =>
    let (connection, step) ← connection.next channel
    let host := { host with connections := host.connections.set! conn connection }
    match step with
    | some step => return (← host.apply (.pump conn step), true)
    | none => return (host, false)
  | _, _ => return (host, false)

partial def run (host : ServerHost) : IO Unit := do
  let (host, busy) ← host.listen
  let (host, busy) ← (List.range host.connections.size).foldlM (fun (host, busy) conn => do
    let (host, more) ← host.attend conn
    return (host, busy || more)) (host, busy)
  unless busy do IO.sleep pauseMillis
  host.run

end ServerHost

/-- Runs an echo server; the result is how it fails to start. -/
def serve (address : String) : IO ServerError := do
  let server : Server := { config := {}, codec := .binary, handler := some fun _ => [.respond] }
  try
    let listener ← TCP.Socket.Server.mk
    listener.bind (← resolveText address)
    listener.listen 128
    let bound := toString (← listener.getSockName)
    match server.step (.listen address (.ok bound)) with
    | some (server, _) =>
      IO.println ("echo server listening on " ++ bound)
      ServerHost.run { server := server, listener := listener }
      return .notListening
    | none => return .notListening
  catch error => return .bind address (toString error)

/-! ## Probing -/

/-- A client and its sockets. -/
structure ClientHost where
  client : Client String
  /-- The attempt to connect that is under way, and when it takes too long. -/
  attempt : Option (AsyncTask TCP.Socket.Client × Option Nat) := none
  /-- When the sleep of the session task ends. -/
  sessionDue : Option Nat := none
  callsDue : List (Nat × String) := []
  connections : Array Connection := #[]
  results : List (String × CallResult) := []

def drawUuid : IO String := do
  return uuidText (Bytes.ofBigEndian (← IO.getRandomBytes 16).data.toList)

namespace ClientHost

def connectTo (address : String) : Async TCP.Socket.Client := do
  let socket ← TCP.Socket.Client.mk
  socket.connect (← resolveText address)
  return socket

def perform (host : ClientHost) (effect : ClientEffect String) : IO ClientHost := do
  let now ← IO.monoNanosNow
  match effect with
  | .connect =>
    let limit := host.client.config.connectTimeout.map fun time => now + time.nanos
    let task ← (connectTo host.client.config.address).toIO
    return { host with attempt := some (task, limit) }
  | .sleepSession time => return { host with sessionDue := some (now + time.nanos) }
  | .sleepCall id time => return { host with callsDue := host.callsDue ++ [(now + time.nanos, id)] }
  | .finish id result => return { host with results := (id, result) :: host.results }
  | .write .. => return host
  | .hangUp conn =>
    if let some connection := host.connections[conn]? then connection.hangUp
    return host

def apply (host : ClientHost) (event : ClientEvent String) : IO ClientHost := do
  match host.client.step ⟨← IO.monoNanosNow⟩ event with
  | none => return host
  | some (client, effects) => effects.foldlM perform { host with client := client }

/-- Lets an event of the session task happen, which no longer waits for anything else. -/
def applySession (host : ClientHost) (event : ClientEvent String) : IO ClientHost :=
  { host with attempt := none, sessionDue := none }.apply event

/-- Looks after the session task. Also answers whether anything happened. -/
def attendSession (host : ClientHost) : IO (ClientHost × Bool) := do
  let now ← IO.monoNanosNow
  if let some event := host.client.sessionEvent? then return (← host.applySession event, true)
  if let some (task, limit) := host.attempt then
    match ← finished? task with
    | some (.ok socket) =>
      let count := host.client.config.keyFields.ids.length
      let unique ← (List.range count).mapM fun _ => drawUuid
      let host := { host with connections := host.connections.push ⟨socket, none, none⟩ }
      return (← host.applySession (.connected fun n => unique[n]?.getD ""), true)
    | some (.error _) => return (← host.applySession .connectFailed, true)
    | none =>
      if limit.any (· ≤ now) then return (← host.applySession .connectFailed, true)
  if host.sessionDue.any (· ≤ now) then
    return (← host.applySession (.sessionSlept true), true)
  return (host, false)

/-- Lets the calls go on whose sleeps have ended. Also answers whether there are any. -/
def attendCalls (host : ClientHost) : IO (ClientHost × Bool) := do
  let now ← IO.monoNanosNow
  let (due, later) := host.callsDue.partition (·.1 ≤ now)
  let host ← due.foldlM (fun host call => host.apply (.callSlept call.2 true))
    { host with callsDue := later }
  return (host, !due.isEmpty)

/-- Looks after a connection. Also answers whether anything happened. -/
def attend (host : ClientHost) (conn : Nat) : IO (ClientHost × Bool) := do
  match host.connections[conn]?, host.client.channels[conn]? with
  | some connection, some channel =>
    let (connection, step) ← connection.next channel
    let host := { host with connections := host.connections.set! conn connection }
    match step with
    | some step => return (← host.apply (.pump conn step), true)
    | none => return (host, false)
  | _, _ => return (host, false)

/-- Lets everything go on until a condition holds. -/
partial def runUntil (goal : ClientHost → Bool) (host : ClientHost) : IO ClientHost := do
  if goal host then return host
  let (host, busy) ← host.attendSession
  let (host, more) ← host.attendCalls
  let (host, busy) ← (List.range host.connections.size).foldlM (fun (host, busy) conn => do
    let (host, more) ← host.attend conn
    return (host, busy || more)) (host, busy || more)
  unless busy do IO.sleep pauseMillis
  runUntil goal host

def call (host : ClientHost) (event : String → ClientEvent String) :
    IO (Option CallResult × ClientHost) := do
  let id := "call"
  let host ← (← host.apply (event id)).runUntil fun host => host.results.any (·.1 = id)
  return (host.results.lookup id, { host with results := [] })

def close (host : ClientHost) : IO Unit := do
  let host ← (← host.apply .close).runUntil fun host => host.client.session = .finished
  let host ← host.apply .closingDone
  discard <| host.runUntil fun host => host.client.channels.all fun channel => !channel.isOpen

end ClientHost

/-- Awaits a session and sends requests; the result is why there is no session. -/
def probe (address : String) (count : Nat) : IO (Option ClientError) := do
  let host : ClientHost := { client := .new (CommandLine.probeConfig address) .binary }
  let config := host.client.config
  let (active, host) ← host.call (.awaitActive · config.whenActiveTimeout none)
  if let some (.failed error) := active then return some error
  let mut current := host
  let mut answered := 0
  for number in [0:count] do
    let request := CommandLine.probeRequest number (← drawUuid)
    let (result, host) ← current.call (.send · request config.responseTimeout)
    current := host
    match result with
    | some (.replied msg) =>
      answered := answered + 1
      IO.println ("reply " ++ msg.summary)
    | some (.failed error) => IO.println ("request failed: " ++ error.message)
    | _ => pure ()
  IO.println (toString answered ++ "/" ++ toString count ++ " probes answered")
  current.close
  return none

/-! ## The command line -/

/-- Runs the command that the arguments give; the result is the exit code. -/
def run (args : List String) : IO UInt32 := do
  let failed (line : String) : IO UInt32 := do
    IO.eprint line
    return 1
  match CommandLine.Command.ofArgs args with
  | .error error => failed (CommandLine.countLine error)
  | .ok .usage =>
    IO.print CommandLine.usage
    return 0
  | .ok (.serve address) => failed (CommandLine.serverLine (← serve address))
  | .ok (.probe address count) =>
    match ← probe address count with
    | some error => failed (CommandLine.probeLine error)
    | none => return 0

end Iso8583.Program

def main (args : List String) : IO UInt32 := Iso8583.Program.run args
