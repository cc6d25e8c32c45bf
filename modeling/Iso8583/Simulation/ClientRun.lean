import Iso8583.Client
import Iso8583.Simulation.Link
import Iso8583.Uuid

/-!
# A client on a virtual clock

The clock starts at zero and moves only when every task waits, to the next timer. Connections are
links; how attempts to connect end is set beforehand.
-/

namespace Iso8583.Simulation

/-- How an attempt to connect ends. -/
inductive ConnectMode where
  | accept
  | refuse
  /-- It does not end. -/
  | hang
  deriving DecidableEq, Repr

/-- The network that the client connects through. -/
structure Network where
  mode : ConnectMode := .accept
  /-- How long it takes before an attempt ends. -/
  delay : Duration := ⟨0⟩
  auto : AutoReply := .nothing

def Network.closed : Network where
  mode := .refuse

/-- Who waits for a timer. -/
inductive Waiter where
  | session
  /-- An attempt to connect that is about to end. -/
  | attempt (mode : ConnectMode)
  /-- An attempt to connect that is about to take too long. -/
  | attemptLimit
  | call (id : String)
  deriving DecidableEq

/-- A moment at which someone goes on. -/
structure Timer where
  due : Duration
  waiter : Waiter

/-- The result of a call. -/
structure Finished where
  time : Duration
  id : String
  result : CallResult

/-- A client and its surroundings. -/
structure ClientRun where
  client : Client String
  peerCodec : Codec
  network : Network := {}
  now : Duration := ⟨0⟩
  links : List Link := []
  timers : List Timer := []
  ready : List (ClientEvent String) := []
  /-- The calls that have ended, in order, since it was last asked. -/
  finished : List Finished := []
  /-- How many sleeps the client has begun. -/
  sleeps : Nat := 0
  /-- The numbers, counted from one, of the sleeps that fail at once. -/
  failing : List Nat := []
  identifiers : Nat := 0

namespace ClientRun

/-! ## Effects -/

/-- The event with which an attempt to connect ends. -/
def endOf (run : ClientRun) : ConnectMode → List (ClientEvent String)
  | .accept =>
    let first := run.identifiers
    [.connected fun n => uuidText (first + n + 1)]
  | .refuse => [.connectFailed]
  | .hang => []

/-- The events with which a waiter goes on, after a sleep or because the sleep fails. -/
def wakeUp (run : ClientRun) (ok : Bool) : Waiter → List (ClientEvent String)
  | .session => [.sessionSlept ok]
  | .attempt mode => run.endOf mode
  | .attemptLimit => [.connectFailed]
  | .call id => [.callSlept id ok]

def sleep (run : ClientRun) (waiter : Waiter) (time : Duration) : ClientRun :=
  let number := run.sleeps + 1
  let run := { run with sleeps := number }
  if run.failing.contains number then { run with ready := run.ready ++ run.wakeUp false waiter }
  else { run with timers := run.timers ++ [⟨run.now + time, waiter⟩] }

def connect (run : ClientRun) : ClientRun :=
  let run :=
    if run.network.delay.nanos = 0 then
      { run with ready := run.ready ++ run.endOf run.network.mode }
    else run.sleep (.attempt run.network.mode) run.network.delay
  match run.client.config.connectTimeout with
  | some limit => { run with timers := run.timers ++ [⟨run.now + limit, .attemptLimit⟩] }
  | none => run

def modifyLink (run : ClientRun) (conn : Nat) (change : Link → Link) : ClientRun :=
  { run with links := run.links.modify conn change }

def perform (run : ClientRun) : ClientEffect String → ClientRun
  | .connect => run.connect
  | .sleepSession time => run.sleep .session time
  | .sleepCall id time => run.sleep (.call id) time
  | .finish id result => { run with finished := run.finished ++ [⟨run.now, id, result⟩] }
  | .write conn bytes => run.modifyLink conn (·.take bytes)
  | .hangUp conn => run.modifyLink conn fun link => { link with hungUp := true }

/-! ## Events -/

/-- Whether a waiter is the session task, which waits for one thing at a time. -/
def Waiter.isSession : Waiter → Bool
  | .call _ => false
  | _ => true

/-- What has to be put in order before an event: a new connection gets its link, and what the session
task waited for is forgotten when it goes on. -/
def prepare (run : ClientRun) (event : ClientEvent String) : ClientRun :=
  let forget (run : ClientRun) : ClientRun :=
    { run with timers := run.timers.filter fun timer => !Waiter.isSession timer.waiter }
  match event with
  | .connected _ =>
    forget { run with
      links := run.links ++ [{ codec := run.peerCodec, auto := run.network.auto }]
      identifiers := run.identifiers + run.client.config.keyFields.ids.length }
  | .connectFailed => forget run
  | .connectionEnded => forget run
  | .sessionShutDown => forget run
  | _ => run

def apply (run : ClientRun) (event : ClientEvent String) : ClientRun :=
  match run.client.step run.now event with
  | none => run
  | some (client, effects) => effects.foldl perform { run.prepare event with client := client }

/-- A step that a pump can take, and the links after it. -/
def pumpEvent? : (conn : Nat) → List Link → List (Channel Unit Unit) →
    Option (ClientEvent String × List Link)
  | conn, link :: links, channel :: channels =>
    match link.pumpStep? channel with
    | some (step, link) => some (.pump conn step, link :: links)
    | none => (pumpEvent? (conn + 1) links channels).map fun (event, links) => (event, link :: links)
  | _, _, _ => none

/-- One step that needs no time; nothing if every task waits. -/
def next? (run : ClientRun) : Option ClientRun :=
  match run.ready with
  | event :: ready => some ({ run with ready := ready }.apply event)
  | [] =>
    match run.client.sessionEvent? with
    | some event => some (run.apply event)
    | none =>
      (pumpEvent? 0 run.links run.client.channels).map fun (event, links) =>
        { run with links := links }.apply event

def settleFor : (fuel : Nat) → ClientRun → ClientRun
  | 0, run => run
  | fuel + 1, run =>
    match run.next? with
    | some run => settleFor fuel run
    | none => run

def settle (run : ClientRun) : ClientRun := settleFor stepLimit run

/-! ## Time -/

/-- The timer that goes off first; of several, the one set first. -/
def firstTimer? : List Timer → Option Timer
  | [] => none
  | timer :: timers =>
    match firstTimer? timers with
    | some other => if other.due < timer.due then some other else some timer
    | none => some timer

/-- The timers without the one that goes off first. -/
def withoutFirst (first : Timer) : List Timer → List Timer
  | [] => []
  | timer :: timers =>
    if timer.due = first.due ∧ timer.waiter = first.waiter then timers
    else timer :: withoutFirst first timers

/-- Lets the first timer go off, if it is due by `limit`. -/
def tick? (run : ClientRun) (limit : Option Duration) : Option ClientRun := do
  let timer ← firstTimer? run.timers
  if limit.any (· < timer.due) then none
  let run := { run with timers := withoutFirst timer run.timers, now := timer.due }
  return settle ((run.wakeUp true timer.waiter).foldl apply run)

/-- Lets timers go off until `limit`, or until a condition holds. -/
def runFor (limit : Option Duration) (goal : ClientRun → Bool) :
    (fuel : Nat) → ClientRun → ClientRun
  | 0, run => run
  | fuel + 1, run =>
    if goal run then run
    else match run.tick? limit with
      | some run => runFor limit goal fuel run
      | none => run

def advance (run : ClientRun) (time : Duration) : ClientRun :=
  let limit := run.now + time
  { runFor (some limit) (fun _ => false) stepLimit run with now := limit }

/-! ## Use -/

/-- A new client whose session task has done its first steps. -/
def start (run : ClientRun) : ClientRun := run.settle

def call (run : ClientRun) (event : ClientEvent String) : ClientRun := (run.apply event).settle

/-- The result of a call, if it has ended. -/
def result? (run : ClientRun) (id : String) : Option CallResult :=
  (run.finished.find? (·.id = id)).map (·.result)

/-- Starts a call and lets time pass until it ends. Its result, and the run without it. -/
def await (run : ClientRun) (id : String) (event : ClientEvent String) :
    Option CallResult × ClientRun :=
  let run := runFor none (fun run => (run.result? id).isSome) stepLimit (run.call event)
  (run.result? id, { run with finished := run.finished.filter (·.id ≠ id) })

/-- Closes the client and waits until that is over. -/
def close (run : ClientRun) : ClientRun := ((run.call .close).apply .closingDone).settle

def drop (run : ClientRun) : ClientRun := run.call .drop

/-- The calls that have ended, and the run without them. -/
def collect (run : ClientRun) : List Finished × ClientRun :=
  (run.finished, { run with finished := [] })

/-! ## A whole session -/

/-- How an exchange of messages went. -/
structure Exchange where
  active : Option CallResult
  replies : List (Option CallResult)
  /-- The connections made before the client was closed. -/
  connections : Nat
  /-- How awaiting a session went after that. -/
  afterClose : Option CallResult
  metrics : Metrics
  pending : Nat

/-- Sends messages, each after the reply to the one before. -/
def sendAll (timeout : Duration) : List Message → ClientRun → List (Option CallResult) × ClientRun
  | [], run => ([], run)
  | msg :: msgs, run =>
    let (result, run) := run.await "exchange" (.send "exchange" msg timeout)
    let (results, run) := sendAll timeout msgs run
    (result :: results, run)

/-- Awaits a session, sends messages and closes the client. -/
def exchange (run : ClientRun) (timeout : Duration) (msgs : List Message) : Exchange :=
  let awaitActive (run : ClientRun) : Option CallResult × ClientRun :=
    run.await "exchange" (.awaitActive "exchange" timeout none)
  let (active, run) := awaitActive run.start
  let (replies, run) := sendAll timeout msgs run
  let connections := run.links.length
  let (afterClose, run) := awaitActive run.close
  ⟨active, replies, connections, afterClose, run.client.metrics, run.client.store.size⟩

end ClientRun

end Iso8583.Simulation
