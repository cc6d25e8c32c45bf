import Iso8583.Server
import Iso8583.Simulation.Link

/-!
# A server on a virtual clock

The clock starts at zero and moves only when every task waits, to the next timer. Connections are links
that arrive at whichever listener accepts next.
-/

namespace Iso8583.Simulation

/-- What the request handler does with a message. -/
inductive Action where
  | respond
  /-- It responds and responds again. -/
  | respondTwice
  | ignore
  /-- It keeps the request. -/
  | park
  | write (msg : Message)

def Action.answers : Action → List Answer
  | .respond => [.respond]
  | .respondTwice => [.respond, .respond]
  | .ignore => []
  | .park => []
  | .write msg => [.write msg]

/-- What is done with messages of given type indicators, and with all others. -/
structure Script where
  other : Action
  byMti : List (String × Action) := []

def Script.action (script : Script) (msg : Message) : Action :=
  match script.byMti.find? (·.1 = msg.mti) with
  | some (_, action) => action
  | none => script.other

/-- What becomes of a request. -/
inductive Outcome where
  | answered (results : List (Except ServerError Unit))
  | ignored
  | parked

/-- A call of the request handler. -/
structure HandlerCall where
  request : Request
  outcome : Outcome

/-- How binding to an address goes. -/
inductive BindMode where
  | bound
  /-- It fails. -/
  | refused
  /-- It succeeds, but the local address cannot be told. -/
  | unnamed
  deriving DecidableEq, Repr

/-- Something for the listener that accepts next. -/
inductive Arrival where
  | connection (peer : String)
  | failure

/-- A server and its surroundings. -/
structure ServerRun where
  server : Server
  script : Option Script
  peerCodec : Codec
  bindMode : BindMode := .bound
  now : Duration := ⟨0⟩
  links : List Link := []
  arrivals : List Arrival := []
  timers : List (Duration × Nat) := []
  /-- The calls of the handler, in order, since it was last asked. -/
  calls : List HandlerCall := []
  /-- The requests that were kept; one that was given away leaves its place empty. -/
  parked : List (Option Request) := []

namespace ServerRun

/-- A new server whose handler follows a script, if there is one. -/
def new (config : ServerConfig) (codec peerCodec : Codec) (script : Option Script) : ServerRun where
  server :=
    { config := config
      codec := codec
      handler := script.map fun script msg => (script.action msg).answers }
  script := script
  peerCodec := peerCodec

/-! ## Effects -/

/-- What becomes of a request, and the run with the request kept if it is parked. -/
def outcomeOf (run : ServerRun) (action : Action) (request : Request)
    (results : List (Except ServerError Unit)) : Outcome × ServerRun :=
  match action with
  | .ignore => (.ignored, run)
  | .park => (.parked, { run with parked := run.parked ++ [some request] })
  | _ => (.answered results, run)

def modifyLink (run : ServerRun) (conn : Nat) (change : Link → Link) : ServerRun :=
  { run with links := run.links.modify conn change }

def perform (run : ServerRun) : ServerEffect → ServerRun
  | .handled request results =>
    let action := (run.script.map (·.action request.message)).getD .ignore
    let (outcome, run) := run.outcomeOf action request results
    { run with calls := run.calls ++ [⟨request, outcome⟩] }
  | .sleepListener listener time =>
    { run with timers := run.timers ++ [(run.now + time, listener)] }
  | .write conn bytes => run.modifyLink conn (·.take bytes)
  | .hangUp conn => run.modifyLink conn fun link => { link with hungUp := true }
  | .returned _ => run
  | .disconnecting _ => run
  | .answered _ => run

/-- Lets an event happen, if it can. Also answers the effects. -/
def applyWith (run : ServerRun) (event : ServerEvent) : ServerRun × List ServerEffect :=
  match run.server.step event with
  | none => (run, [])
  | some (server, effects) => (effects.foldl perform { run with server := server }, effects)

def apply (run : ServerRun) (event : ServerEvent) : ServerRun := (run.applyWith event).1

/-! ## Steps -/

/-- A step that a pump can take, and the links after it. -/
def pumpEvent? : (conn : Nat) → List Link → List (Channel String Nat) →
    Option (ServerEvent × List Link)
  | conn, link :: links, channel :: channels =>
    match link.pumpStep? channel with
    | some (step, link) => some (.pump conn step, link :: links)
    | none => (pumpEvent? (conn + 1) links channels).map fun (event, links) => (event, link :: links)
  | _, _, _ => none

/-- A listener that has something to do: finish, or take the next arrival. -/
def listenerEvent? (arrivals : List Arrival) :
    (number : Nat) → List Listener → Option (ServerEvent × List Arrival)
  | _, [] => none
  | number, listener :: listeners =>
    if listener.state = .accepting then
      if listener.shutdown then some (.listenerShutDown number, arrivals)
      else match arrivals with
        | .connection peer :: arrivals => some (.accepted number peer, arrivals)
        | .failure :: arrivals => some (.acceptFailed number, arrivals)
        | [] => listenerEvent? arrivals (number + 1) listeners
    else listenerEvent? arrivals (number + 1) listeners

/-- One step that needs no time; nothing if every task waits. -/
def next? (run : ServerRun) : Option ServerRun :=
  match listenerEvent? run.arrivals 0 run.server.listeners with
  | some (event, arrivals) => some ({ run with arrivals := arrivals }.apply event)
  | none =>
    (pumpEvent? 0 run.links run.server.channels).map fun (event, links) =>
      { run with links := links }.apply event

def settleFor : (fuel : Nat) → ServerRun → ServerRun
  | 0, run => run
  | fuel + 1, run =>
    match run.next? with
    | some run => settleFor fuel run
    | none => run

def settle (run : ServerRun) : ServerRun := settleFor stepLimit run

/-! ## Time -/

/-- The timer that goes off first; of several, the one set first. -/
def firstTimer? : List (Duration × Nat) → Option (Duration × Nat)
  | [] => none
  | timer :: timers =>
    match firstTimer? timers with
    | some other => if other.1 < timer.1 then some other else some timer
    | none => some timer

/-- Lets the first timer go off, if it is due by `limit`. -/
def tick? (run : ServerRun) (limit : Option Duration) : Option ServerRun := do
  let timer ← firstTimer? run.timers
  if limit.any (· < timer.1) then none
  let run := { run with timers := run.timers.erase timer, now := timer.1 }
  return (run.apply (.listenerSlept timer.2)).settle

/-- Lets timers go off until `limit`, or until a condition holds. -/
def runFor (limit : Option Duration) (goal : ServerRun → Bool) :
    (fuel : Nat) → ServerRun → ServerRun
  | 0, run => run
  | fuel + 1, run =>
    if goal run then run
    else match run.tick? limit with
      | some run => runFor limit goal fuel run
      | none => run

def advance (run : ServerRun) (time : Duration) : ServerRun :=
  let limit := run.now + time
  { runFor (some limit) (fun _ => false) stepLimit run with now := limit }

/-! ## Use -/

def bindResult (run : ServerRun) (address : String) : Except String String :=
  match run.bindMode with
  | .bound => .ok address
  | .refused => .error "address in use"
  | .unnamed => .error "no local address"

/-- The result of a call that does not wait. -/
def returned? (effects : List ServerEffect) : Option (Except ServerError String) :=
  effects.findSome? fun effect =>
    match effect with
    | .returned result => some result
    | _ => none

def listen (run : ServerRun) (address : String) :
    Option (Except ServerError String) × ServerRun :=
  let (run, effects) := run.applyWith (.listen address (run.bindResult address))
  (returned? effects, run.settle)

def connect (run : ServerRun) (peer : String) : ServerRun :=
  settle { run with
    links := run.links ++ [{ codec := run.peerCodec }]
    arrivals := run.arrivals ++ [.connection peer] }

def failAccept (run : ServerRun) : ServerRun :=
  settle { run with arrivals := run.arrivals ++ [.failure] }

/-- Closes the server and waits until that is over; the error if it does not listen. -/
def close (run : ServerRun) : Option ServerError × ServerRun :=
  let (run, effects) := run.applyWith .close
  match returned? effects with
  | some (.error error) => (some error, run.settle)
  | _ =>
    let finished (run : ServerRun) : Bool :=
      run.server.closing.all fun listener => run.server.listenerIs listener .finished
    (none, ((runFor none finished stepLimit run.settle).apply .closingDone).settle)

/-- Asks all connections to end, and says how many there are. -/
def disconnectAll (run : ServerRun) : Nat × ServerRun :=
  let (run, effects) := run.applyWith .disconnectAll
  let counts := effects.filterMap fun effect =>
    match effect with
    | .disconnecting count => some count
    | _ => none
  (counts.foldl (· + ·) 0, run.settle)

def drop (run : ServerRun) : ServerRun := (run.apply .drop).settle

/-- Gives answers to a request, one after the other. -/
def answerAll (run : ServerRun) (request : Request) :
    List Answer → List (Except ServerError Unit) × ServerRun
  | [] => ([], run)
  | answer :: answers =>
    let (run, effects) := run.applyWith (.answer request answer)
    let (results, run) := run.answerAll request answers
    (effects.filterMap (fun effect =>
      match effect with
      | .answered result => some result
      | _ => none) ++ results, run)

def parked? (run : ServerRun) (index : Nat) : Option Request := (run.parked[index]?).join

def act (run : ServerRun) (request : Request) (action : Action) : Outcome × ServerRun :=
  let (results, run) := run.answerAll request action.answers
  let (outcome, run) := run.outcomeOf action request results
  (outcome, run.settle)

def release (run : ServerRun) (index : Nat) : ServerRun :=
  { run with parked := run.parked.set index none }

/-- The calls of the handler, and the run without them. -/
def collect (run : ServerRun) : List HandlerCall × ServerRun :=
  (run.calls, { run with calls := [] })

end ServerRun

end Iso8583.Simulation
