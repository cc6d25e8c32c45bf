import Iso8583.Simulation.Link

/-!
# A channel on a link

The channel's handlers and callbacks note what happens.
-/

namespace Iso8583.Simulation

/-- What happens on a channel. -/
inductive ChannelNote where
  | message (msg : Message)
  | dropped (error : ChannelError)
  | connected (tag : String)
  | disconnected (tag : String)

/-- A channel, and the link that it is bound to. -/
structure ChannelRun where
  codec : Codec
  channel : Channel Unit String
  link : Option Link := none
  /-- What has happened since it was last asked, in order. -/
  notes : List ChannelNote := []

namespace ChannelRun

/-- A channel that is not bound yet, with a message handler or without. -/
def new (codec : Codec) (handler : Bool) : ChannelRun where
  codec := codec
  channel := { reader := { onMessage := if handler then some () else none, onDropped := some () } }

def note (run : ChannelRun) (output : PumpOutput Unit String) : ChannelRun :=
  let calls := output.calls.map fun call =>
    match call with
    | .message _ msg => ChannelNote.message msg
    | .dropped _ error => .dropped error
  let ended := output.disconnected.toList.map (ChannelNote.disconnected ·.callback)
  { run with notes := run.notes ++ calls ++ ended }

/-- One step of the pump; nothing if it has to wait. -/
def next? (run : ChannelRun) : Option ChannelRun := do
  let link ← run.link
  match run.channel.pump with
  | .dispatching _ =>
    let (channel, output) ← run.channel.step run.codec.decode .dispatched
    return { run with
      channel := channel
      link := some { link with hungUp := link.hungUp || output.hungUp } }.note output
  | _ =>
    let (step, link) ← link.pumpStep? run.channel
    let (channel, output) ← run.channel.step run.codec.decode step
    let link := if output.written.isEmpty then link else link.take output.written
    return { run with
      channel := channel
      link := some { link with hungUp := link.hungUp || output.hungUp } }.note output

def settleFor : (fuel : Nat) → ChannelRun → ChannelRun
  | 0, run => run
  | fuel + 1, run =>
    match run.next? with
    | some run => settleFor fuel run
    | none => run

def settle (run : ChannelRun) : ChannelRun := settleFor stepLimit run

def bind (run : ChannelRun) (link : Link) : Except ChannelError ChannelRun :=
  run.channel.bind.map fun (channel, connected) =>
    { run with
      channel := channel
      link := some link
      notes := run.notes ++ connected.toList.map ChannelNote.connected }

def write (run : ChannelRun) (msg : Message) : Except ChannelError ChannelRun :=
  (run.channel.write run.codec msg).map fun channel => { run with channel := channel }

/-- Queues messages one after the other. The result for each. -/
def writeAll (run : ChannelRun) : List Message → List (Except ChannelError Unit) × ChannelRun
  | [] => ([], run)
  | msg :: msgs =>
    match run.write msg with
    | .ok run =>
      let (results, run) := run.writeAll msgs
      (.ok () :: results, run)
    | .error error =>
      let (results, run) := run.writeAll msgs
      (.error error :: results, run)

def collect (run : ChannelRun) : List ChannelNote × ChannelRun :=
  (run.notes, { run with notes := [] })

end ChannelRun

end Iso8583.Simulation
