import Iso8583.FrameReader
import Iso8583.Outbox

/-!
# Channels

A channel joins a frame reader and an outbox to one connection. It is bound once, and ends once: when
it is asked to, when the peer closes the connection, when reading or writing fails, or at a frame that
cannot be passed over. From binding to the end a pump owns the connection; it waits for whichever comes
first of a request to shut down, a wake-up of the outbox and bytes to read.
-/

namespace Iso8583

/-- The life of a channel. -/
inductive ChannelStatus where
  | idle
  | live
  | ended
  deriving DecidableEq, Repr

/-- What the pump of a channel is doing. -/
inductive Pump where
  /-- There is none yet. -/
  | absent
  /-- It waits for something to do. -/
  | waiting
  /-- It hands what it has read to the handlers. After a fatal error it stops. -/
  | dispatching (error : Option FrameError)
  /-- It writes a frame, of which `rest` is still to go. -/
  | writing (rest : Bytes)
  /-- It has written the whole queue and flushes the connection. -/
  | flushing
  /-- It has stopped. -/
  | stopped
  deriving DecidableEq

/-- A channel. `η` names the handlers of what is read, `κ` the callbacks of its life. -/
structure Channel (η κ : Type) where
  status : ChannelStatus := .idle
  reader : FrameReader η := {}
  outbox : Outbox := {}
  onConnected : Option κ := none
  onDisconnected : Option κ := none
  /-- Whether a request to shut down is stored. -/
  shutdown : Bool := false
  /-- Whether those who await the channel's end are released. -/
  released : Bool := false
  pump : Pump := .absent

/-- Something that happens to a pump. -/
inductive PumpStep where
  /-- It takes the request to shut down. -/
  | shutDown
  /-- It takes the wake-up of the outbox. -/
  | wake
  /-- It reads some bytes. -/
  | received (chunk : Bytes)
  /-- The handlers are done with what was read. -/
  | dispatched
  /-- It reads the end of the stream. -/
  | endOfStream
  /-- Reading fails. -/
  | readFailed
  /-- The connection takes the next `count` bytes of the frame that is being written. -/
  | wrote (count : Nat)
  /-- Writing or flushing fails. -/
  | writeFailed
  /-- The connection is flushed. -/
  | flushed
  deriving DecidableEq

/-- A callback that is called, and the channel as it finds it. -/
structure Visit (η κ : Type) where
  callback : κ
  found : Channel η κ

/-- What a pump does in a step. -/
structure PumpOutput (η κ : Type) where
  calls : List (ReaderCall η) := []
  written : Bytes := []
  disconnected : Option (Visit η κ) := none
  hungUp : Bool := false

namespace Channel

variable {η κ : Type}

/-! ## Calls -/

/-- Whether the channel is bound and has not ended. -/
def isOpen (channel : Channel η κ) : Bool := channel.status = .live

/-- Binds the channel to a connection. Also answers the callback called. -/
def bind (channel : Channel η κ) : Except ChannelError (Channel η κ × Option κ) :=
  match channel.status with
  | .live => .error .alreadyBound
  | .ended => .error .closed
  | .idle =>
    .ok ({ channel with
      status := .live
      outbox := channel.outbox.bind
      onConnected := none
      pump := .waiting }, channel.onConnected)

def write (codec : Codec) (channel : Channel η κ) (msg : Message) :
    Except ChannelError (Channel η κ) :=
  (channel.outbox.write codec msg).map fun outbox => { channel with outbox := outbox }

/-- Asks a bound channel to end; ends one that is not bound yet. -/
def close (channel : Channel η κ) : Channel η κ :=
  match channel.status with
  | .live => { channel with shutdown := true }
  | .idle => { channel with status := .ended, outbox := channel.outbox.shut, released := true }
  | .ended => channel

/-! ## The pump -/

/-- The channel has ended, but those who await the end are not released yet. -/
def ending (channel : Channel η κ) : Channel η κ :=
  { channel with status := .ended, outbox := channel.outbox.shut, onDisconnected := none }

def release (channel : Channel η κ) : Channel η κ :=
  { channel with released := true, pump := .stopped }

/-- The end. The callback is called before those who await the end are released. -/
def stop (channel : Channel η κ) : Channel η κ × PumpOutput η κ :=
  let ending := channel.ending
  let disconnected := channel.onDisconnected.map fun callback => ⟨callback, ending⟩
  (ending.release, { disconnected := disconnected, hungUp := true })

/-- Goes on to the next frame of the outbox, or flushes if there is none. -/
def nextFrame (channel : Channel η κ) : Channel η κ :=
  match channel.outbox.pop? with
  | some (frame, outbox) => { channel with outbox := outbox, pump := .writing frame }
  | none => { channel with pump := .flushing }

def receive (decode : Bytes → Except CodecError Message) (channel : Channel η κ) (chunk : Bytes) :
    Channel η κ × List (ReaderCall η) :=
  let (reader, calls, result) := channel.reader.ingest decode chunk
  let error := match result with
    | .ok _ => none
    | .error error => some error
  ({ channel with reader := reader, pump := .dispatching error }, calls)

/-- One step of the pump; nothing if it cannot happen now. -/
def step (decode : Bytes → Except CodecError Message) (channel : Channel η κ) :
    PumpStep → Option (Channel η κ × PumpOutput η κ)
  | .shutDown =>
    if channel.pump = .waiting ∧ channel.shutdown then
      some { channel with shutdown := false }.stop
    else none
  | .wake =>
    if channel.pump = .waiting ∧ channel.outbox.wakeUp then
      some ({ channel with outbox := { channel.outbox with wakeUp := false } }.nextFrame, {})
    else none
  | .received chunk =>
    if channel.pump = .waiting ∧ chunk ≠ [] then
      let (channel, calls) := channel.receive decode chunk
      some (channel, { calls := calls })
    else none
  | .dispatched =>
    match channel.pump with
    | .dispatching none => some ({ channel with pump := .waiting }, {})
    | .dispatching (some _) => some channel.stop
    | _ => none
  | .endOfStream => if channel.pump = .waiting then some channel.stop else none
  | .readFailed => if channel.pump = .waiting then some channel.stop else none
  | .wrote count =>
    match channel.pump with
    | .writing rest =>
      if 0 < count ∧ count ≤ rest.length then
        let channel := if count = rest.length then channel.nextFrame
          else { channel with pump := .writing (rest.drop count) }
        some (channel, { written := rest.take count })
      else none
    | _ => none
  | .writeFailed =>
    match channel.pump with
    | .writing _ => some channel.stop
    | .flushing => some channel.stop
    | _ => none
  | .flushed =>
    if channel.pump = .flushing then some ({ channel with pump := .waiting }, {}) else none

end Channel

end Iso8583
