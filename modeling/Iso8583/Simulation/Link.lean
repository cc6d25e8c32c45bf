import Iso8583.Channel

/-!
# Connections in memory

A link is a connection whose far end is under control. The near end is the pump of a channel. Bytes
sent from the far end can be read at once; an end of the stream or an error comes after them.
-/

namespace Iso8583.Simulation

/-- What the far end answers by itself, at the instant at which a message is written. -/
inductive AutoReply where
  | nothing
  /-- Every request, with its response indicator. -/
  | echo
  /-- Only handshakes. -/
  | acknowledge
  deriving DecidableEq, Repr

/-- A connection in memory. -/
structure Link where
  codec : Codec
  auto : AutoReply := .nothing
  /-- The bytes that the near end has not read yet. -/
  inbound : Bytes := []
  ended : Bool := false
  readFails : Bool := false
  stalled : Bool := false
  writeFails : Bool := false
  /-- The frames that the near end writes. -/
  reader : FrameReader Unit := { onMessage := some () }
  /-- The messages written since they were last collected. -/
  received : List Message := []
  handshake : Option Message := none
  /-- Whether the near end has given the connection up. -/
  hungUp : Bool := false

namespace Link

/-! ## The far end -/

def sendBytes (link : Link) (bytes : Bytes) : Link :=
  { link with inbound := link.inbound ++ bytes }

/-- Sends a message in a frame; nothing is sent if it has none. -/
def send (link : Link) (msg : Message) : Link :=
  match Outbox.frameOf link.codec msg with
  | .ok frame => link.sendBytes frame
  | .error _ => link

/-- Sends what the far end answers to a message by itself. -/
def reply (link : Link) (msg : Message) : Link :=
  let answers := match link.auto with
    | .nothing => false
    | .echo => true
    | .acknowledge => msg.mti = handshakeMti
  match answers, msg.toResponse with
  | true, .ok response => link.send response
  | _, _ => link

/-- Takes in a message that the near end wrote. -/
def takeMessage (link : Link) (msg : Message) : Link :=
  { link with
    received := link.received ++ [msg]
    handshake := if msg.mti = handshakeMti then some msg else link.handshake }.reply msg

def take (link : Link) (bytes : Bytes) : Link :=
  let (reader, calls, _) := link.reader.ingest link.codec.decode bytes
  let messages := calls.filterMap fun call =>
    match call with
    | .message _ msg => some msg
    | .dropped .. => none
  messages.foldl takeMessage { link with reader := reader }

/-- Sends the last handshake back with another indicator and other fields; nothing if there was no
handshake. -/
def acknowledge? (link : Link) (mti : String) (unset : List UInt32)
    (set : List (UInt32 × FieldValue)) : Option Link :=
  link.handshake.map fun handshake =>
    let msg := unset.foldl Message.unset { handshake with mti := mti }
    link.send (msg.setAll set)

def collect (link : Link) : List Message × Link :=
  (link.received, { link with received := [] })

/-! ## The near end -/

/-- How many bytes the near end reads at a time. -/
def chunkSize : Nat := 4096

/-- What the pump of a channel can do next on this link, and the link after it. -/
def pumpStep? {η κ : Type} (link : Link) (channel : Channel η κ) : Option (PumpStep × Link) :=
  match channel.pump with
  | .waiting =>
    if channel.shutdown then some (.shutDown, link)
    else if channel.outbox.wakeUp then some (.wake, link)
    else if !link.inbound.isEmpty then
      some (.received (link.inbound.take chunkSize),
        { link with inbound := link.inbound.drop chunkSize })
    else if link.readFails then some (.readFailed, link)
    else if link.ended then some (.endOfStream, link)
    else none
  | .writing rest =>
    if link.writeFails then some (.writeFailed, link)
    else if link.stalled then none
    else some (.wrote rest.length, link)
  | .flushing => some (.flushed, link)
  | _ => none

end Link

/-- How many steps a simulation takes at most without time passing, and how many timers it lets go off
at most. -/
def stepLimit : Nat := 10000000

end Iso8583.Simulation
