import Iso8583.Error

/-!
# Writing frames to a connection

An outbox queues the frames of messages until the connection takes them. It holds at most one wake-up
for the side that empties it, left by the message that found the queue empty.
-/

namespace Iso8583

/-- The life of an outbox. -/
inductive OutboxStatus where
  | unbound
  | bound
  | shut
  deriving DecidableEq, Repr

/-- The outbound half of a connection. -/
structure Outbox where
  status : OutboxStatus := .unbound
  /-- The frames not taken yet, the oldest first. -/
  queue : List Bytes := []
  wakeUp : Bool := false
  deriving DecidableEq

namespace Outbox

def isOpen (outbox : Outbox) : Bool := outbox.status = .bound

def bind (outbox : Outbox) : Outbox :=
  if outbox.status = .unbound then { outbox with status := .bound } else outbox

def shut (outbox : Outbox) : Outbox :=
  { outbox with status := .shut, queue := [] }

def frameOf (codec : Codec) (msg : Message) : Except ChannelError Bytes :=
  match codec.encode msg with
  | .error error => .error (.codec error)
  | .ok payload => (frame payload).mapError .wire

def push (outbox : Outbox) (frame : Bytes) : Outbox :=
  { outbox with
    queue := outbox.queue ++ [frame]
    wakeUp := outbox.wakeUp || outbox.queue.isEmpty }

def write (codec : Codec) (outbox : Outbox) (msg : Message) : Except ChannelError Outbox :=
  match outbox.status with
  | .unbound => .error .notBound
  | .shut => .error .closed
  | .bound => (frameOf codec msg).map outbox.push

def pop? (outbox : Outbox) : Option (Bytes × Outbox) :=
  match outbox.queue with
  | [] => none
  | frame :: queue => some (frame, { outbox with queue := queue })

end Outbox

end Iso8583
