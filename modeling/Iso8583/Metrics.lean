import Iso8583.Duration

/-!
# Session counters

The counters are words of 64 bits, of which none overflows before `2 ^ 64` events. They are natural
numbers here.
-/

namespace Iso8583

/-- What a client has counted since its start. -/
structure Metrics where
  connectionAttempts : Nat := 0
  connectionFailures : Nat := 0
  sessionsEstablished : Nat := 0
  handshakesCompleted : Nat := 0
  disconnects : Nat := 0
  requestsSent : Nat := 0
  repliesReceived : Nat := 0
  repliesClaimed : Nat := 0
  responseTimeouts : Nat := 0
  framesDropped : Nat := 0
  lastActiveAt : Option Duration := none
  lastDisconnectAt : Option Duration := none
  deriving DecidableEq, Repr

/-- The part of the connection attempts that led to a session, in double precision; zero if there
were none. -/
def Metrics.successRate (metrics : Metrics) : Float :=
  if metrics.connectionAttempts = 0 then 0
  else (UInt64.ofNat metrics.sessionsEstablished).toFloat /
    (UInt64.ofNat metrics.connectionAttempts).toFloat

end Iso8583
