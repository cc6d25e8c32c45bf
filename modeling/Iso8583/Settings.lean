import Iso8583.Config
import Iso8583.Json.Reader

/-!
# Client settings

What a client's user may set, as a JSON object or as an array of the values in order. Only the host
and the port are required; durations are in milliseconds.
-/

namespace Iso8583

/-- A client's settings. -/
structure ClientSettings where
  host : String
  port : Nat
  keyFields : Option String := none
  responseTimeout : Option Nat := none
  connectTimeout : Option Nat := none
  pollInterval : Option Nat := none
  deriving DecidableEq, Repr

namespace ClientSettings

open Json

/-! ## Reading -/

/-- What has been read of the settings. -/
structure Draft where
  host : Option String := none
  port : Option Nat := none
  keyFields : Option (Option String) := none
  responseTimeout : Option (Option Nat) := none
  connectTimeout : Option (Option Nat) := none
  pollInterval : Option (Option Nat) := none

def Draft.settings (draft : Draft) : Except Problem ClientSettings :=
  match draft.host, draft.port with
  | some host, some port =>
    .ok ⟨host, port, draft.keyFields.join, draft.responseTimeout.join, draft.connectTimeout.join,
      draft.pollInterval.join⟩
  | _, _ => .error .mismatch

def readPort : Reader Nat := readNatural UInt16.size

/-- Reads a number of milliseconds, or `null`. -/
def readMillis : Reader (Option Nat) := readOptional (readNatural UInt64.size)

/-- Reads the value of a member whose key has just been read; it must not be set yet. -/
def readMember {α : Type} (present : Option α) (read : Reader α) : Reader α := fun s =>
  if present.isSome then .error .mismatch
  else do read (← readColon s)

/-- Takes in one member. Nothing known may be repeated. -/
def readEntry (draft : Draft) : Reader Draft := fun s => do
  let (key, s) ← readString s
  if key = "host" then
    let (value, s) ← readMember draft.host readText s
    return ({ draft with host := some value }, s)
  else if key = "port" then
    let (value, s) ← readMember draft.port readPort s
    return ({ draft with port := some value }, s)
  else if key = "keyFields" then
    let (value, s) ← readMember draft.keyFields (readOptional readText) s
    return ({ draft with keyFields := some value }, s)
  else if key = "response_timeout" then
    let (value, s) ← readMember draft.responseTimeout readMillis s
    return ({ draft with responseTimeout := some value }, s)
  else if key = "connect_timeout" then
    let (value, s) ← readMember draft.connectTimeout readMillis s
    return ({ draft with connectTimeout := some value }, s)
  else if key = "poll_interval" then
    let (value, s) ← readMember draft.pollInterval readMillis s
    return ({ draft with pollInterval := some value }, s)
  else
    return (draft, ← skipMember s)

def readRequired {α : Type} (first : Bool) (read : Reader α) : Reader α := fun s => do
  let some s ← nextElement first s | .error .mismatch
  read s

/-- Reads an element that may be left out at the end. -/
def readTrailing {α : Type} (read : Reader (Option α)) : Reader (Option α) := fun s => do
  match ← nextElement false s with
  | none => return (none, s)
  | some s => read s

/-- Reads settings behind the bracket of their array form. -/
def readElements : Reader ClientSettings := fun s => do
  let (host, s) ← readRequired true readText s
  let (port, s) ← readRequired false readPort s
  let (keyFields, s) ← readTrailing (readOptional readText) s
  let (responseTimeout, s) ← readTrailing readMillis s
  let (connectTimeout, s) ← readTrailing readMillis s
  let (pollInterval, s) ← readTrailing readMillis s
  return (⟨host, port, keyFields, responseTimeout, connectTimeout, pollInterval⟩, ← endArray s)

def read : Reader ClientSettings := fun s =>
  match skipBlanks s with
  | [] => .error .unfinished
  | b :: rest =>
    if b = 0x5B then readElements rest
    else if b = 0x7B then readObjectTail readEntry {} Draft.settings rest
    else .error (refuse (b :: rest))

def ofJson (text : String) : Except ConfigError ClientSettings :=
  (readDocument read (Bytes.ofText text)).mapError .json

/-! ## Use -/

/-- The configuration that the settings ask for. Setting the poll interval sets the reconnect delay
as well. -/
def config (settings : ClientSettings) : Except ConfigError ClientConfig := do
  if (Text.trim settings.host.toList).isEmpty then throw (.missing "host")
  if settings.port = 0 then throw (.missing "port")
  let address := settings.host ++ ":" ++ toString settings.port
  let keyFields ← match settings.keyFields with
    | some text => KeyFields.parse text
    | none => pure .default
  let base : ClientConfig := { address := address, keyFields := keyFields }
  let base := match settings.responseTimeout with
    | some ms => { base with responseTimeout := .ofMillis ms }
    | none => base
  let base := match settings.connectTimeout with
    | some ms => { base with connectTimeout := some (.ofMillis ms) }
    | none => base
  match settings.pollInterval with
  | some 0 => throw (.zeroDuration "poll_interval")
  | some ms => return { base with pollInterval := .ofMillis ms, reconnectDelay := .ofMillis ms }
  | none => return base

end ClientSettings

end Iso8583
