import Iso8583.Client
import Iso8583.Codec.Binary
import Mathlib.Data.List.Induction

/-!
# Runs of a client

A run is a sequence of steps, each taken by the event that comes next. What a run did with requests and
replies is read off its steps, in one journal.
-/

namespace Iso8583

structure Moment (ι : Type) where
  now : Duration
  event : ClientEvent ι
  before : Client ι
  after : Client ι
  effects : List (ClientEffect ι)

/-- What a run did, as far as requests and replies are concerned. -/
inductive Entry (ι : Type) where
  /-- A call starts with a request. -/
  | asked (id : ι) (request : Message)
  /-- A message that was received is stored. -/
  | recorded (msg : Message)
  /-- A call registers the key of its request and starts to wait for the reply. -/
  | began (id : ι) (key : String)
  /-- A call that waits for its reply looks for it after a sleep. -/
  | checked (id : ι)
  /-- The sleep of a call that waits for its reply fails. -/
  | interrupted (id : ι)
  /-- The handshake of a connection takes the reply under its key. -/
  | acknowledged (conn : Nat) (key : String)
  /-- A call is given up. -/
  | dropped (id : ι)
  /-- A call ends. -/
  | ended (id : ι) (result : CallResult)
  deriving DecidableEq

def Call.key? : Call → Option String
  | .awaitingReply key _ _ => some key
  | .awaitingActive _ _ _ => none

def callIn {ι : Type} [DecidableEq ι] (calls : List (ι × Call)) (id : ι) : Option Call :=
  (calls.find? (·.1 = id)).map (·.2)

/-- The key under which the call of a given name waits for a reply. -/
def awaitedIn {ι : Type} [DecidableEq ι] (calls : List (ι × Call)) (id : ι) : Option String :=
  (callIn calls id).bind Call.key?

def ClientEvent.call? {ι : Type} : ClientEvent ι → Option ι
  | .send id _ _ => some id
  | .awaitActive id _ _ => some id
  | .callSlept id _ => some id
  | .dropCall id => some id
  | _ => none

/-- Whether the client is closed or given up by an event. -/
def ClientEvent.shuts {ι : Type} : ClientEvent ι → Bool
  | .close => true
  | .drop => true
  | _ => false

namespace Client

variable {ι : Type} [DecidableEq ι]

/-- The steps from `start` to a client, the first one first. -/
inductive Run (start : Client ι) : List (Moment ι) → Client ι → Prop where
  | start : Run start [] start
  | step {past : List (Moment ι)} {client after : Client ι} {now : Duration} {event : ClientEvent ι}
      {effects : List (ClientEffect ι)} (run : Run start past client)
      (taken : client.step now event = some (after, effects)) :
      Run start (past ++ [⟨now, event, client, after, effects⟩]) after

/-! ## Parts of a run -/

section

variable {start client : Client ι} {earlier later : List (Moment ι)}

theorem Run.of_append (run : Run start (earlier ++ later) client) :
    ∃ mid, Run start earlier mid ∧ Run mid later client := by
  induction later using List.reverseRecOn generalizing client with
  | nil =>
    rw [List.append_nil] at run
    exact ⟨client, run, .start⟩
  | append_singleton later moment ih =>
    rw [← List.append_assoc] at run
    generalize same : earlier ++ later ++ [moment] = whole at run
    cases run with
    | start => simp at same
    | step run taken =>
      obtain ⟨rfl, last⟩ := List.append_inj' same rfl
      cases last
      obtain ⟨mid, first, next⟩ := ih run
      exact ⟨mid, first, .step next taken⟩

theorem Run.of_append_cons {moment : Moment ι} (run : Run start (earlier ++ moment :: later) client) :
    Run start earlier moment.before ∧
      moment.before.step moment.now moment.event = some (moment.after, moment.effects) ∧
      Run moment.after later client := by
  rw [List.append_cons] at run
  obtain ⟨mid, first, rest⟩ := run.of_append
  generalize same : earlier ++ [moment] = whole at first
  cases first with
  | start => simp at same
  | step before taken =>
    obtain ⟨rfl, last⟩ := List.append_inj' same rfl
    cases last
    exact ⟨before, taken, rest⟩

theorem Run.eq_of_nil (run : Run start [] client) : client = start := by
  generalize same : [] = past at run
  cases run with
  | start => rfl
  | step => simp at same

end

/-! ## The journal -/

/-- Whether a message is stored when it is received: it has a key and can be written. -/
def stores (client : Client ι) (msg : Message) : Bool :=
  (client.config.keyFields.keyFor msg).isOk && (client.codec.encode msg).isOk

/-- The handshake whose reply an event looks for: its connection and its key. -/
def handshake? (client : Client ι) : ClientEvent ι → Option (Nat × String)
  | .connected unique =>
    if client.session = .connecting then
      some (client.channels.length, (client.config.keyFields.stamp unique 0 ⟨handshakeMti, .empty⟩).1)
    else none
  | .sessionSlept true =>
    match client.session with
    | .handshaking conn key => some (conn, key)
    | _ => none
  | _ => none

end Client

def endedOf {ι : Type} (effects : List (ClientEffect ι)) : List (Entry ι) :=
  effects.filterMap fun
    | .finish id result => some (.ended id result)
    | _ => none

/-- The messages among some calls of a reader that are stored. -/
def storedOf {ι : Type} (client : Client ι) (calls : List (ReaderCall Unit)) : List Message :=
  calls.filterMap fun
    | .message _ msg => if client.stores msg then some msg else none
    | .dropped _ _ => none

namespace Moment

variable {ι : Type} [DecidableEq ι]

/-- The request of the call that starts in this step. -/
def asked (moment : Moment ι) : List (Entry ι) :=
  match moment.event with
  | .send id msg _ => [.asked id msg]
  | .awaitActive id _ (some msg) => [.asked id msg]
  | _ => []

/-- The messages that are read from a connection in this step and stored, in order. -/
def recorded (moment : Moment ι) : List Message :=
  match moment.event with
  | .pump conn step =>
    match moment.before.channels[conn]? with
    | none => []
    | some channel =>
      match channel.step moment.before.codec.decode step with
      | none => []
      | some (_, output) => storedOf moment.before output.calls
  | _ => []

/-- The handshake that takes its reply out of the store in this step. -/
def acknowledged (moment : Moment ι) : List (Entry ι) :=
  match moment.before.handshake? moment.event with
  | none => []
  | some (conn, key) =>
    if moment.before.store.contains key && !moment.after.store.contains key then
      [.acknowledged conn key]
    else []

/-- The key that a call registers in this step: it waits for a reply now, and did not before. -/
def began (moment : Moment ι) : List (Entry ι) :=
  match moment.event.call? with
  | none => []
  | some id =>
    if (awaitedIn moment.before.calls id).isSome then []
    else ((awaitedIn moment.after.calls id).map (.began id)).toList

/-- The end of the sleep of a call that waits for its reply. -/
def slept (moment : Moment ι) : List (Entry ι) :=
  match moment.event with
  | .callSlept id ok =>
    if (awaitedIn moment.before.calls id).isSome then [if ok then .checked id else .interrupted id] else []
  | _ => []

def dropped (moment : Moment ι) : List (Entry ι) :=
  match moment.event with
  | .dropCall id => [.dropped id]
  | _ => []

def entries (moment : Moment ι) : List (Entry ι) :=
  moment.asked ++ moment.recorded.map .recorded ++ moment.began ++ moment.slept ++
    moment.acknowledged ++ moment.dropped ++ endedOf moment.effects

end Moment

def journal {ι : Type} [DecidableEq ι] (past : List (Moment ι)) : List (Entry ι) :=
  past.flatMap Moment.entries

theorem journal_concat {ι : Type} [DecidableEq ι] (past : List (Moment ι)) (moment : Moment ι) :
    journal (past ++ [moment]) = journal past ++ moment.entries := by
  simp [journal]

/-- The request with which a call started last. -/
def requestOf {ι : Type} [DecidableEq ι] (entries : List (Entry ι)) (id : ι) : Option Message :=
  entries.reverse.findSome? fun
    | .asked caller request => if caller = id then some request else none
    | _ => none

/-! ## Runs from a list of events -/

namespace Client

variable {ι : Type} [DecidableEq ι]

/-- The steps for some events, one after the other, each at its time. -/
def replay (client : Client ι) : List (Duration × ClientEvent ι) → Option (List (Moment ι) × Client ι)
  | [] => some ([], client)
  | (now, event) :: rest => do
    let (after, effects) ← client.step now event
    let (moments, last) ← after.replay rest
    return (⟨now, event, client, after, effects⟩ :: moments, last)

theorem run_of_replay {start client last : Client ι} {past moments : List (Moment ι)}
    {events : List (Duration × ClientEvent ι)} (run : Run start past client)
    (replayed : client.replay events = some (moments, last)) : Run start (past ++ moments) last := by
  induction events generalizing past client moments with
  | nil =>
    cases replayed
    rw [List.append_nil]
    exact run
  | cons event events ih =>
    obtain ⟨now, event⟩ := event
    obtain ⟨⟨after, effects⟩, taken, replayed⟩ := Option.bind_eq_some_iff.1 replayed
    obtain ⟨⟨rest, final⟩, later, replayed⟩ := Option.bind_eq_some_iff.1 replayed
    cases replayed
    have whole := ih (.step run taken) later
    rw [List.append_assoc] at whole
    exact whole

end Client

/-- A message with a key and nothing else. -/
def keyedMessage (mti key : String) : Message := (⟨mti, .empty⟩ : Message).set 1000 (.text key)

def arrives (msg : Message) : ClientEvent Nat :=
  .pump 0 (.received ((Outbox.frameOf .binary msg).toOption.getD []))

/-- A client connects, its handshake is acknowledged, a request is sent, and its reply arrives. -/
def exchange : List (Duration × ClientEvent Nat) :=
  [(⟨0⟩, .attempt), (⟨1⟩, .connected fun _ => "h"), (⟨2⟩, arrives (keyedMessage "2810" "h")),
    (⟨3⟩, .sessionSlept true), (⟨4⟩, .send 7 (keyedMessage "0200" "a") (.ofSeconds 1)),
    (⟨5⟩, arrives (keyedMessage "0210" "a"))]

def exchanged : List (Entry Nat) :=
  [.recorded (keyedMessage "2810" "h"), .acknowledged 0 "h", .asked 7 (keyedMessage "0200" "a"),
    .began 7 "a", .recorded (keyedMessage "0210" "a")]

theorem exists_run_of_replay {α : Type} (start : Client Nat) (events : List (Duration × ClientEvent Nat))
    (seen : List (Moment Nat) → Client Nat → α) (result : α)
    (replayed : (start.replay events).map (fun run => seen run.1 run.2) = some result) :
    ∃ past client, Client.Run start past client ∧ seen past client = result := by
  obtain ⟨⟨past, client⟩, taken, same⟩ := Option.map_eq_some_iff.1 replayed
  exact ⟨past, client, Client.run_of_replay .start taken, same⟩

end Iso8583
