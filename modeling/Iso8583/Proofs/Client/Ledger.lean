import Iso8583.Proofs.Client.Inversion
import Iso8583.Proofs.Client.Session

/-!
# What a step does to the connection counters

The counters of connections are kept by the session task, by its handshake and by the pumps as they stop. A
step posts at most one entry to them, together with what the session task waits for next.
-/

namespace Iso8583

/-- The connection counters of a client, the connections it has made and those whose pump runs, and where
its session task stands. -/
structure Ledger where
  closed : Bool
  shutdown : Bool
  handle : SessionHandle
  session : SessionTask
  conns : Nat
  running : Nat
  attempts : Nat
  failures : Nat
  established : Nat
  handshakes : Nat
  disconnects : Nat

inductive Ledger.Posts {ι : Type} (ledger : Ledger) : ClientEvent ι → Ledger → Prop where
  | attempt (idle : ledger.session = .idle) :
      Posts ledger .attempt { ledger with session := .connecting, attempts := ledger.attempts + 1 }
  | fail (connecting : ledger.session = .connecting) :
      Posts ledger .connectFailed { ledger with session := .pausing, failures := ledger.failures + 1 }
  /-- A connection is made, and its handshake goes on. -/
  | join {unique : Nat → String} (connecting : ledger.session = .connecting) (key : String) :
      Posts ledger (.connected unique)
        { ledger with
          session := .handshaking ledger.conns key
          conns := ledger.conns + 1
          running := ledger.running + 1
          established := ledger.established + 1 }
  /-- A connection is made, and its handshake is over at once. -/
  | joinAtOnce {unique : Nat → String} {acks : Nat} (connecting : ledger.session = .connecting)
      (one : acks ≤ 1) :
      Posts ledger (.connected unique)
        { ledger with
          session := .attached ledger.conns
          conns := ledger.conns + 1
          running := ledger.running + 1
          established := ledger.established + 1
          handshakes := ledger.handshakes + acks }
  | rest {ok : Bool} (pausing : ledger.session = .pausing) :
      Posts ledger (.sessionSlept ok) { ledger with session := .idle }
  | wait {ok : Bool} {conn : Nat} {key : String} (handshaking : ledger.session = .handshaking conn key) :
      Posts ledger (.sessionSlept ok) ledger
  /-- The handshake is over. -/
  | attach {ok : Bool} {conn acks : Nat} {key : String}
      (handshaking : ledger.session = .handshaking conn key) (one : acks ≤ 1) :
      Posts ledger (.sessionSlept ok)
        { ledger with session := .attached conn, handshakes := ledger.handshakes + acks }
  | leave {conn : Nat} (on : ledger.session.conn? = some conn) :
      Posts ledger .connectionEnded { ledger with session := .idle }
  | finish (asked : ledger.shutdown = true) (unfinished : ledger.session ≠ .finished) :
      Posts ledger .sessionShutDown { ledger with session := .finished }
  | pump {conn : Nat} {step : PumpStep} : Posts ledger (.pump conn step) ledger
  /-- A pump stops. -/
  | stop {conn running : Nat} {step : PumpStep} (one : ledger.running = running + 1) :
      Posts ledger (.pump conn step)
        { ledger with running := running, disconnects := ledger.disconnects + 1 }
  | call {event : ClientEvent ι} {id : ι} (about : event.call? = some id) : Posts ledger event ledger
  | close (kept : ledger.handle = .kept) :
      Posts ledger .close { ledger with closed := true, shutdown := true, handle := .awaited }
  | closeAtOnce (spent : ledger.handle = .spent) :
      Posts ledger .close { ledger with closed := true, shutdown := true }
  | dropClose (awaited : ledger.handle = .awaited) :
      Posts ledger .dropClose { ledger with handle := .spent }
  | settle (awaited : ledger.handle = .awaited) (finished : ledger.session = .finished) :
      Posts ledger .closingDone { ledger with handle := .spent }
  | drop (free : ledger.handle = .kept ∨ ledger.handle = .spent) :
      Posts ledger .drop { ledger with closed := true, shutdown := true, handle := .dropped }

theorem Ledger.Posts.of_completes {ι : Type} {ledger after : Ledger} {event : ClientEvent ι}
    (posts : ledger.Posts event after) (completes : after.handshakes ≠ ledger.handshakes) :
    (∃ unique, event = .connected unique) ∨ ∃ ok, event = .sessionSlept ok := by
  cases posts with
  | joinAtOnce => exact .inl ⟨_, rfl⟩
  | attach => exact .inr ⟨_, rfl⟩
  | _ => exact absurd rfl completes

/-- The connections whose pump runs. -/
def runningIn (channels : List (Channel Unit Unit)) : Nat := channels.countP (·.pump.isAlive)

variable {ι : Type} [DecidableEq ι]

def Client.ledger (client : Client ι) : Ledger where
  closed := client.closed
  shutdown := client.shutdown
  handle := client.handle
  session := client.session
  conns := client.channels.length
  running := runningIn client.channels
  attempts := client.metrics.connectionAttempts
  failures := client.metrics.connectionFailures
  established := client.metrics.sessionsEstablished
  handshakes := client.metrics.handshakesCompleted
  disconnects := client.metrics.disconnects

theorem runningIn_set {channels : List (Channel Unit Unit)} {conn : Nat} {channel : Channel Unit Unit}
    (found : channels[conn]? = some channel) (after : Channel Unit Unit) :
    runningIn (channels.set conn after) + (if channel.pump.isAlive then 1 else 0) =
      runningIn channels + if after.pump.isAlive then 1 else 0 := by
  obtain ⟨inside, rfl⟩ := List.getElem?_eq_some_iff.1 found
  unfold runningIn
  rw [List.countP_set inside]
  split
  · rename_i alive
    have some_runs : 0 < channels.countP (·.pump.isAlive) :=
      List.countP_pos_iff.2 ⟨_, List.getElem_mem inside, alive⟩
    omega
  · omega

theorem Channel.pump_write {η κ : Type} {channel after : Channel η κ} {codec : Codec} {msg : Message}
    (written : channel.write codec msg = .ok after) : after.pump = channel.pump := by
  unfold Channel.write at written
  cases queued : channel.outbox.write codec msg <;> simp [queued, Except.map] at written
  rw [← written]

namespace Client

variable {client after : Client ι} {now : Duration} {event : ClientEvent ι}
  {effects : List (ClientEffect ι)}

/-! ## Calls -/

omit [DecidableEq ι] in
theorem ledger_setChannel {conn : Nat} {channel next : Channel Unit Unit}
    (found : client.channels[conn]? = some channel) (same : next.pump = channel.pump) :
    (client.setChannel conn next).ledger = client.ledger := by
  have count := runningIn_set found next
  rw [same] at count
  simp only [ledger, setChannel, List.length_set, Ledger.mk.injEq, true_and, and_true]
  omega

omit [DecidableEq ι] in
theorem ledger_closeChannel (client : Client ι) (conn : Nat) :
    (client.closeChannel conn).ledger = client.ledger := by
  unfold closeChannel
  split
  · rename_i channel found
    exact ledger_setChannel found channel.pump_close
  · rfl

omit [DecidableEq ι] in
theorem ledger_decodeReply (client : Client ι) (bytes : Bytes) :
    (client.decodeReply bytes).1.ledger = client.ledger := by
  unfold decodeReply
  split <;> rfl

theorem ledger_checkReply (client : Client ι) (id : ι) (key : String) (timeout : Duration) (poll : Poll) :
    (client.checkReply id key timeout poll).1.ledger = client.ledger := by
  unfold checkReply PendingReplies.remove
  dsimp only
  split
  · exact ledger_decodeReply _ _
  · rfl
  · rfl
  · rfl

omit [DecidableEq ι] in
theorem ledger_register {key : String} {msg : Message} (sent : client.register key msg = .awaiting after) :
    after.ledger = client.ledger := by
  cases departs_of_awaiting sent with
  | @queued conn channel queued store current found begun written =>
    exact @ledger_setChannel ι { client with store := store } conn channel queued found
      (Channel.pump_write written)
  | @closing conn channel store => exact ledger_closeChannel { client with store := store } conn

theorem ledger_send (client : Client ι) (id : ι) (msg : Message) (timeout : Duration) :
    (client.send id msg timeout).1.ledger = client.ledger := by
  unfold send
  split
  · rfl
  split
  · rfl
  split
  · rfl
  split
  · rename_i bytes store found
    exact ledger_decodeReply { client with store := store } bytes
  · split
    · rename_i refused
      cases eq_of_refused refused
      rfl
    · rename_i after sent
      rw [ledger_checkReply]
      exact ledger_register sent

theorem ledger_checkActive (client : Client ι) (id : ι) (timeout : Duration) (poll : Poll)
    (next : Option Message) : (client.checkActive id timeout poll next).1.ledger = client.ledger := by
  unfold checkActive
  dsimp only
  split
  · split
    · rfl
    · exact ledger_send client id _ _
  · rfl
  · rfl
  · rfl

theorem ledger_of_handles {id : ι} (handles : client.Handles id event after effects) :
    after.ledger = client.ledger := by
  cases handles with
  | @send msg timeout _ _ free sends =>
    have same := ledger_send client id msg timeout
    rwa [sends] at same
  | @await timeout next _ _ free checks =>
    have same := ledger_checkActive client id timeout (client.pollFor timeout) next
    rwa [checks] at same
  | @checkReply key timeout poll _ _ held checks =>
    have same := ledger_checkReply client id key timeout poll.slept
    rwa [checks] at same
  | @checkActive timeout poll next _ _ held checks =>
    have same := ledger_checkActive client id timeout poll.slept next
    rwa [checks] at same
  | wakeReply | wakeActive | dropReply | dropActive => rfl

/-! ## Handshakes -/

omit [DecidableEq ι] in
theorem ledger_cancelWait (client : Client ι) : client.cancelWait.ledger = client.ledger := by
  unfold cancelWait
  split <;> rfl

omit [DecidableEq ι] in
theorem ledger_endHandshake (client : Client ι) (now : Duration) (conn : Nat) (acknowledged : Bool) :
    ∃ acks ≤ 1, (client.endHandshake now conn acknowledged).ledger =
      { client.ledger with
        session := .attached conn, handshakes := client.ledger.handshakes + acks } := by
  unfold endHandshake
  dsimp only
  split
  · exact ⟨1, Nat.le_refl 1, rfl⟩
  · exact ⟨0, Nat.zero_le 1, ledger_closeChannel { client with session := .attached conn } conn⟩

omit [DecidableEq ι] in
theorem ledger_checkHandshake (client : Client ι) (now : Duration) (conn : Nat) (key : String) :
    (client.checkHandshake now conn key).1.ledger =
        { client.ledger with session := .handshaking conn key } ∨
      ∃ acks ≤ 1, (client.checkHandshake now conn key).1.ledger =
        { client.ledger with
          session := .attached conn, handshakes := client.ledger.handshakes + acks } := by
  unfold checkHandshake
  split
  · exact .inr (ledger_endHandshake { client with store := _ } now conn _)
  · exact .inl rfl

omit [DecidableEq ι] in
theorem ledger_joined (client : Client ι) :
    client.joined.ledger =
      { client.ledger with
        conns := client.ledger.conns + 1
        running := client.ledger.running + 1
        established := client.ledger.established + 1 } := by
  have runs : runningIn (client.channels ++ [boundChannel]) = runningIn client.channels + 1 := by
    simp [runningIn, boundChannel, Pump.isAlive]
  simp [ledger, joined, setState, count, runs]

omit [DecidableEq ι] in
theorem ledger_startHandshake (client : Client ι) (now : Duration) (conn : Nat) (unique : Nat → String) :
    (∃ key, (client.startHandshake now conn unique).1.ledger =
        { client.ledger with session := .handshaking conn key }) ∨
      ∃ acks ≤ 1, (client.startHandshake now conn unique).1.ledger =
        { client.ledger with
          session := .attached conn, handshakes := client.ledger.handshakes + acks } := by
  obtain fails | ⟨store, before, channel, msg, -, found, written, sent⟩ :=
    client.startHandshake_cases now conn unique
  · rw [fails]
    exact .inr (client.ledger_endHandshake now conn false)
  · have queued : ({ client with store := store }.setChannel conn channel).ledger = client.ledger :=
      @ledger_setChannel ι { client with store := store } conn before channel found
        (Channel.pump_write written)
    rw [sent, ← queued]
    exact (ledger_checkHandshake _ now conn _).imp_left fun waits => ⟨_, waits⟩

omit [DecidableEq ι] in
theorem posts_of_startHandshake {unique : Nat → String} (connecting : client.session = .connecting)
    (starts : client.joined.startHandshake now client.channels.length unique = (after, effects)) :
    client.ledger.Posts (.connected unique : ClientEvent ι) after.ledger := by
  have books := ledger_startHandshake client.joined now client.channels.length unique
  rw [starts, ledger_joined] at books
  obtain ⟨key, waits⟩ | ⟨acks, one, ends⟩ := books
  · rw [waits]
    exact .join connecting key
  · rw [ends]
    exact .joinAtOnce connecting one

omit [DecidableEq ι] in
theorem posts_of_checkHandshake {conn : Nat} {key : String}
    (handshaking : client.session = .handshaking conn key)
    (checks : client.checkHandshake now conn key = (after, effects)) :
    client.ledger.Posts (.sessionSlept true : ClientEvent ι) after.ledger := by
  have here : { client.ledger with session := .handshaking conn key } = client.ledger := by
    rw [← handshaking]
    rfl
  have books := ledger_checkHandshake client now conn key
  rw [checks, here] at books
  obtain waits | ⟨acks, one, ends⟩ := books
  · rw [waits]
    exact .wait handshaking
  · rw [ends]
    exact .attach handshaking one

/-! ## Pumps -/

omit [DecidableEq ι] in
theorem ledger_take (client : Client ι) (call : ReaderCall Unit) :
    (client.take call).ledger = client.ledger := by
  unfold take record
  split
  · split
    · rfl
    · split <;> rfl
  · rfl

omit [DecidableEq ι] in
theorem ledger_takeAll (client : Client ι) (calls : List (ReaderCall Unit)) :
    (calls.foldl take client).ledger = client.ledger := by
  induction calls generalizing client with
  | nil => rfl
  | cons call calls ih =>
    rw [List.foldl_cons, ih, ledger_take]

omit [DecidableEq ι] in
theorem ledger_takeOutput (client : Client ι) (now : Duration) (conn : Nat) (output : PumpOutput Unit Unit) :
    (client.takeOutput now conn output).1.ledger =
      { client.ledger with
        disconnects := client.ledger.disconnects + if output.disconnected.isSome then 1 else 0 } := by
  rw [← ledger_takeAll client output.calls]
  unfold takeOutput
  dsimp only
  split <;> rfl

omit [DecidableEq ι] in
theorem ledger_handed {conn : Nat} {channel mid : Channel Unit Unit} {step : PumpStep}
    {output : PumpOutput Unit Unit} {decode : Bytes → Except CodecError Message}
    (found : client.channels[conn]? = some channel) (running : channel.Running)
    (stepped : channel.step decode step = some (mid, output))
    (handed : (client.setChannel conn mid).takeOutput now conn output = (after, effects)) :
    (mid.pump = .stopped ∧ client.ledger.running = after.ledger.running + 1 ∧
        after.ledger = { client.ledger with
          running := after.ledger.running, disconnects := client.ledger.disconnects + 1 }) ∨
      mid.Running ∧ after.ledger = client.ledger := by
  have takes := ledger_takeOutput (client.setChannel conn mid) now conn output
  have count := runningIn_set found mid
  have length : (client.channels.set conn mid).length = client.channels.length := List.length_set
  rw [handed] at takes
  rw [running.pump] at count
  obtain ⟨-, stops | goes, -⟩ := Channel.step_cases stepped
  · left
    rw [stops.isSome_disconnected, running.onDisconnected] at takes
    have less : client.ledger.running = after.ledger.running + 1 := by
      rw [takes]
      rw [stops.pump] at count
      exact count.symm
    refine ⟨stops.pump, less, ?_⟩
    rw [takes]
    simp only [ledger, setChannel, length, if_true]
  · right
    refine ⟨running.goesOn goes, ?_⟩
    rw [goes.disconnected] at takes
    rw [goes.pump] at count
    have same : runningIn (client.channels.set conn mid) = runningIn client.channels := by omega
    rw [takes]
    simp only [ledger, setChannel, length, same, Option.isSome_none, Bool.false_eq_true, if_false,
      Nat.add_zero]

omit [DecidableEq ι] in
theorem posts_of_stepPump {conn : Nat} {step : PumpStep}
    (sound : ∀ channel, client.channels[conn]? = some channel → channel.Running ∨ channel.Over)
    (taken : client.stepPump now conn step = some (after, effects)) :
    client.ledger.Posts (.pump conn step : ClientEvent ι) after.ledger := by
  obtain ⟨channel, mid, output, next, first, found, stepped, handed, rest⟩ := stepPump_cases taken
  have running : channel.Running := by
    refine (sound channel found).resolve_right fun ended => ?_
    rw [ended.step_eq_none] at stepped
    cases stepped
  obtain ⟨rfl, -⟩ | ⟨last, more, second, dispatched, handed', -⟩ := rest
  · obtain ⟨-, one, same⟩ | ⟨-, same⟩ := ledger_handed found running stepped handed
    · rw [same]
      exact .stop one
    · rw [same]
      exact .pump
  · -- A pump that has stopped hands on nothing more.
    obtain ⟨stopped, -⟩ | ⟨still, same⟩ := ledger_handed found running stepped handed
    · have alive := (Channel.step_cases dispatched).1
      rw [stopped] at alive
      cases alive
    · have there : next.channels[conn]? = some mid := by
        have line := line_takeOutput (client.setChannel conn mid) now conn output
        rw [handed] at line
        have channels : next.channels = client.channels.set conn mid :=
          (congrArg Line.channels line).trans (Line.channels_heed _ _)
        rw [channels]
        exact List.getElem?_set_self (List.getElem?_eq_some_iff.1 found).1
      obtain ⟨-, one, ends⟩ | ⟨-, ends⟩ := ledger_handed there still dispatched handed'
      · rw [ends, same]
        rw [same] at one
        exact .stop one
      · rw [ends, same]
        exact .pump

/-! ## All events -/

theorem posts_of_step {acked : Nat → Prop} {overtaken : Prop} (coherent : client.line.Coherent acked overtaken)
    (taken : client.step now event = some (after, effects)) : client.ledger.Posts event after.ledger := by
  have finishes (asked : client.shutdown = true) (unfinished : client.session ≠ .finished) :
      client.cancelWait.ledger.Posts (.sessionShutDown : ClientEvent ι)
        { client.cancelWait.ledger with session := .finished } := by
    rw [ledger_cancelWait]
    exact .finish asked unfinished
  cases takes_of_step taken with
  | attempt idle => exact .attempt idle
  | join connecting starts => exact posts_of_startHandshake connecting starts
  | fail connecting => exact .fail connecting
  | rest pausing => exact .rest pausing
  | check handshaking checks => exact posts_of_checkHandshake handshaking checks
  | interrupt handshaking =>
    obtain ⟨acks, one, ends⟩ := ledger_endHandshake client.cancelWait now _ false
    rw [ends, ledger_cancelWait]
    exact .attach handshaking one
  | lose handshaking released =>
    have left : client.ledger.Posts (.connectionEnded : ClientEvent ι) { client.ledger with session := .idle } :=
      .leave (congrArg SessionTask.conn? handshaking)
    rw [← ledger_cancelWait] at left ⊢
    exact left
  | leave attached released => exact .leave (congrArg SessionTask.conn? attached)
  | finish asked unfinished current =>
    rw [← ledger_cancelWait]
    exact finishes asked unfinished
  | finishOn asked unfinished current =>
    have books := finishes asked unfinished
    rw [← ledger_closeChannel] at books
    rw [← ledger_cancelWait, ← ledger_closeChannel]
    exact books
  | pump stepped =>
    refine posts_of_stepPump (fun channel found => ?_) stepped
    exact (coherent.channels _ channel found).imp_left And.left
  | call handles =>
    rw [ledger_of_handles handles]
    exact .call handles.call?_eq
  | close kept => exact .close kept
  | closeAtOnce spent => exact .closeAtOnce spent
  | dropClose awaited => exact .dropClose awaited
  | settle awaited finished => exact .settle awaited finished
  | drop free => exact .drop free

/-! ## Handshakes that are completed -/

omit [DecidableEq ι] in
theorem completed_endHandshake_false (client : Client ι) (now : Duration) (conn : Nat) :
    (client.endHandshake now conn false).metrics.handshakesCompleted = client.metrics.handshakesCompleted :=
  congrArg Ledger.handshakes (ledger_closeChannel { client with session := .attached conn } conn)

omit [DecidableEq ι] in
theorem contains_of_completes {conn : Nat} {key : String}
    (checks : client.checkHandshake now conn key = (after, effects))
    (completes : after.metrics.handshakesCompleted ≠ client.metrics.handshakesCompleted) :
    client.store.contains key = true := by
  cases found : client.store.get? key with
  | some bytes => exact PendingReplies.contains_of_get? found
  | none =>
    unfold checkHandshake PendingReplies.remove at checks
    rw [found] at checks
    cases checks
    exact absurd rfl completes

omit [DecidableEq ι] in
theorem acknowledged_of_joins {unique : Nat → String} (connecting : client.session = .connecting)
    (starts : client.joined.startHandshake now client.channels.length unique = (after, effects))
    (completes : after.metrics.handshakesCompleted ≠ client.metrics.handshakesCompleted) :
    .acknowledged client.channels.length (client.handshakeKey unique) ∈
      Moment.acknowledged ⟨now, .connected unique, client, after, effects⟩ := by
  obtain fails | ⟨store, before, channel, msg, begun, -, -, sent⟩ :=
    client.joined.startHandshake_cases now client.channels.length unique
  · cases starts.symm.trans fails
    exact absurd (completed_endHandshake_false client.joined now _) completes
  · have ends := sent.symm.trans starts
    have gone := contains_checkHandshake
      (setChannel { client.joined with store := store } client.channels.length channel) now
      client.channels.length (client.joined.handshakeKey unique)
    rw [ends] at gone
    have held : store.contains (client.handshakeKey unique) = true :=
      @contains_of_completes ι
        (setChannel { client.joined with store := store } client.channels.length channel) _ _ _ _ _ ends
        completes
    obtain ⟨-, rfl⟩ := PendingReplies.begin?_eq_some_iff.1 begun
    exact acknowledged_of_connected connecting held gone

/-- A handshake that is completed takes its reply out of the store. -/
theorem acknowledged_of_completes {acked : Nat → Prop} {overtaken : Prop}
    (coherent : client.line.Coherent acked overtaken)
    (taken : client.step now event = some (after, effects))
    (completes : after.metrics.handshakesCompleted ≠ client.metrics.handshakesCompleted) :
    ∃ conn key, .acknowledged conn key ∈ Moment.acknowledged ⟨now, event, client, after, effects⟩ := by
  have counted : after.ledger.handshakes ≠ client.ledger.handshakes := completes
  obtain ⟨unique, rfl⟩ | ⟨ok, rfl⟩ := (posts_of_step coherent taken).of_completes counted
  · obtain ⟨connecting, starts⟩ := step_connected_eq_some_iff.1 taken
    exact ⟨_, _, acknowledged_of_joins connecting starts completes⟩
  · cases takes_of_step taken with
    | rest => exact absurd rfl completes
    | check handshaking checks =>
      exact ⟨_, _, acknowledged_of_check handshaking checks (contains_of_completes checks completes)⟩
    | interrupt =>
      rw [completed_endHandshake_false] at completes
      exact absurd (congrArg Ledger.handshakes (ledger_cancelWait client)) completes
    | call handles => cases handles

end Client

end Iso8583
