import Iso8583.Proofs.Client.Steps
import Mathlib.Logic.Relation

/-!
# What a step does to the session and its channels

The session's state, the channel that takes requests and what the session task waits for are set in
many places. Every step is a short sequence of moves, each of which sets them once.
-/

namespace Iso8583

/-- The channels of a client, the one that takes requests, the states set, and what the session task
waits for. -/
structure Line where
  channels : List (Channel Unit Unit)
  current : Option Nat
  state : SessionState
  states : List SessionState
  session : SessionTask

namespace Line

def turn (line : Line) (state : SessionState) : Line :=
  { line with state := state, states := state :: line.states }

def setChannel (line : Line) (conn : Nat) (channel : Channel Unit Unit) : Line :=
  { line with channels := line.channels.set conn channel }

/-- Takes in the end of a connection, if it has come. -/
def heed (line : Line) (ended : Bool) : Line :=
  if ended then { line with current := none }.turn .disconnected else line

theorem channels_heed (line : Line) (ended : Bool) : (line.heed ended).channels = line.channels := by
  cases ended <;> rfl

theorem session_heed (line : Line) (ended : Bool) : (line.heed ended).session = line.session := by
  cases ended <;> rfl

end Line

/-- One change of the session and its channels. A connection in `acked` has its handshake
acknowledged, and `overtaken` says that a close may be over before the session task has finished. -/
inductive Move (acked : Nat → Prop) (overtaken : Prop) : Line → Line → Prop where
  /-- An attempt to connect starts. -/
  | attempt {line : Line} (idle : line.session = .idle) :
      Move acked overtaken line ({ line with session := .connecting }.turn .connecting)
  /-- The attempt fails. -/
  | fail {line : Line} (connecting : line.session = .connecting) :
      Move acked overtaken line { line.turn .disconnected with session := .pausing }
  /-- The attempt succeeds, and the channel of the connection is bound. -/
  | join {line : Line} (connecting : line.session = .connecting) (key : String) :
      Move acked overtaken line
        ({ line with
          channels := line.channels ++ [Client.boundChannel]
          current := some line.channels.length
          session := .handshaking line.channels.length key }.turn .awaitingHandshakeAck)
  /-- A message is queued on a channel. -/
  | write {line : Line} {conn : Nat} {channel after : Channel Unit Unit} {codec : Codec} {msg : Message}
      (found : line.channels[conn]? = some channel) (written : channel.write codec msg = .ok after) :
      Move acked overtaken line (line.setChannel conn after)
  /-- A channel is asked to end. -/
  | close {line : Line} {conn : Nat} {channel : Channel Unit Unit}
      (found : line.channels[conn]? = some channel) :
      Move acked overtaken line (line.setChannel conn channel.close)
  /-- The handshake of an open channel is acknowledged. -/
  | activate {line : Line} {conn : Nat} {key : String} {channel : Channel Unit Unit}
      (handshaking : line.session = .handshaking conn key) (found : line.channels[conn]? = some channel)
      (unended : channel.isOpen = true) (acknowledged : acked conn) :
      Move acked overtaken line ({ line with session := .attached conn }.turn .active)
  /-- The handshake is given up. -/
  | refuse {line : Line} {conn : Nat} {key : String} (handshaking : line.session = .handshaking conn key) :
      Move acked overtaken line { line with session := .attached conn }
  /-- The pause after a failed attempt is over. -/
  | rest {line : Line} (pausing : line.session = .pausing) :
      Move acked overtaken line { line with session := .idle }
  /-- The session task sees the end of its connection. -/
  | leave {line : Line} {conn : Nat} {channel : Channel Unit Unit}
      (on : line.session = .attached conn ∨ ∃ key, line.session = .handshaking conn key)
      (found : line.channels[conn]? = some channel) (released : channel.released = true) :
      Move acked overtaken line { line with session := .idle }
  /-- The session task finishes. -/
  | finish {line : Line} :
      Move acked overtaken line { { line with current := none }.turn .disconnected with session := .finished }
  /-- A close is over. -/
  | settle {line : Line} (due : line.session = .finished ∨ overtaken) :
      Move acked overtaken line (line.turn .disconnected)
  /-- The pump of a channel takes a step. -/
  | pump {line : Line} {conn : Nat} {channel after : Channel Unit Unit}
      {decode : Bytes → Except CodecError Message} {step : PumpStep} {output : PumpOutput Unit Unit}
      (found : line.channels[conn]? = some channel)
      (stepped : channel.step decode step = some (after, output)) :
      Move acked overtaken line ((line.setChannel conn after).heed output.disconnected.isSome)

theorem Move.mono {acked more : Nat → Prop} {overtaken later : Prop} (grows : ∀ conn, acked conn → more conn)
    (stays : overtaken → later) {line next : Line} (move : Move acked overtaken line next) :
    Move more later line next := by
  cases move with
  | attempt idle => exact .attempt idle
  | fail connecting => exact .fail connecting
  | join connecting key => exact .join connecting key
  | write found written => exact .write found written
  | close found => exact .close found
  | activate handshaking found unended acknowledged =>
    exact .activate handshaking found unended (grows _ acknowledged)
  | refuse handshaking => exact .refuse handshaking
  | rest pausing => exact .rest pausing
  | leave on found released => exact .leave on found released
  | finish => exact .finish
  | settle due => exact .settle (due.imp_right stays)
  | pump found stepped => exact .pump found stepped

abbrev Moves (acked : Nat → Prop) (overtaken : Prop) : Line → Line → Prop :=
  Relation.ReflTransGen (Move acked overtaken)

variable {ι : Type} [DecidableEq ι]

def Client.line (client : Client ι) : Line :=
  ⟨client.channels, client.current, client.state, client.states, client.session⟩

/-- Whether a close is over in this step before the session task has finished: no one awaits its end. -/
def Moment.overtakes (moment : Moment ι) : Bool :=
  match moment.event, moment.before.handle with
  | .close, .spent => moment.before.session ≠ .finished
  | _, _ => false

/-- Whether the session becomes active in a step, with the reply to the handshake of a connection. -/
def Moment.Activates (moment : Moment ι) (conn : Nat) : Prop :=
  (∃ key, .acknowledged conn key ∈ moment.acknowledged) ∧ moment.after.state = .active

namespace Client

variable {acked : Nat → Prop} {overtaken : Prop} {client after : Client ι} {now : Duration} {effects : List (ClientEffect ι)}

/-! ## Handshakes -/

omit [DecidableEq ι] in
theorem moves_closeChannel (client : Client ι) (conn : Nat) :
    Moves acked overtaken client.line (client.closeChannel conn).line := by
  unfold closeChannel
  split
  · rename_i channel found
    exact .single (.close found)
  · exact .refl

omit [DecidableEq ι] in
theorem moves_endHandshake (client : Client ι) (now : Duration) (conn : Nat) (key : String)
    {acknowledged : Bool}
    (acks : acknowledged = true → (client.endHandshake now conn acknowledged).state = .active →
      acked conn) :
    Moves acked overtaken { client.line with session := .handshaking conn key }
      (client.endHandshake now conn acknowledged).line := by
  unfold endHandshake at acks ⊢
  dsimp only at acks ⊢
  split
  · rename_i both
    rw [if_pos both] at acks
    obtain ⟨yes, unended⟩ := Bool.and_eq_true_iff.1 both
    obtain ⟨channel, found, live⟩ := (Option.any_eq_true _ _).1 unended
    exact .single (.activate rfl found live (acks yes rfl))
  · have refused : Move acked overtaken { client.line with session := .handshaking conn key }
        { client.line with session := .attached conn } := .refuse rfl
    exact .head refused (moves_closeChannel { client with session := .attached conn } conn)

omit [DecidableEq ι] in
theorem moves_checkHandshake (client : Client ι) (now : Duration) (conn : Nat) (key : String)
    (acks : client.store.contains key = true → (client.checkHandshake now conn key).1.state = .active →
      acked conn) :
    Moves acked overtaken { client.line with session := .handshaking conn key }
      (client.checkHandshake now conn key).1.line := by
  unfold checkHandshake PendingReplies.remove at acks ⊢
  cases found : client.store.get? key with
  | some bytes =>
    rw [found] at acks
    exact moves_endHandshake { client with store := (client.store.erase key).finish key } now conn key
      fun _ => acks (PendingReplies.contains_of_get? found)
  | none => exact .refl

omit [DecidableEq ι] in
theorem contains_checkHandshake (client : Client ι) (now : Duration) (conn : Nat) (key : String) :
    (client.checkHandshake now conn key).1.store.contains key = false := by
  unfold checkHandshake PendingReplies.remove
  cases found : client.store.get? key with
  | some bytes =>
    have left := desk_endHandshake { client with store := (client.store.erase key).finish key } now conn
      (client.codec.decode bytes).isOk
    dsimp only
    rw [show (Client.endHandshake _ now conn _).store = _ from congrArg Desk.store left]
    exact PendingReplies.get?_eq_none_iff.1 (PendingReplies.get?_erase_self client.store key)
  | none => exact PendingReplies.get?_eq_none_iff.1 found

omit [DecidableEq ι] in
theorem moves_startHandshake (client : Client ι) (now : Duration) (conn : Nat) (unique : Nat → String)
    (acks : client.store.contains (client.handshakeKey unique) = true →
      (client.startHandshake now conn unique).1.store.contains (client.handshakeKey unique) = false →
      (client.startHandshake now conn unique).1.state = .active → acked conn) :
    Moves acked overtaken { client.line with session := .handshaking conn (client.handshakeKey unique) }
      (client.startHandshake now conn unique).1.line := by
  obtain fails | ⟨store, before, channel, msg, begun, found, written, sent⟩ :=
    client.startHandshake_cases now conn unique
  · rw [fails]
    exact moves_endHandshake client now conn _ (by simp)
  · have held : client.store.contains (client.handshakeKey unique) =
        store.contains (client.handshakeKey unique) := by
      rw [(PendingReplies.begin?_eq_some_iff.1 begun).2]
      rfl
    rw [sent, held] at acks
    rw [sent]
    have queued : Move acked overtaken { client.line with session := .handshaking conn (client.handshakeKey unique) }
        ({ client.line with session := .handshaking conn (client.handshakeKey unique) }.setChannel conn
          channel) := .write found written
    refine .head queued ?_
    exact moves_checkHandshake (({ client with store := store } : Client ι).setChannel conn channel) now
      conn _ fun there => acks there (contains_checkHandshake _ now conn _)

/-! ## Calls -/

omit [DecidableEq ι] in
theorem line_decodeReply (client : Client ι) (bytes : Bytes) :
    (client.decodeReply bytes).1.line = client.line := by
  unfold decodeReply
  split <;> rfl

theorem line_checkReply (client : Client ι) (id : ι) (key : String) (timeout : Duration) (poll : Poll) :
    (client.checkReply id key timeout poll).1.line = client.line := by
  unfold checkReply PendingReplies.remove
  dsimp only
  split
  · exact line_decodeReply _ _
  · rfl
  · rfl
  · rfl

omit [DecidableEq ι] in
theorem moves_register {key : String} {msg : Message} (sent : client.register key msg = .awaiting after) :
    Moves acked overtaken client.line after.line := by
  cases departs_of_awaiting sent with
  | queued current found begun written => exact .single (.write found written)
  | @closing conn channel store => exact moves_closeChannel { client with store := store } conn

theorem moves_send (client : Client ι) (id : ι) (msg : Message) (timeout : Duration) :
    Moves acked overtaken client.line (client.send id msg timeout).1.line := by
  unfold send
  split
  · exact .refl
  split
  · exact .refl
  split
  · exact .refl
  split
  · rename_i bytes store found
    have same := line_decodeReply { client with store := store } bytes
    change Moves acked overtaken client.line ({ client with store := store }.decodeReply bytes).1.line
    rw [same]
    exact .refl
  · split
    · rename_i refused
      cases eq_of_refused refused
      exact .refl
    · rename_i after sent
      rw [line_checkReply]
      exact moves_register sent

theorem moves_checkActive (client : Client ι) (id : ι) (timeout : Duration) (poll : Poll)
    (next : Option Message) : Moves acked overtaken client.line (client.checkActive id timeout poll next).1.line := by
  unfold checkActive
  dsimp only
  split
  · split
    · exact .refl
    · exact moves_send client id _ _
  · exact .refl
  · exact .refl
  · exact .refl

/-! ## Pumps -/

omit [DecidableEq ι] in
theorem line_take (client : Client ι) (call : ReaderCall Unit) : (client.take call).line = client.line := by
  unfold take record
  split
  · split
    · rfl
    · split <;> rfl
  · rfl

omit [DecidableEq ι] in
theorem line_takeOutput (client : Client ι) (now : Duration) (conn : Nat) (output : PumpOutput Unit Unit) :
    (client.takeOutput now conn output).1.line = client.line.heed output.disconnected.isSome := by
  have taken : (output.calls.foldl take client).line = client.line := by
    generalize output.calls = calls
    induction calls generalizing client with
    | nil => rfl
    | cons call calls ih => exact (ih (client.take call)).trans (client.line_take call)
  unfold takeOutput
  dsimp only
  cases output.disconnected with
  | none => exact taken
  | some callback =>
    rw [← taken]
    rfl

omit [DecidableEq ι] in
theorem moves_stepPump {conn : Nat} {step : PumpStep}
    (taken : client.stepPump now conn step = some (after, effects)) :
    Moves acked overtaken client.line after.line := by
  obtain ⟨channel, mid, output, next, first, found, stepped, handed, rest⟩ := stepPump_cases taken
  have moved : Move acked overtaken client.line next.line := by
    have line := line_takeOutput (client.setChannel conn mid) now conn output
    rw [handed] at line
    rw [line]
    exact .pump found stepped
  obtain ⟨rfl, -⟩ | ⟨last, more, second, dispatched, handed', -⟩ := rest
  · exact .single moved
  · have line := line_takeOutput (next.setChannel conn last) now conn more
    rw [handed'] at line
    have there : next.line.channels[conn]? = some mid := by
      have bound := (List.getElem?_eq_some_iff.1 found).1
      have before := line_takeOutput (client.setChannel conn mid) now conn output
      rw [handed] at before
      rw [before, Line.channels_heed]
      exact List.getElem?_set_self bound
    have again : Move acked overtaken next.line after.line := by
      rw [line]
      exact .pump there dispatched
    exact .head moved (.single again)

/-! ## All events -/

omit [DecidableEq ι] in
theorem line_eq_of_handshaking {conn : Nat} {key : String}
    (session : client.session = .handshaking conn key) :
    client.line = { client.line with session := .handshaking conn key } := by
  rw [← session]
  rfl

omit [DecidableEq ι] in
theorem line_cancelWait (client : Client ι) : client.cancelWait.line = client.line := by
  unfold cancelWait
  split <;> rfl

omit [DecidableEq ι] in
theorem acknowledged_of_connected {unique : Nat → String} (session : client.session = .connecting)
    (held : client.store.contains (client.handshakeKey unique) = true)
    (gone : after.store.contains (client.handshakeKey unique) = false) :
    .acknowledged client.channels.length (client.handshakeKey unique) ∈
      Moment.acknowledged ⟨now, .connected unique, client, after, effects⟩ := by
  have handshake : client.handshake? (.connected unique) =
      some (client.channels.length, client.handshakeKey unique) := if_pos session
  unfold Moment.acknowledged
  simp [handshake, held, gone]

omit [DecidableEq ι] in
theorem acknowledged_of_check {conn : Nat} {key : String} (session : client.session = .handshaking conn key)
    (checks : client.checkHandshake now conn key = (after, effects))
    (held : client.store.contains key = true) :
    .acknowledged conn key ∈
      Moment.acknowledged ⟨now, .sessionSlept true, client, after, effects⟩ := by
  have gone := contains_checkHandshake client now conn key
  rw [checks] at gone
  simp [Moment.acknowledged, handshake?, session, held, gone]

omit [DecidableEq ι] in
theorem moves_of_connected {unique : Nat → String} (session : client.session = .connecting)
    (starts : client.joined.startHandshake now client.channels.length unique = (after, effects)) :
    Moves (Moment.Activates ⟨now, .connected unique, client, after, effects⟩) overtaken client.line
      after.line := by
  have ends : (client.joined.startHandshake now client.channels.length unique).1 = after :=
    congrArg Prod.fst starts
  rw [← ends]
  refine .head (.join session (client.handshakeKey unique)) ?_
  refine moves_startHandshake client.joined now client.channels.length unique fun held gone active => ?_
  exact ⟨⟨_, acknowledged_of_connected session held gone⟩, active⟩

omit [DecidableEq ι] in
theorem moves_of_check {conn : Nat} {key : String} (session : client.session = .handshaking conn key)
    (checks : client.checkHandshake now conn key = (after, effects)) :
    Moves (Moment.Activates ⟨now, .sessionSlept true, client, after, effects⟩) overtaken client.line
      after.line := by
  rw [line_eq_of_handshaking session]
  have ends : (client.checkHandshake now conn key).1 = after := congrArg Prod.fst checks
  rw [← ends]
  refine moves_checkHandshake client now conn key fun held active => ?_
  exact ⟨⟨_, ends.symm ▸ acknowledged_of_check session checks held⟩, active⟩

theorem moves_of_handles {id : ι} {event : ClientEvent ι} (handles : client.Handles id event after effects) :
    Moves acked overtaken client.line after.line := by
  cases handles with
  | @send msg timeout _ _ free sends =>
    have moves := @moves_send ι _ acked overtaken client id msg timeout
    rwa [sends] at moves
  | @await timeout next _ _ free checks =>
    have moves := @moves_checkActive ι _ acked overtaken client id timeout (client.pollFor timeout) next
    rwa [checks] at moves
  | @checkReply key timeout poll _ _ held checks =>
    have line := line_checkReply client id key timeout poll.slept
    rw [checks] at line
    rw [show after.line = client.line from line]
  | @checkActive timeout poll next _ _ held checks =>
    have moves := @moves_checkActive ι _ acked overtaken client id timeout poll.slept next
    rwa [checks] at moves
  | wakeReply | wakeActive | dropReply | dropActive => exact .refl

theorem moves_of_step {event : ClientEvent ι} (taken : client.step now event = some (after, effects)) :
    Moves (Moment.Activates ⟨now, event, client, after, effects⟩)
      (Moment.overtakes ⟨now, event, client, after, effects⟩ = true) client.line after.line := by
  cases takes_of_step taken with
  | attempt idle => exact .single (.attempt idle)
  | join connecting starts => exact moves_of_connected connecting starts
  | fail connecting => exact .single (.fail connecting)
  | rest pausing => exact .single (.rest pausing)
  | check handshaking checks => exact moves_of_check handshaking checks
  | interrupt handshaking =>
    rw [line_eq_of_handshaking handshaking, ← line_cancelWait]
    exact moves_endHandshake client.cancelWait now _ _ (by simp)
  | lose handshaking ended =>
    obtain ⟨channel, found, released⟩ := (Option.any_eq_true _ _).1 ended
    have gone : ({ client.cancelWait with session := .idle } : Client ι).line =
        { client.cancelWait.line with session := .idle } := rfl
    rw [gone, line_cancelWait]
    exact .single (.leave (.inr ⟨_, handshaking⟩) found released)
  | leave attached ended =>
    obtain ⟨channel, found, released⟩ := (Option.any_eq_true _ _).1 ended
    exact .single (.leave (.inl attached) found released)
  | finish asked unfinished current =>
    have same : ({ client.cancelWait.setState .disconnected with session := .finished } : Client ι).line =
        { { client.cancelWait.line with current := none }.turn .disconnected with
          session := .finished } := by
      rw [← current]
      rfl
    rw [same, line_cancelWait]
    exact .single .finish
  | @finishOn conn asked unfinished current =>
    rw [← line_cancelWait]
    exact (moves_closeChannel client.cancelWait conn).tail .finish
  | pump stepped => exact moves_stepPump stepped
  | call handles => exact moves_of_handles handles
  | close | dropClose | drop => exact .refl
  | closeAtOnce spent =>
    refine .single (.settle ?_)
    by_cases finished : client.session = .finished
    · exact .inl finished
    · exact .inr (by simp [Moment.overtakes, spent, finished])
  | settle awaited finished => exact .single (.settle (.inl finished))

end Client

end Iso8583
