import Iso8583.Proofs.Channel.Run
import Iso8583.Proofs.Client.Line
import Mathlib.Data.List.Induction

/-!
# What crosses each connection of a client

Each connection by itself is a channel that is bound, written to, closed and pumped. What crossed it in a
run is read off the steps, and the channel has run with just that.
-/

namespace Iso8583

variable {ι : Type} [DecidableEq ι]

/-! ## Reading the steps -/

namespace Client

/-- The channel of a connection. One that is still to come is new. -/
def channelAt (client : Client ι) (conn : Nat) : Channel Unit Unit :=
  client.channels[conn]?.getD newChannel

def queueOf (client : Client ι) (conn : Nat) : List Bytes := (client.channelAt conn).outbox.queue

/-- The handshake for a new connection. -/
def greeting (client : Client ι) (unique : Nat → String) : Message :=
  (client.config.keyFields.stamp unique 0 ⟨handshakeMti, .empty⟩).2

/-- The request that a call comes to send in a step. -/
def sends? (client : Client ι) : ClientEvent ι → Option Message
  | .send _ msg _ => some msg
  | .awaitActive _ _ next => if client.state = .active then next else none
  | .callSlept id true => match callIn client.calls id with
    | some (.awaitingActive _ _ next) => if client.state = .active then next else none
    | _ => none
  | _ => none

end Client

def ClientEvent.receivedOn {ι : Type} (conn : Nat) : ClientEvent ι → Bytes
  | .pump source step => if source = conn then step.chunk else []
  | _ => []

def writtenBy {ι : Type} (conn : Nat) (effects : List (ClientEffect ι)) : Bytes :=
  effects.flatMap fun
    | .write target bytes => if target = conn then bytes else []
    | _ => []

namespace Moment

def callsOn {ι : Type} (moment : Moment ι) (conn : Nat) : List (ReaderCall Unit) :=
  match moment.event with
  | .pump source step =>
    if source = conn then
      ((moment.before.channelAt source).step moment.before.codec.decode step).elim [] (·.2.calls)
    else []
  | _ => []

/-- What crosses a connection in this step. A frame has been accepted if it waits behind those that
waited before. -/
def crossing {ι : Type} (moment : Moment ι) (conn : Nat) : Crossing Unit where
  received := moment.event.receivedOn conn
  calls := moment.callsOn conn
  accepted := (moment.after.queueOf conn).drop (moment.before.queueOf conn).length
  written := writtenBy conn moment.effects

end Moment

/-- The handshake for the connection that is made in a step. -/
def Moment.greeting? {ι : Type} (moment : Moment ι) : Option Message :=
  match moment.event with
  | .connected unique => some (moment.before.greeting unique)
  | _ => none

/-- What crossed a connection in a run. -/
def crossingOn {ι : Type} (conn : Nat) (past : List (Moment ι)) : Crossing Unit :=
  past.foldl (fun crossing moment => crossing ++ moment.crossing conn) {}

omit [DecidableEq ι] in
theorem crossingOn_concat (conn : Nat) (past : List (Moment ι)) (moment : Moment ι) :
    crossingOn conn (past ++ [moment]) = crossingOn conn past ++ moment.crossing conn := by
  simp [crossingOn]

omit [DecidableEq ι] in
theorem mem_calls_crossingOn {conn : Nat} {past : List (Moment ι)} {call : ReaderCall Unit} :
    call ∈ (crossingOn conn past).calls ↔ ∃ moment ∈ past, call ∈ moment.callsOn conn := by
  induction past using List.reverseRecOn with
  | nil => simp [crossingOn]
  | append_singleton past moment ih =>
    rw [crossingOn_concat, Crossing.calls_append, List.mem_append, ih]
    simp [Moment.crossing, or_comm]

/-! ## Channels by connection -/

namespace Client

variable {client after : Client ι} {now : Duration} {event : ClientEvent ι}
  {effects : List (ClientEffect ι)}

omit [DecidableEq ι] in
theorem channelAt_of_getElem? {conn : Nat} {channel : Channel Unit Unit}
    (found : client.channels[conn]? = some channel) : client.channelAt conn = channel := by
  simp [channelAt, found]

omit [DecidableEq ι] in
theorem channelAt_set {on : Nat} {channel : Channel Unit Unit} (inside : on < client.channels.length)
    (same : after.channels = client.channels.set on channel) (conn : Nat) :
    after.channelAt conn = if conn = on then channel else client.channelAt conn := by
  unfold channelAt
  rw [same]
  by_cases here : conn = on
  · simp [here, inside]
  · simp [here, Ne.symm here]

omit [DecidableEq ι] in
theorem channelAt_closeChannel {on : Nat} (inside : on < client.channels.length) (conn : Nat) :
    (client.closeChannel on).channelAt conn =
      if conn = on then (client.channelAt conn).close else client.channelAt conn := by
  obtain ⟨channel, found⟩ : ∃ channel, client.channels[on]? = some channel :=
    ⟨_, List.getElem?_eq_getElem inside⟩
  have same : (client.closeChannel on).channels = client.channels.set on channel.close := by
    simp [closeChannel, found, setChannel]
  rw [channelAt_set inside same]
  split
  · rename_i here
    rw [here, channelAt_of_getElem? found]
  · rfl

omit [DecidableEq ι] in
theorem closeChannel_of_absent {on : Nat} (absent : client.channels.length ≤ on) :
    client.closeChannel on = client := by
  simp [closeChannel, List.getElem?_eq_none absent]

omit [DecidableEq ι] in
theorem channelAt_closeChannel_cases (client : Client ι) (on conn : Nat) :
    (client.closeChannel on).channelAt conn = client.channelAt conn ∨
      conn = on ∧ (client.closeChannel on).channelAt conn = (client.channelAt conn).close := by
  by_cases inside : on < client.channels.length
  · rw [channelAt_closeChannel inside]
    split
    · exact .inr ⟨‹_›, rfl⟩
    · exact .inl rfl
  · rw [closeChannel_of_absent (Nat.le_of_not_lt inside)]
    exact .inl rfl

/-! ## Steps that are not of a pump -/

/-- What a step that is not of a pump can make of the channel of a connection. -/
inductive Becomes (client : Client ι) (event : ClientEvent ι) (conn : Nat) : Channel Unit Unit → Prop where
  | same : Becomes client event conn (client.channelAt conn)
  | close : Becomes client event conn (client.channelAt conn).close
  /-- The channel that takes requests takes the one that a call sends. -/
  | write {msg : Message} {queued : Channel Unit Unit} (sends : client.sends? event = some msg)
      (current : client.current = some conn)
      (written : (client.channelAt conn).write client.codec msg = .ok queued) :
      Becomes client event conn queued
  /-- The channel is bound, and closed again since there is no handshake for it. -/
  | refuse {unique : Nat → String} (joins : event = .connected unique)
      (newest : conn = client.channels.length)
      (reason : client.store.isInFlight (client.handshakeKey unique) = true ∨
        ∃ error, boundChannel.write client.codec (client.greeting unique) = .error error) :
      Becomes client event conn boundChannel.close
  /-- The channel is bound and takes the handshake. -/
  | greet {unique : Nat → String} {queued last : Channel Unit Unit} (joins : event = .connected unique)
      (newest : conn = client.channels.length)
      (written : boundChannel.write client.codec (client.greeting unique) = .ok queued)
      (rest : last = queued ∨ last = queued.close) : Becomes client event conn last

def Silent {ι : Type} (effects : List (ClientEffect ι)) : Prop :=
  ∀ conn bytes, .write conn bytes ∉ effects

omit [DecidableEq ι] in
theorem writtenBy_of_silent (silent : Silent effects) (conn : Nat) : writtenBy conn effects = [] := by
  unfold writtenBy
  rw [List.flatMap_eq_nil_iff]
  intro effect mem
  cases effect with
  | write target bytes => exact absurd mem (silent target bytes)
  | _ => rfl

omit [DecidableEq ι] in
theorem writtenBy_append (conn : Nat) (effects more : List (ClientEffect ι)) :
    writtenBy conn (effects ++ more) = writtenBy conn effects ++ writtenBy conn more := by
  simp [writtenBy]

omit [DecidableEq ι] in
theorem channelAt_of_line (same : after.line = client.line) (conn : Nat) :
    after.channelAt conn = client.channelAt conn := by
  have channels : after.channels = client.channels := congrArg Line.channels same
  rw [channelAt, channels, channelAt]

/-! ### Calls -/

theorem silent_checkReply (client : Client ι) (id : ι) (key : String) (timeout : Duration) (poll : Poll) :
    Silent (client.checkReply id key timeout poll).2 := by
  intro conn bytes
  obtain ⟨bytes, -, -, effects⟩ | ⟨error, -, -, -, effects⟩ | ⟨-, sleeps⟩ :=
    client.checkReply_cases id key timeout poll
  · simp [effects]
  · simp [effects]
  · simp [sleeps, sleepCall]

/-- What can become of the channels when a call comes to send a request: it goes to the channel that takes
requests, or nowhere. -/
inductive Passes (client : Client ι) (msg : Message) : Line → Prop where
  | same : Passes client msg client.line
  | close {conn : Nat} (current : client.current = some conn) : Passes client msg (client.closeChannel conn).line
  | write {conn : Nat} {channel queued : Channel Unit Unit} (current : client.current = some conn)
      (found : client.channels[conn]? = some channel) (written : channel.write client.codec msg = .ok queued) :
      Passes client msg (client.line.setChannel conn queued)

theorem send_cases (client : Client ι) (id : ι) (msg : Message) (timeout : Duration) :
    Silent (client.send id msg timeout).2 ∧ client.Passes msg (client.send id msg timeout).1.line := by
  have ends (last : Client ι) (result : CallResult) : Silent (last.endCall id result).2 := by
    simp [Silent, endCall]
  unfold send
  split
  · exact ⟨ends _ _, .same⟩
  split
  · exact ⟨ends _ _, .same⟩
  split
  · exact ⟨ends _ _, .same⟩
  split
  · rename_i bytes store found
    have line : ({ client with store := store }.decodeReply bytes).1.line = client.line :=
      line_decodeReply { client with store := store } bytes
    refine ⟨ends _ _, ?_⟩
    change client.Passes msg ({ client with store := store }.decodeReply bytes).1.line
    exact line ▸ .same
  split
  · rename_i refused
    cases eq_of_refused refused
    exact ⟨ends _ _, .same⟩
  rename_i after sent
  refine ⟨silent_checkReply _ _ _ _ _, ?_⟩
  rw [line_checkReply]
  cases departs_of_awaiting sent with
  | queued current found begun written => exact .write current found written
  | @closing conn channel store error current found begun failed notCodec notWire =>
    have closes : ({ client with store := store }.closeChannel conn).line =
        (client.closeChannel conn).line := by
      unfold closeChannel
      rw [found]
      rfl
    exact closes ▸ .close current

theorem checkActive_cases (client : Client ι) (id : ι) (timeout : Duration) (poll : Poll)
    (next : Option Message) :
    ((client.checkActive id timeout poll next).1.line = client.line ∧
      Silent (client.checkActive id timeout poll next).2) ∨
    ∃ msg, next = some msg ∧ client.state = .active ∧
      client.checkActive id timeout poll next = client.send id msg client.config.responseTimeout := by
  have ends (last : Client ι) (result : CallResult) : Silent (last.endCall id result).2 := by
    simp [Silent, endCall]
  unfold checkActive
  dsimp only
  split
  · rename_i ready
    cases next with
    | none => exact .inl ⟨rfl, ends _ _⟩
    | some msg =>
      refine .inr ⟨msg, rfl, ?_, rfl⟩
      unfold Poll.afterCheck at ready
      refine Decidable.byContradiction fun inactive => ?_
      cases closed : client.closed <;> simp [closed, inactive] at ready
      split at ready <;> cases ready
  · exact .inl ⟨rfl, ends _ _⟩
  · exact .inl ⟨rfl, ends _ _⟩
  · exact .inl ⟨rfl, by simp [Silent, sleepCall]⟩

theorem passes_of_handles {id : ι} (handles : client.Handles id event after effects) :
    Silent effects ∧
      (after.line = client.line ∨ ∃ msg, client.sends? event = some msg ∧ client.Passes msg after.line) := by
  have sent {msg : Message} {timeout : Duration} (sends : client.sends? event = some msg)
      (same : client.send id msg timeout = (after, effects)) :
      Silent effects ∧ (after.line = client.line ∨
        ∃ msg, client.sends? event = some msg ∧ client.Passes msg after.line) := by
    obtain ⟨silent, passes⟩ := client.send_cases id msg timeout
    rw [same] at silent passes
    exact ⟨silent, .inr ⟨msg, sends, passes⟩⟩
  cases handles with
  | send free starts => exact sent rfl starts
  | @await timeout next _ _ free checks =>
    obtain ⟨same, silent⟩ | ⟨msg, rfl, active, sends⟩ :=
      client.checkActive_cases id timeout (client.pollFor timeout) next
    · rw [checks] at same silent
      exact ⟨silent, .inl same⟩
    · exact sent (by simp [sends?, active]) (sends ▸ checks)
  | @checkReply key timeout poll _ _ held checks =>
    have line := line_checkReply client id key timeout poll.slept
    have silent := silent_checkReply client id key timeout poll.slept
    rw [checks] at line silent
    exact ⟨silent, .inl line⟩
  | @checkActive timeout poll next _ _ held checks =>
    obtain ⟨same, silent⟩ | ⟨msg, rfl, active, sends⟩ :=
      client.checkActive_cases id timeout poll.slept next
    · rw [checks] at same silent
      exact ⟨silent, .inl same⟩
    · exact sent (by simp [sends?, held, active]) (sends ▸ checks)
  | wakeReply | wakeActive | dropReply | dropActive => exact ⟨by simp [Silent], .inl rfl⟩

/-! ### Handshakes -/

omit [DecidableEq ι] in
theorem channelAt_endHandshake (client : Client ι) (now : Duration) (on : Nat) (acknowledged : Bool)
    (conn : Nat) :
    (client.endHandshake now on acknowledged).channelAt conn = client.channelAt conn ∨
      conn = on ∧
        (client.endHandshake now on acknowledged).channelAt conn = (client.channelAt conn).close := by
  unfold endHandshake
  dsimp only
  split
  · exact .inl rfl
  · exact channelAt_closeChannel_cases { client with session := .attached on } on conn

omit [DecidableEq ι] in
theorem channelAt_checkHandshake (client : Client ι) (now : Duration) (on : Nat) (key : String)
    (conn : Nat) :
    (client.checkHandshake now on key).1.channelAt conn = client.channelAt conn ∨
      conn = on ∧ (client.checkHandshake now on key).1.channelAt conn = (client.channelAt conn).close := by
  unfold checkHandshake
  split
  · exact channelAt_endHandshake { client with store := _ } now on _ conn
  · exact .inl rfl

omit [DecidableEq ι] in
theorem silent_checkHandshake (client : Client ι) (now : Duration) (on : Nat) (key : String) :
    Silent (client.checkHandshake now on key).2 := by
  unfold checkHandshake
  split <;> simp [Silent]

omit [DecidableEq ι] in
theorem startHandshake_of_found {conn : Nat} {channel : Channel Unit Unit}
    (found : client.channels[conn]? = some channel) (now : Duration) (unique : Nat → String) :
    (client.startHandshake now conn unique = (client.endHandshake now conn false, []) ∧
      (client.store.isInFlight (client.handshakeKey unique) = true ∨
        ∃ error, channel.write client.codec (client.greeting unique) = .error error)) ∨
    ∃ store queued, client.store.begin? (client.handshakeKey unique) = some store ∧
      channel.write client.codec (client.greeting unique) = .ok queued ∧
      client.startHandshake now conn unique =
        ({ client with store := store }.setChannel conn queued).checkHandshake now conn
          (client.handshakeKey unique) := by
  unfold startHandshake handshakeKey greeting
  dsimp only
  cases begun : client.store.begin? (client.config.keyFields.stamp unique 0 ⟨handshakeMti, .empty⟩).1 with
  | none =>
    exact .inl ⟨rfl, .inl (PendingReplies.begin?_eq_none_iff.1 begun)⟩
  | some store =>
    rw [found]
    dsimp only
    cases written : channel.write client.codec
        (client.config.keyFields.stamp unique 0 ⟨handshakeMti, .empty⟩).2 with
    | error error => exact .inl ⟨rfl, .inr ⟨error, rfl⟩⟩
    | ok queued => exact .inr ⟨store, queued, rfl, rfl, rfl⟩

omit [DecidableEq ι] in
theorem channelAt_joined (client : Client ι) (conn : Nat) :
    client.joined.channelAt conn =
      if conn = client.channels.length then boundChannel else client.channelAt conn := by
  have channels : client.joined.channels = client.channels ++ [boundChannel] := rfl
  unfold channelAt
  rw [channels]
  split
  · rename_i newest
    simp [newest]
  · rename_i older
    by_cases inside : conn < client.channels.length
    · rw [List.getElem?_append_left inside]
    · rw [List.getElem?_eq_none (by simp; omega), List.getElem?_eq_none (by omega)]

theorem connected_cases {unique : Nat → String}
    (taken : client.step now (.connected unique) = some (after, effects)) :
    Silent effects ∧ (∀ conn, conn ≠ client.channels.length → after.channelAt conn = client.channelAt conn) ∧
      ((after.channelAt client.channels.length = boundChannel.close ∧
          (client.store.isInFlight (client.handshakeKey unique) = true ∨
            ∃ error, boundChannel.write client.codec (client.greeting unique) = .error error)) ∨
        ∃ queued, boundChannel.write client.codec (client.greeting unique) = .ok queued ∧
          (after.channelAt client.channels.length = queued ∨
            after.channelAt client.channels.length = queued.close)) := by
  obtain ⟨-, starts⟩ := step_connected_eq_some_iff.1 taken
  have inside : client.channels.length < client.joined.channels.length := by simp [joined, setState]
  have found : client.joined.channels[client.channels.length]? = some boundChannel :=
    List.getElem?_concat_length ..
  obtain ⟨fails, reason⟩ | ⟨store, queued, -, written, sent⟩ :=
    startHandshake_of_found found now unique
  · rw [fails] at starts
    cases starts
    have ends (conn : Nat) :
        (client.joined.endHandshake now client.channels.length false).channelAt conn =
          if conn = client.channels.length then (client.joined.channelAt conn).close
          else client.joined.channelAt conn :=
      @channelAt_closeChannel ι { client.joined with session := .attached client.channels.length } _
        inside conn
    refine ⟨by simp [Silent], fun conn older => ?_, .inl ⟨?_, reason⟩⟩
    · rw [ends, if_neg older, channelAt_joined, if_neg older]
    · rw [ends, if_pos rfl, channelAt_joined, if_pos rfl]
  · let ready : Client ι := Client.setChannel { client.joined with store := store } client.channels.length queued
    have set (conn : Nat) : ready.channelAt conn =
        if conn = client.channels.length then queued else client.joined.channelAt conn :=
      channelAt_set inside rfl conn
    have silent := silent_checkHandshake ready now client.channels.length (client.handshakeKey unique)
    have channel := channelAt_checkHandshake ready now client.channels.length (client.handshakeKey unique)
    have same : ready.checkHandshake now client.channels.length (client.handshakeKey unique) =
        (after, effects) := sent.symm.trans starts
    rw [same] at silent channel
    refine ⟨silent, fun conn older => ?_, .inr ⟨queued, written, ?_⟩⟩
    · obtain unchanged | ⟨newest, -⟩ := channel conn
      · rw [unchanged, set, if_neg older, channelAt_joined, if_neg older]
      · exact absurd newest older
    · have last := channel client.channels.length
      rw [set, if_pos rfl] at last
      exact last.imp_right And.right

theorem becomes_of_connected {unique : Nat → String}
    (taken : client.step now (.connected unique) = some (after, effects)) :
    Silent effects ∧ ∀ conn, client.Becomes (.connected unique) conn (after.channelAt conn) := by
  obtain ⟨silent, older, newest⟩ := connected_cases taken
  refine ⟨silent, fun conn => ?_⟩
  by_cases here : conn = client.channels.length
  · subst here
    obtain ⟨closed, reason⟩ | ⟨queued, written, last⟩ := newest
    · exact closed ▸ .refuse rfl rfl reason
    · exact .greet rfl rfl written last
  · exact older conn here ▸ .same

/-! ### All other events -/

/-- What a step that is not of a pump makes of the channels. It writes nothing. -/
theorem becomes_of_step (elsewhere : ∀ on step, event ≠ .pump on step)
    (taken : client.step now event = some (after, effects)) :
    Silent effects ∧ ∀ conn, client.Becomes event conn (after.channelAt conn) := by
  have still {last : Client ι} (same : last.channels = client.channels) (conn : Nat) :
      client.Becomes event conn (last.channelAt conn) := by
    have channel : last.channelAt conn = client.channelAt conn := by rw [channelAt, same, channelAt]
    exact channel ▸ .same
  have closes {last : Client ι} {conn on : Nat} (cases : last.channelAt conn = client.channelAt conn ∨
      conn = on ∧ last.channelAt conn = (client.channelAt conn).close) :
      client.Becomes event conn (last.channelAt conn) := by
    obtain same | ⟨-, closed⟩ := cases
    · exact same ▸ .same
    · exact closed ▸ .close
  have cancelled : client.cancelWait.channels = client.channels :=
    congrArg Line.channels (line_cancelWait client)
  cases takes_of_step taken with
  | join => exact becomes_of_connected taken
  | @check on key _ _ handshaking checks =>
    have silent := silent_checkHandshake client now on key
    have channel := channelAt_checkHandshake client now on key
    rw [checks] at silent channel
    exact ⟨silent, fun conn => closes (channel conn)⟩
  | @interrupt on key handshaking =>
    refine ⟨by simp [Silent], fun conn => ?_⟩
    have channel := channelAt_endHandshake client.cancelWait now on false conn
    rw [channelAt_of_line (line_cancelWait client)] at channel
    exact closes channel
  | @finishOn on asked unfinished current =>
    refine ⟨by simp [Silent], fun conn => ?_⟩
    have channel := channelAt_closeChannel_cases client.cancelWait on conn
    rw [channelAt_of_line (line_cancelWait client)] at channel
    exact @closes (client.cancelWait.closeChannel on) conn on channel
  | lose | finish => exact ⟨by simp [Silent], still cancelled⟩
  | pump => exact absurd rfl (elsewhere _ _)
  | call handles =>
    obtain ⟨silent, same | ⟨msg, sends, passes⟩⟩ := passes_of_handles handles
    · exact ⟨silent, still (congrArg Line.channels same)⟩
    refine ⟨silent, fun conn => ?_⟩
    generalize line : after.line = last at passes
    cases passes with
    | same => exact still (congrArg Line.channels line) conn
    | @close on current =>
      rw [channelAt_of_line line]
      exact closes (client.channelAt_closeChannel_cases on conn)
    | write current found written =>
      have inside := (List.getElem?_eq_some_iff.1 found).1
      rw [channelAt_set inside (congrArg Line.channels line)]
      split
      · rename_i here
        subst here
        rw [← channelAt_of_getElem? found] at written
        exact .write sends current written
      · exact .same
  | _ => exact ⟨by simp [Silent], still rfl⟩

/-! ## Frames that are accepted -/

/-- The frames that a channel can accept in a step: none, that of the request of a call on the channel
that takes requests, or that of the handshake on a new channel. -/
inductive Accepts (client : Client ι) (event : ClientEvent ι) (conn : Nat) : List Bytes → Prop where
  | nothing : Accepts client event conn []
  | request {msg : Message} {frame : Bytes} (sends : client.sends? event = some msg)
      (current : client.current = some conn) (framed : Outbox.frameOf client.codec msg = .ok frame) :
      Accepts client event conn [frame]
  | greeting {unique : Nat → String} {frame : Bytes} (joins : event = .connected unique)
      (newest : conn = client.channels.length)
      (framed : Outbox.frameOf client.codec (client.greeting unique) = .ok frame) :
      Accepts client event conn [frame]

omit [DecidableEq ι] in
theorem channelAt_length (client : Client ι) : client.channelAt client.channels.length = newChannel := by
  simp [channelAt]

theorem run_boundChannel (codec : Codec) : Channel.Run codec newChannel {} boundChannel :=
  .one (show newChannel.perform codec .bind = some (boundChannel, {}) from rfl)

theorem run_write {codec : Codec} {channel queued : Channel Unit Unit} {msg : Message}
    (written : channel.write codec msg = .ok queued) :
    ∃ frame, Outbox.frameOf codec msg = .ok frame ∧
      queued.outbox.queue = channel.outbox.queue ++ [frame] ∧ queued.status = channel.status ∧
      Channel.Run codec channel { accepted := [frame] } queued := by
  obtain ⟨frame, -, framed, same⟩ := Channel.write_eq_ok written
  have taken : channel.perform codec (.write msg) = some (queued, { accepted := [frame] }) := by
    simp [Channel.perform, written, framed, Except.toOption]
  exact ⟨frame, framed, by simp [same, Outbox.push], by simp [same], .one taken⟩

theorem run_close (codec : Codec) (channel : Channel Unit Unit) :
    Channel.Run codec channel {} channel.close :=
  .one (show channel.perform codec .close = some (channel.close, {}) from rfl)

theorem queue_of_greeted {codec : Codec} {msg : Message} {queued last : Channel Unit Unit}
    (written : boundChannel.write codec msg = .ok queued) (rest : last = queued ∨ last = queued.close) :
    ∃ frame, Outbox.frameOf codec msg = .ok frame ∧ last.outbox.queue = [frame] := by
  obtain ⟨frame, framed, queue, status, -⟩ := run_write written
  have live : queued.status = .live := status
  refine ⟨frame, framed, ?_⟩
  obtain rfl | rfl := rest <;> simp [Channel.close, queue, live, boundChannel, newChannel, Outbox.bind]

theorem run_of_becomes {conn : Nat} {last : Channel Unit Unit} (becomes : client.Becomes event conn last) :
    client.Accepts event conn (last.outbox.queue.drop (client.queueOf conn).length) ∧
      Channel.Run client.codec (client.channelAt conn)
        { accepted := last.outbox.queue.drop (client.queueOf conn).length } last := by
  cases becomes with
  | same =>
    rw [queueOf, List.drop_length]
    exact ⟨.nothing, .start⟩
  | close =>
    have nothing : (client.channelAt conn).close.outbox.queue.drop (client.queueOf conn).length = [] := by
      unfold queueOf Channel.close
      split <;> simp [Outbox.shut]
    rw [nothing]
    exact ⟨.nothing, run_close _ _⟩
  | write sends current written =>
    obtain ⟨frame, framed, queue, -, run⟩ := run_write written
    rw [queue, queueOf, List.drop_left]
    exact ⟨.request sends current framed, run⟩
  | refuse joins newest reason =>
    subst newest
    rw [queueOf, channelAt_length]
    exact ⟨.nothing, (run_boundChannel _).trans (run_close _ _)⟩
  | greet joins newest written rest =>
    subst newest
    rename_i unique queued
    obtain ⟨frame, framed, queue⟩ := queue_of_greeted written rest
    obtain ⟨other, same, -, -, run⟩ := run_write written
    cases same.symm.trans framed
    have none : client.queueOf client.channels.length = [] := by
      simp [queueOf, channelAt_length, newChannel]
    rw [none, List.length_nil, List.drop_zero, queue, channelAt_length]
    refine ⟨.greeting joins rfl framed, ?_⟩
    have greeted := (run_boundChannel client.codec).trans run
    obtain rfl | rfl := rest
    · exact greeted
    · exact greeted.trans (run_close _ _)

/-! ## Steps of a pump -/

omit [DecidableEq ι] in
theorem takeOutput_crosses {last : Client ι} {on : Nat} {output : PumpOutput Unit Unit}
    (handed : client.takeOutput now on output = (last, effects)) :
    last.channels = client.channels ∧
      ∀ conn, writtenBy conn effects = if conn = on then output.written else [] := by
  constructor
  · have line := line_takeOutput client now on output
    rw [handed] at line
    exact (congrArg Line.channels line).trans (Line.channels_heed _ _)
  · intro conn
    have same : effects = (client.takeOutput now on output).2 := by rw [handed]
    rw [same]
    unfold takeOutput writtenBy
    by_cases here : conn = on
    · cases output.written <;> cases output.hungUp <;> simp [here]
    · cases output.written <;> cases output.hungUp <;> simp [here, Ne.symm here]

omit [DecidableEq ι] in
theorem crosses_of_pump {last : Client ι} {on : Nat} {codec : Codec} {step : PumpStep}
    {mid : Channel Unit Unit} {output : PumpOutput Unit Unit} (inside : on < client.channels.length)
    (stepped : (client.channelAt on).step codec.decode step = some (mid, output))
    (handed : (client.setChannel on mid).takeOutput now on output = (last, effects)) (conn : Nat) :
    last.channels.length = client.channels.length ∧
      (last.queueOf conn).length ≤ (client.queueOf conn).length ∧
      Channel.Run codec (client.channelAt conn)
        { received := if on = conn then step.chunk else []
          calls := if on = conn then output.calls else []
          written := writtenBy conn effects } (last.channelAt conn) := by
  obtain ⟨channels, written⟩ := takeOutput_crosses handed
  refine ⟨by simp [channels, setChannel], ?_⟩
  unfold queueOf
  rw [channelAt_set inside channels, written]
  by_cases here : conn = on
  · subst here
    simp only [if_true]
    refine ⟨Channel.length_queue_step stepped, ?_⟩
    have taken : (client.channelAt conn).perform codec (.pump step) =
        some (mid, { received := step.chunk, calls := output.calls, written := output.written }) := by
      simp [Channel.perform, stepped]
    exact .one taken
  · rw [if_neg here, if_neg here, if_neg (Ne.symm here), if_neg (Ne.symm here)]
    exact ⟨Nat.le_refl _, .start⟩

theorem run_of_pump {on : Nat} {step : PumpStep}
    (taken : client.step now (.pump on step) = some (after, effects)) (conn : Nat) :
    let moment : Moment ι := ⟨now, .pump on step, client, after, effects⟩
    (moment.crossing conn).accepted = [] ∧
      Channel.Run client.codec (client.channelAt conn) (moment.crossing conn) (after.channelAt conn) := by
  intro moment
  obtain ⟨channel, mid, output, next, first, found, stepped, handed, rest⟩ := stepPump_cases taken
  have inside := (List.getElem?_eq_some_iff.1 found).1
  rw [← channelAt_of_getElem? found] at stepped
  obtain ⟨length, shorter, run⟩ := crosses_of_pump inside stepped handed conn
  have calls : moment.callsOn conn = if on = conn then output.calls else [] := by
    simp [Moment.callsOn, moment, stepped]
  obtain ⟨rfl, rfl⟩ | ⟨last, more, second, dispatched, handed', rfl⟩ := rest
  · have whole : moment.crossing conn =
        { received := if on = conn then step.chunk else []
          calls := if on = conn then output.calls else []
          written := writtenBy conn first } :=
      Crossing.ext rfl calls (List.drop_eq_nil_of_le shorter) rfl
    rw [whole]
    exact ⟨rfl, run⟩
  · have reached : next.channelAt on = mid := by
      rw [channelAt_set inside (takeOutput_crosses handed).1, if_pos rfl]
    have dispatched : (next.channelAt on).step client.codec.decode .dispatched = some (last, more) :=
      reached ▸ dispatched
    obtain ⟨-, still, run'⟩ := crosses_of_pump (length ▸ inside) dispatched handed' conn
    -- The handlers are done at once, and nothing more is read.
    have quiet : more.calls = [] := by
      obtain ⟨-, -, quiet | ⟨chunk, other, -⟩⟩ := Channel.step_cases dispatched
      · exact quiet
      · cases other
    have whole : moment.crossing conn =
        { received := if on = conn then step.chunk else []
          calls := if on = conn then output.calls else []
          written := writtenBy conn first } ++
        { received := if on = conn then PumpStep.chunk .dispatched else []
          calls := if on = conn then more.calls else []
          written := writtenBy conn second } := by
      refine Crossing.ext ?_ ?_ (List.drop_eq_nil_of_le (Nat.le_trans still shorter)) ?_
      · simp [Moment.crossing, moment, ClientEvent.receivedOn, PumpStep.chunk]
      · simp [Moment.crossing, calls, quiet]
      · exact writtenBy_append conn first second
    rw [whole]
    exact ⟨rfl, run.trans run'⟩

theorem crossing_of_pump_elsewhere {on conn : Nat} {step : PumpStep} (apart : on ≠ conn)
    (taken : client.step now (.pump on step) = some (after, effects)) :
    Moment.crossing ⟨now, .pump on step, client, after, effects⟩ conn = {} := by
  refine Crossing.ext (if_neg apart) (if_neg apart) (run_of_pump taken conn).1 ?_
  change writtenBy conn effects = []
  obtain ⟨channel, mid, output, next, first, -, -, handed, rest⟩ := stepPump_cases taken
  have before := (takeOutput_crosses handed).2 conn
  rw [if_neg apart.symm] at before
  obtain ⟨-, rfl⟩ | ⟨last, more, second, -, handed', rfl⟩ := rest
  · exact before
  · rw [writtenBy_append, before, (takeOutput_crosses handed').2, if_neg apart.symm, List.append_nil]

/-! ## Runs -/

omit [DecidableEq ι] in
theorem crossing_of_elsewhere (elsewhere : ∀ on step, event ≠ .pump on step) (silent : Silent effects)
    (conn : Nat) :
    Moment.crossing ⟨now, event, client, after, effects⟩ conn =
      { accepted := (after.queueOf conn).drop (client.queueOf conn).length } := by
  refine Crossing.ext ?_ ?_ rfl (writtenBy_of_silent silent conn)
  · cases event <;> first | rfl | exact absurd rfl (elsewhere _ _)
  · cases event <;> first | rfl | exact absurd rfl (elsewhere _ _)

/-- What crosses a connection in a step takes its channel on. Only the frame of a request or a handshake
is accepted. -/
theorem run_of_step (taken : client.step now event = some (after, effects)) (conn : Nat) :
    let moment : Moment ι := ⟨now, event, client, after, effects⟩
    client.Accepts event conn (moment.crossing conn).accepted ∧
      Channel.Run client.codec (client.channelAt conn) (moment.crossing conn) (after.channelAt conn) := by
  intro moment
  by_cases pumps : ∃ on step, event = .pump on step
  · obtain ⟨on, step, rfl⟩ := pumps
    obtain ⟨nothing, run⟩ := run_of_pump taken conn
    exact ⟨nothing ▸ .nothing, run⟩
  · have elsewhere : ∀ on step, event ≠ .pump on step := fun on step same => pumps ⟨on, step, same⟩
    obtain ⟨silent, becomes⟩ := becomes_of_step elsewhere taken
    obtain ⟨accepts, run⟩ := run_of_becomes (becomes conn)
    rw [crossing_of_elsewhere elsewhere silent]
    exact ⟨accepts, run⟩

theorem read_of_recorded {moment : Moment ι} {msg : Message} (recorded : .recorded msg ∈ moment.entries) :
    ∃ on step channel, moment.event = .pump on step ∧ moment.before.channels[on]? = some channel ∧
      channel.pump.isAlive = true ∧ .message () msg ∈ moment.callsOn on := by
  have stored : msg ∈ moment.recorded := by
    simp only [Moment.entries, List.mem_append, List.mem_map, Entry.recorded.injEq, exists_eq_right] at recorded
    obtain (((((asked | stored) | began) | slept) | acknowledged) | dropped) | ended := recorded
    · unfold Moment.asked at asked
      split at asked <;> simp at asked
    · exact stored
    · unfold Moment.began at began
      split at began
      · cases began
      · split at began <;> simp at began
    · unfold Moment.slept at slept
      split at slept
      · split at slept
        · split at slept <;> simp at slept
        · cases slept
      · cases slept
    · unfold Moment.acknowledged at acknowledged
      split at acknowledged
      · cases acknowledged
      · split at acknowledged <;> simp at acknowledged
    · unfold Moment.dropped at dropped
      split at dropped <;> simp at dropped
    · unfold endedOf at ended
      obtain ⟨effect, -, same⟩ := List.mem_filterMap.1 ended
      cases effect <;> cases same
  unfold Moment.recorded at stored
  split at stored
  · rename_i on step event
    split at stored
    · cases stored
    rename_i channel found
    split at stored
    · cases stored
    rename_i mid output stepped
    refine ⟨on, step, channel, event, found, (Channel.step_cases stepped).1, ?_⟩
    unfold storedOf at stored
    obtain ⟨call, called, same⟩ := List.mem_filterMap.1 stored
    have heard : .message () msg ∈ output.calls := by
      cases call with
      | dropped handler error => cases same
      | message handler other =>
        simp only [Option.ite_none_right_eq_some, Option.some.injEq] at same
        exact same.2 ▸ called
    simpa [Moment.callsOn, event, channelAt_of_getElem? found, stepped] using heard
  · cases stored

theorem Run.channel {start client : Client ι} {past : List (Moment ι)} (run : Run start past client)
    (conn : Nat) :
    Channel.Run start.codec (start.channelAt conn) (crossingOn conn past) (client.channelAt conn) := by
  induction run with
  | start => exact .start
  | step run taken ih =>
    have codec : _ = start.codec := run.acts.keeps.2
    have next := (run_of_step taken conn).2
    rw [show Client.codec _ = start.codec from codec] at next
    rw [crossingOn_concat]
    exact ih.trans next

end Client

end Iso8583
