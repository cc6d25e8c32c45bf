import Iso8583.Proofs.Client.Inversion
import Iso8583.Proofs.Client.Parts

/-!
# Every step is a sequence of acts

One lemma for each event, then all of them together, and from one step to the next a whole run.
-/

namespace Iso8583

variable {ι : Type} [DecidableEq ι]

namespace Client

variable {fields : KeyFields}

/-! ## Calls by name -/

theorem placed (desk : Desk ι) (id : ι) (call : Call) : (desk.place id call).call? id = some call := by
  rw [desk.call?_place, if_pos rfl]

theorem awaitedIn_of_callIn {client : Client ι} {id : ι} {call : Call}
    (held : callIn client.calls id = some call) : awaitedIn client.calls id = call.key? := by
  unfold awaitedIn
  rw [held]
  rfl

theorem awaitedIn_of_free {client : Client ι} {id : ι} (free : callIn client.calls id = none) :
    awaitedIn client.calls id = none := by
  unfold awaitedIn
  rw [free]
  rfl

omit [DecidableEq ι] in
theorem endedOf_checkHandshake (client : Client ι) (now : Duration) (conn : Nat) (key : String) :
    endedOf (client.checkHandshake now conn key).2 = [] := by
  unfold checkHandshake
  split <;> rfl

omit [DecidableEq ι] in
theorem endedOf_startHandshake (client : Client ι) (now : Duration) (conn : Nat)
    (unique : Nat → String) : endedOf (client.startHandshake now conn unique).2 = [] := by
  obtain fails | ⟨store, before, channel, msg, -, -, -, sent⟩ :=
    client.startHandshake_cases now conn unique
  · rw [fails]
    rfl
  · rw [sent]
    exact endedOf_checkHandshake _ now conn _

theorem acts_of_same {codec : Codec} {desk last : Desk ι} {entries : List (Entry ι)} (same : last = desk)
    (silent : entries = []) : Acts fields codec desk entries last := by
  rw [same, silent]
  exact Acts.nil desk

/-! ## Events -/

omit [DecidableEq ι] in
theorem desk_of_handshake? {client last : Client ι}
    (rest : { last.desk with handshake := client.session.handshake? } = client.desk)
    (same : last.session.handshake? = client.session.handshake?) : last.desk = client.desk := by
  rw [← rest, ← same]
  rfl

section

attribute [local simp] Moment.entries Moment.asked Moment.recorded Moment.began Moment.slept
  Moment.acknowledged Moment.dropped handshake? ClientEvent.call?

variable {client after : Client ι} {now : Duration} {effects : List (ClientEffect ι)}

theorem acts_of_connected {unique : Nat → String} (session : client.session = .connecting)
    (starts : client.joined.startHandshake now client.channels.length unique = (after, effects)) :
    Acts client.config.keyFields client.codec client.desk
      (Moment.entries ⟨now, .connected unique, client, after, effects⟩) after.desk := by
  have idle : client.joined.desk.handshake = none := congrArg SessionTask.handshake? session
  have silent := endedOf_startHandshake client.joined now client.channels.length unique
  have acts := @acts_startHandshake ι _ client.config.keyFields client.joined idle now
    client.channels.length unique
  rw [starts] at silent acts
  have shape : Moment.entries ⟨now, .connected unique, client, after, effects⟩ =
      if client.store.contains (client.handshakeKey unique) &&
        !after.store.contains (client.handshakeKey unique) then
        [.acknowledged client.channels.length (client.handshakeKey unique)] else [] := by
    simp [session, silent, handshakeKey]
  rw [shape]
  exact acts

theorem acts_of_check {conn : Nat} {key : String} (session : client.session = .handshaking conn key)
    (checks : client.checkHandshake now conn key = (after, effects)) :
    Acts client.config.keyFields client.codec client.desk
      (Moment.entries ⟨now, .sessionSlept true, client, after, effects⟩) after.desk := by
  have awaited : client.desk.handshake = some (conn, key) := congrArg SessionTask.handshake? session
  have silent := endedOf_checkHandshake client now conn key
  have acts := @acts_checkHandshake ι _ client.config.keyFields client.codec client client.desk conn key
    (awaited ▸ rfl) now
  rw [checks] at silent acts
  have shape : Moment.entries ⟨now, .sessionSlept true, client, after, effects⟩ =
      if client.store.contains key && !after.store.contains key then [.acknowledged conn key]
      else [] := by
    simp [session, silent]
  rw [shape]
  exact acts

theorem acts_of_pump {conn : Nat} {step : PumpStep}
    (taken : client.stepPump now conn step = some (after, effects)) :
    Acts client.config.keyFields client.codec client.desk
      (Moment.entries ⟨now, .pump conn step, client, after, effects⟩) after.desk := by
  obtain ⟨channel, mid, output, found, stepped, acts, silent⟩ := acts_stepPump taken
  have shape : Moment.entries ⟨now, .pump conn step, client, after, effects⟩ =
      (storedOf client output.calls).map .recorded := by
    simp [found, stepped, silent]
  rw [shape]
  exact acts

theorem acts_of_dropCall {id : ι} {last : Client ι} (calls : last.calls = client.calls.filter (·.1 ≠ id))
    (acts : Acts client.config.keyFields client.codec client.desk [.dropped id] last.desk) :
    Acts client.config.keyFields client.codec client.desk
      (Moment.entries ⟨now, .dropCall id, client, last, []⟩) last.desk := by
  have away : awaitedIn last.calls id = none := by
    rw [calls]
    exact awaitedIn_drop client.desk id
  have shape : Moment.entries ⟨now, .dropCall id, client, last, []⟩ = [.dropped id] := by
    simp [away, endedOf]
  rw [shape]
  exact acts

theorem acts_of_follows {id : ι} {ok : Bool} (standing : awaitedIn client.calls id = none)
    (follows : Follows client.config.keyFields client.codec client.desk id (after, effects)) :
    Acts client.config.keyFields client.codec client.desk
      (Moment.entries ⟨now, .callSlept id ok, client, after, effects⟩) after.desk := by
  have shape : Moment.entries ⟨now, .callSlept id ok, client, after, effects⟩ =
      ((awaitedIn after.calls id).map (.began id)).toList ++ endedOf effects := by
    cases ok <;> simp [standing]
  rw [shape]
  exact follows

theorem acts_of_handles {id : ι} {event : ClientEvent ι} (handles : client.Handles id event after effects) :
    Acts client.config.keyFields client.codec client.desk
      (Moment.entries ⟨now, event, client, after, effects⟩) after.desk := by
  cases handles with
  | @send msg timeout _ _ free sends =>
    have asks := @Act.ask ι _ client.config.keyFields client.codec client.desk id (some msg) timeout
      (client.pollFor timeout) free
    have rest := @follows_send ι _ client _ id msg timeout (client.pollFor timeout)
      (placed client.desk id _) (Desk.drop_place client.desk id _) timeout
    rw [sends] at rest
    have shape : Moment.entries ⟨now, .send id msg timeout, client, after, effects⟩ =
        askedBy id (some msg) ++ (((awaitedIn after.calls id).map (.began id)).toList ++ endedOf effects) := by
      simp [awaitedIn_of_free free, askedBy]
    rw [shape]
    exact (Acts.one asks).trans rest
  | @await timeout next _ _ free checks =>
    have asks := @Act.ask ι _ client.config.keyFields client.codec client.desk id next timeout
      (client.pollFor timeout) free
    have rest := @follows_checkActive ι _ client _ id timeout (client.pollFor timeout) next
      (placed client.desk id _) (Desk.drop_place client.desk id _) timeout (client.pollFor timeout)
    rw [checks] at rest
    have shape : Moment.entries ⟨now, .awaitActive id timeout next, client, after, effects⟩ =
        askedBy id next ++ (((awaitedIn after.calls id).map (.began id)).toList ++ endedOf effects) := by
      cases next <;> simp [awaitedIn_of_free free, askedBy]
    rw [shape]
    exact (Acts.one asks).trans rest
  | @checkReply key timeout poll _ _ held checks =>
    have acts := @acts_checkReply ι _ client.config.keyFields client id key timeout poll held timeout
      poll.slept
    rw [checks] at acts
    have shape : Moment.entries ⟨now, .callSlept id true, client, after, effects⟩ =
        .checked id :: endedOf effects := by
      simp [awaitedIn_of_callIn held, Call.key?]
    rw [shape]
    exact acts
  | @checkActive timeout poll next _ _ held checks =>
    have standing : client.desk.call? id = some (.awaitingActive timeout poll next) := held
    refine acts_of_follows (awaitedIn_of_callIn held) ?_
    rw [← checks]
    exact follows_checkActive standing rfl timeout poll.slept
  | @wakeReply key timeout poll held =>
    have standing : client.desk.call? id = some (.awaitingReply key timeout poll) := held
    have shape : Moment.entries ⟨now, .callSlept id false, client, (client.expireReply id key timeout).1,
        [.finish id (.failed (.responseTimeout key timeout))]⟩ =
        [.interrupted id, .ended id (.failed (.responseTimeout key timeout))] := by
      simp [awaitedIn_of_callIn held, Call.key?, endedOf]
    rw [shape]
    exact Acts.one (.wake standing timeout)
  | wakeActive held => exact acts_of_follows (awaitedIn_of_callIn held) (follows_refuse held rfl trivial)
  | dropReply held => exact acts_of_dropCall rfl (Acts.one (.abandon held))
  | dropActive held => exact acts_of_dropCall rfl (Acts.one (.leave held))

/-- Every step is a sequence of acts, which add to the journal what the step does. -/
theorem acts_of_step {event : ClientEvent ι} (taken : client.step now event = some (after, effects)) :
    Acts client.config.keyFields client.codec client.desk
      (Moment.entries ⟨now, event, client, after, effects⟩) after.desk := by
  have acts := @acts_cancelWait ι _ client.config.keyFields client.codec client
  have still {last : Client ι} {task : SessionTask} (session : client.session = task)
      (rest : { last.desk with handshake := task.handshake? } = client.desk)
      (same : last.session.handshake? = task.handshake?) : last.desk = client.desk := by
    subst session
    exact desk_of_handshake? rest same
  cases takes_of_step taken with
  | attempt idle => exact acts_of_same (still idle (idle ▸ rfl) rfl) rfl
  | join connecting starts => exact acts_of_connected connecting starts
  | fail connecting => exact acts_of_same (still connecting (connecting ▸ rfl) rfl) rfl
  | @rest ok pausing =>
    refine acts_of_same (still pausing (pausing ▸ rfl) rfl) ?_
    cases ok <;> simp [endedOf, pausing]
  | check handshaking checks => exact acts_of_check handshaking checks
  | interrupt handshaking =>
    rw [desk_endHandshake]
    exact acts
  | lose => exact acts
  | leave attached => exact acts_of_same (still attached (attached ▸ rfl) rfl) rfl
  | finish => exact acts
  | @finishOn conn =>
    rw [← desk_closeChannel client.cancelWait conn] at acts
    exact acts
  | pump stepped => exact acts_of_pump stepped
  | call handles => exact acts_of_handles handles
  | close | closeAtOnce | dropClose | settle | drop => exact acts_of_same rfl rfl

end

theorem Run.acts {start client : Client ι} {past : List (Moment ι)} (run : Run start past client) :
    Acts start.config.keyFields start.codec start.desk (journal past) client.desk := by
  induction run with
  | start => exact Acts.nil _
  | step run taken ih =>
    rename_i past client after now event effects
    obtain ⟨config, codec⟩ := ih.keeps
    have acts := acts_of_step taken
    rw [show client.config = start.config from config, show client.codec = start.codec from codec] at acts
    rw [journal_concat]
    exact ih.trans acts

end Client

end Iso8583
