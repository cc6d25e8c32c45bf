import Iso8583.Proofs.Client.Coherence
import Iso8583.Proofs.Client.Handshaking

/-!
# Closing a client

A client may be closed at any time. From then on new calls are refused, and those that go on end at their
next check. Once its session task has finished the client makes no connection and holds none, whatever the
pump of its last connection still does.

A close is over when the session task has finished, unless an earlier one was given up: then it does not
wait, and nothing is final yet.
-/

namespace Iso8583

def CallResult.isTimeout : CallResult → Bool
  | .failed (.responseTimeout _ _) => true
  | .failed (.handshakeTimeout _) => true
  | _ => false

theorem isTimeout_replyOf (codec : Codec) (bytes : Bytes) : (replyOf codec bytes).isTimeout = false := by
  unfold replyOf
  split <;> rfl

/-! ## What is final -/

namespace Ledger.Posts

variable {ι : Type} {ledger after : Ledger} {event : ClientEvent ι}

theorem stays_closed (posts : ledger.Posts event after)
    (closed : ledger.closed = true ∧ ledger.shutdown = true) :
    after.closed = true ∧ after.shutdown = true := by
  cases posts with
  | close | closeAtOnce | drop => exact ⟨rfl, rfl⟩
  | _ => exact closed

theorem closed_of_shuts (posts : ledger.Posts event after) (shuts : event.shuts = true) :
    after.closed = true ∧ after.shutdown = true := by
  cases posts with
  | close | closeAtOnce | drop => exact ⟨rfl, rfl⟩
  | call about => cases event <;> simp_all [ClientEvent.shuts, ClientEvent.call?]
  | _ => cases shuts

theorem kept_of_finished (posts : ledger.Posts event after) (finished : ledger.session = .finished) :
    after.attempts = ledger.attempts ∧ after.conns = ledger.conns := by
  cases posts with
  | attempt idle => cases idle.symm.trans finished
  | join connecting key => cases connecting.symm.trans finished
  | joinAtOnce connecting one => cases connecting.symm.trans finished
  | _ => exact ⟨rfl, rfl⟩

theorem of_sessionShutDown (posts : ledger.Posts (.sessionShutDown : ClientEvent ι) after) :
    after = { ledger with session := .finished } := by
  cases posts with
  | finish => rfl
  | call about => cases about

end Ledger.Posts

namespace Line

variable {acked : Nat → Prop} {overtaken : Prop} {line next : Line}

theorem finished_of_move (move : Move acked overtaken line next) (finished : line.session = .finished) :
    next.session = .finished ∧ ∃ sets, next.states = List.replicate sets .disconnected ++ line.states := by
  cases move with
  | attempt idle => cases idle.symm.trans finished
  | fail connecting => cases connecting.symm.trans finished
  | join connecting key => cases connecting.symm.trans finished
  | activate handshaking => cases handshaking.symm.trans finished
  | refuse handshaking => cases handshaking.symm.trans finished
  | rest pausing => cases pausing.symm.trans finished
  | leave on =>
    obtain attached | ⟨key, handshaking⟩ := on
    · cases attached.symm.trans finished
    · cases handshaking.symm.trans finished
  | write | close => exact ⟨finished, 0, rfl⟩
  | finish => exact ⟨rfl, 1, rfl⟩
  | settle => exact ⟨finished, 1, rfl⟩
  | @pump conn channel after decode step output found stepped =>
    cases output.disconnected.isSome with
    | false => exact ⟨finished, 0, rfl⟩
    | true => exact ⟨finished, 1, rfl⟩

theorem finished_of_moves (moves : Moves acked overtaken line next) (finished : line.session = .finished) :
    next.session = .finished ∧ ∃ sets, next.states = List.replicate sets .disconnected ++ line.states := by
  induction moves with
  | refl => exact ⟨finished, 0, rfl⟩
  | tail moves move ih =>
    obtain ⟨still, sets, states⟩ := ih
    obtain ⟨last, more, states'⟩ := finished_of_move move still
    refine ⟨last, more + sets, ?_⟩
    rw [states', states, ← List.append_assoc, List.replicate_append_replicate]

end Line

variable {ι : Type} [DecidableEq ι]

namespace Client

variable {client after : Client ι} {now : Duration} {event : ClientEvent ι}
  {effects : List (ClientEffect ι)} {id : ι}

/-! ## Steps that concern no call -/

omit [DecidableEq ι] in
theorem calls_take (client : Client ι) (call : ReaderCall Unit) :
    (client.take call).calls = client.calls := by
  unfold take record
  split
  · split
    · rfl
    · split <;> rfl
  · rfl

omit [DecidableEq ι] in
theorem calls_takeOutput (client : Client ι) (now : Duration) (conn : Nat) (output : PumpOutput Unit Unit) :
    (client.takeOutput now conn output).1.calls = client.calls := by
  have taken (calls : List (ReaderCall Unit)) (client : Client ι) :
      (calls.foldl take client).calls = client.calls := by
    induction calls generalizing client with
    | nil => rfl
    | cons call calls ih => rw [List.foldl_cons, ih, calls_take]
  rw [← taken output.calls client]
  exact congrArg Desk.calls (client.desk_takeOutput now conn output)

omit [DecidableEq ι] in
theorem calls_stepPump {conn : Nat} {step : PumpStep}
    (taken : client.stepPump now conn step = some (after, effects)) : after.calls = client.calls := by
  obtain ⟨channel, mid, output, next, first, -, -, handed, rest⟩ := stepPump_cases taken
  have one := calls_takeOutput (client.setChannel conn mid) now conn output
  rw [handed] at one
  obtain ⟨rfl, -⟩ | ⟨last, more, second, -, handed', -⟩ := rest
  · exact one
  · have other := calls_takeOutput (next.setChannel conn last) now conn more
    rw [handed'] at other
    exact other.trans one

omit [DecidableEq ι] in
theorem calls_endHandshake (client : Client ι) (now : Duration) (conn : Nat) (acknowledged : Bool) :
    (client.endHandshake now conn acknowledged).calls = client.calls :=
  congrArg Desk.calls (client.desk_endHandshake now conn acknowledged)

omit [DecidableEq ι] in
theorem calls_checkHandshake (client : Client ι) (now : Duration) (conn : Nat) (key : String) :
    (client.checkHandshake now conn key).1.calls = client.calls := by
  unfold checkHandshake
  split
  · exact calls_endHandshake { client with store := _ } now conn _
  · rfl

omit [DecidableEq ι] in
theorem calls_startHandshake (client : Client ι) (now : Duration) (conn : Nat) (unique : Nat → String) :
    (client.startHandshake now conn unique).1.calls = client.calls := by
  obtain fails | ⟨store, before, channel, msg, -, -, -, sent⟩ :=
    client.startHandshake_cases now conn unique
  · rw [fails, calls_endHandshake]
  · rw [sent, calls_checkHandshake]
    rfl

omit [DecidableEq ι] in
theorem calls_cancelWait (client : Client ι) : client.cancelWait.calls = client.calls := by
  unfold cancelWait
  split <;> rfl

theorem calls_of_step (apart : event.call? = none)
    (taken : client.step now event = some (after, effects)) :
    after.calls = client.calls ∧ endedOf effects = [] := by
  cases takes_of_step taken with
  | @join unique _ _ connecting starts =>
    have calls := calls_startHandshake client.joined now client.channels.length unique
    have silent := endedOf_startHandshake client.joined now client.channels.length unique
    rw [starts] at calls silent
    exact ⟨calls, silent⟩
  | @check conn key _ _ handshaking checks =>
    have calls := calls_checkHandshake client now conn key
    have silent := endedOf_checkHandshake client now conn key
    rw [checks] at calls silent
    exact ⟨calls, silent⟩
  | interrupt handshaking =>
    refine ⟨?_, rfl⟩
    rw [calls_endHandshake, calls_cancelWait]
  | lose | finish => exact ⟨calls_cancelWait client, rfl⟩
  | finishOn asked unfinished current =>
    refine ⟨?_, rfl⟩
    rw [← calls_cancelWait client]
    exact congrArg Desk.calls (desk_closeChannel client.cancelWait _)
  | pump stepped =>
    obtain ⟨-, -, -, -, -, -, silent⟩ := acts_stepPump stepped
    exact ⟨calls_stepPump stepped, silent⟩
  | call handles => cases apart.symm.trans handles.call?_eq
  | _ => exact ⟨rfl, rfl⟩

/-! ## Calls of a client that is closed -/

/-- How a call ends once the client is closed: with the reply that is there, or else as closed. -/
def closingResult (client : Client ι) : Call → CallResult
  | .awaitingReply key _ _ => match client.store.get? key with
    | some bytes => replyOf client.codec bytes
    | none => .failed .closed
  | .awaitingActive _ _ _ => .failed .closed

omit [DecidableEq ι] in
theorem isTimeout_closingResult (client : Client ι) (call : Call) :
    (client.closingResult call).isTimeout = false := by
  unfold closingResult
  split
  · split
    · exact isTimeout_replyOf client.codec _
    · rfl
  · rfl

theorem endCall_of_free (free : callIn client.calls id = none) (result : CallResult) :
    client.endCall id result = (client, [.finish id result]) := by
  have kept : client.calls.filter (·.1 ≠ id) = client.calls := by
    rw [List.filter_eq_self]
    intro call held
    simpa using List.any_eq_false.1 (callIn_eq_none_iff.1 free) call held
  unfold endCall
  rw [kept]

theorem send_of_closed (closed : client.closed = true) (id : ι) (msg : Message) (timeout : Duration) :
    client.send id msg timeout = client.endCall id (.failed .closed) := by
  unfold send
  rw [if_pos closed]

theorem step_send_of_closed (closed : client.closed = true) (free : callIn client.calls id = none)
    (now : Duration) (msg : Message) (timeout : Duration) :
    client.step now (.send id msg timeout) = some (client, [.finish id (.failed .closed)]) := by
  rw [step_send free, send_of_closed closed, endCall_of_free free]

theorem checkActive_of_closed (closed : client.closed = true) (id : ι) (timeout : Duration) (poll : Poll)
    (next : Option Message) :
    client.checkActive id timeout poll next = client.endCall id (.failed .closed) := by
  unfold checkActive
  rw [if_pos closed]
  rfl

theorem step_awaitActive_of_closed (closed : client.closed = true) (free : callIn client.calls id = none)
    (now : Duration) (timeout : Duration) (next : Option Message) :
    client.step now (.awaitActive id timeout next) = some (client, [.finish id (.failed .closed)]) := by
  rw [step_awaitActive free, checkActive_of_closed closed, endCall_of_free free]

theorem checkReply_of_closed (closed : client.closed = true) (id : ι) (key : String)
    (timeout limit : Duration) (poll later : Poll) :
    (client.checkReply id key timeout poll).1.calls = client.calls.filter (·.1 ≠ id) ∧
      (client.checkReply id key timeout poll).2 =
        [.finish id (client.closingResult (.awaitingReply key limit later))] := by
  simp only [closingResult]
  cases present : client.store.get? key with
  | none =>
    unfold checkReply PendingReplies.remove
    rw [present, closed]
    exact ⟨rfl, rfl⟩
  | some bytes =>
    obtain ⟨other, found, desk, ended⟩ | ⟨error, absent, -⟩ | ⟨absent, -⟩ :=
      client.checkReply_cases id key timeout poll
    · cases found.symm.trans present
      exact ⟨congrArg Desk.calls desk, ended⟩
    · cases absent.symm.trans present
    · cases absent.symm.trans present

theorem step_callSlept_of_closed (closed : client.closed = true) {call : Call}
    (held : callIn client.calls id = some call) (now : Duration) :
    ∃ after, client.step now (.callSlept id true) =
        some (after, [.finish id (client.closingResult call)]) ∧
      after.calls = client.calls.filter (·.1 ≠ id) := by
  cases call with
  | awaitingReply key timeout poll =>
    obtain ⟨calls, ended⟩ := checkReply_of_closed closed id key timeout timeout poll.slept poll
    exact ⟨_, (step_callSlept_reply held now).trans (congrArg some (Prod.ext rfl ended)), calls⟩
  | awaitingActive timeout poll next =>
    have ends := checkActive_of_closed closed id timeout poll.slept next
    exact ⟨_, (step_callSlept_active held now).trans (congrArg some ends), rfl⟩

/-- A call of a client that is closed ends whatever happens to it, and in time if its sleep did not
fail. -/
theorem ends_of_handles (closed : client.closed = true) (handles : client.Handles id event after effects) :
    after.calls = client.calls.filter (·.1 ≠ id) ∧
      ∀ effect ∈ effects, ∃ result, effect = .finish id result ∧
        (event ≠ .callSlept id false → result.isTimeout = false) := by
  have one {last : Client ι} {result : CallResult} (calls : last.calls = client.calls.filter (·.1 ≠ id))
      (intime : event ≠ .callSlept id false → result.isTimeout = false)
      (same : (last, [.finish id result]) = (after, effects)) :
      after.calls = client.calls.filter (·.1 ≠ id) ∧
        ∀ effect ∈ effects, ∃ result, effect = .finish id result ∧
          (event ≠ .callSlept id false → result.isTimeout = false) := by
    cases same
    refine ⟨calls, fun effect mem => ⟨result, ?_, intime⟩⟩
    exact List.mem_singleton.1 mem
  cases handles with
  | send free sends =>
    rw [send_of_closed closed] at sends
    exact one rfl (fun _ => rfl) sends
  | await free checks =>
    rw [checkActive_of_closed closed] at checks
    exact one rfl (fun _ => rfl) checks
  | @checkReply key timeout poll _ _ held checks =>
    obtain ⟨calls, ended⟩ := checkReply_of_closed closed id key timeout timeout poll.slept poll
    refine one calls (fun _ => client.isTimeout_closingResult (.awaitingReply key timeout poll)) ?_
    rw [← checks]
    exact Prod.ext rfl ended.symm
  | checkActive held checks =>
    rw [checkActive_of_closed closed] at checks
    exact one rfl (fun _ => rfl) checks
  | wakeReply | wakeActive => exact one rfl (absurd rfl) rfl
  | dropReply | dropActive => exact ⟨rfl, by simp⟩

/-- What callers get from a client that is closed. -/
structure TurnsAway (client : Client ι) : Prop where
  send : ∀ now id msg timeout, callIn client.calls id = none →
    client.step now (.send id msg timeout) = some (client, [.finish id (.failed .closed)])
  awaitActive : ∀ now id timeout next, callIn client.calls id = none →
    client.step now (.awaitActive id timeout next) = some (client, [.finish id (.failed .closed)])
  /-- A call that goes on ends at its next check. -/
  check : ∀ now id call, callIn client.calls id = some call → ∃ after,
    client.step now (.callSlept id true) = some (after, [.finish id (client.closingResult call)]) ∧
      callIn after.calls id = none
  /-- Until then it goes on. -/
  keeps : ∀ now event after effects id, client.step now event = some (after, effects) →
    event.call? ≠ some id → callIn after.calls id = callIn client.calls id
  /-- As long as the sleeps of calls succeed, none of them waits too long. -/
  intime : ∀ now event after effects, client.step now event = some (after, effects) →
    (∀ id, event ≠ .callSlept id false) → ∀ id result, .finish id result ∈ effects →
    result.isTimeout = false

theorem turnsAway_of_closed (closed : client.closed = true) : client.TurnsAway where
  send := fun now id msg timeout free => step_send_of_closed closed free now msg timeout
  awaitActive := fun now id timeout next free => step_awaitActive_of_closed closed free now timeout next
  check := by
    intro now id call held
    obtain ⟨after, steps, calls⟩ := step_callSlept_of_closed closed held now
    refine ⟨after, steps, ?_⟩
    have gone := client.desk.call?_drop id id
    rw [if_pos rfl] at gone
    rw [calls]
    exact gone
  keeps := by
    intro now event after effects id taken apart
    cases about : event.call? with
    | none => rw [(calls_of_step about taken).1]
    | some other =>
      have different : id ≠ other := by
        rintro rfl
        exact apart about
      have rest := client.desk.call?_drop other id
      rw [if_neg different] at rest
      rw [(ends_of_handles closed (handles_of_step about taken)).1]
      exact rest
  intime := by
    intro now event after effects taken sleeps id result mem
    cases about : event.call? with
    | none =>
      have ended : Entry.ended id result ∈ endedOf effects := List.mem_filterMap.2 ⟨_, mem, rfl⟩
      rw [(calls_of_step about taken).2] at ended
      cases ended
    | some caller =>
      obtain ⟨other, same, intime⟩ := (ends_of_handles closed (handles_of_step about taken)).2 _ mem
      cases same
      exact intime (sleeps _)

/-! ## The session task -/

omit [DecidableEq ι] in
theorem not_connect_takeOutput (client : Client ι) (now : Duration) (conn : Nat)
    (output : PumpOutput Unit Unit) : .connect ∉ (client.takeOutput now conn output).2 := by
  unfold takeOutput
  dsimp only
  split <;> split <;> simp

omit [DecidableEq ι] in
theorem not_connect_stepPump {conn : Nat} {step : PumpStep}
    (taken : client.stepPump now conn step = some (after, effects)) : .connect ∉ effects := by
  obtain ⟨channel, mid, output, next, first, -, -, handed, rest⟩ := stepPump_cases taken
  have one := not_connect_takeOutput (client.setChannel conn mid) now conn output
  rw [handed] at one
  obtain ⟨-, rfl⟩ | ⟨last, more, second, -, handed', rfl⟩ := rest
  · exact one
  · have other := not_connect_takeOutput (next.setChannel conn last) now conn more
    rw [handed'] at other
    rw [List.mem_append]
    exact not_or.2 ⟨one, other⟩

theorem not_attempt_of_finished (closed : client.closed = true) (finished : client.session = .finished)
    (taken : client.step now event = some (after, effects)) :
    event ≠ .attempt ∧ .connect ∉ effects := by
  cases takes_of_step taken with
  | attempt idle => cases idle.symm.trans finished
  | join connecting => cases connecting.symm.trans finished
  | check handshaking => cases handshaking.symm.trans finished
  | fail connecting => cases connecting.symm.trans finished
  | pump stepped => exact ⟨by simp, not_connect_stepPump stepped⟩
  | call handles =>
    refine ⟨?_, fun connects => ?_⟩
    · rintro rfl
      cases handles
    · obtain ⟨result, other, -⟩ := (ends_of_handles closed handles).2 _ connects
      cases other
  | _ => exact ⟨by simp, by simp⟩

/-- A client whose session task has finished, as it was and as it is: it has made no more attempts and no
more connections, and every state set in between was that of no session. -/
structure Settled (resolved client : Client ι) : Prop where
  session : client.session = .finished
  states : ∃ sets, client.states = List.replicate sets .disconnected ++ resolved.states
  attempts : client.metrics.connectionAttempts = resolved.metrics.connectionAttempts
  conns : client.channels.length = resolved.channels.length

variable {config : ClientConfig} {codec : Codec} {past : List (Moment ι)}

theorem Settled.stepped {resolved : Client ι} (settled : resolved.Settled client)
    (run : Run (.new config codec) past client) (taken : client.step now event = some (after, effects)) :
    resolved.Settled after := by
  obtain ⟨attempts, conns⟩ := (posts_of_step run.coherent taken).kept_of_finished settled.session
  obtain ⟨session, more, states⟩ := Line.finished_of_moves (moves_of_step taken) settled.session
  obtain ⟨sets, before⟩ := settled.states
  refine ⟨session, ⟨more + sets, ?_⟩, attempts.trans settled.attempts, conns.trans settled.conns⟩
  change after.states = _ ++ client.states at states
  rw [states, before, ← List.append_assoc, List.replicate_append_replicate]

namespace Run

theorem closed_of_shut (run : Run (.new config codec) past client) {asks : Moment ι} (mem : asks ∈ past)
    (asked : asks.event.shuts = true) : client.closed = true ∧ client.shutdown = true := by
  induction run with
  | start => cases mem
  | step run taken ih =>
    have posts := posts_of_step run.coherent taken
    obtain before | same := List.mem_append.1 mem
    · exact posts.stays_closed (ih before)
    · cases List.mem_singleton.1 same
      exact posts.closed_of_shuts asked

theorem settled_of_finished (run : Run (.new config codec) past client) {stops : Moment ι}
    (mem : stops ∈ past) (finished : stops.after.session = .finished) : stops.after.Settled client := by
  induction run with
  | start => cases mem
  | step run taken ih =>
    obtain before | same := List.mem_append.1 mem
    · exact (ih before).stepped run taken
    · cases List.mem_singleton.1 same
      exact ⟨finished, ⟨0, rfl⟩, rfl, rfl⟩

theorem upto {start : Client ι} {earlier later : List (Moment ι)} {first moment : Moment ι}
    (run : Run start (earlier ++ first :: later) client) (mem : moment ∈ first :: later) :
    ∃ past, Run start past moment.after ∧ first ∈ past := by
  obtain ⟨between, rest, split⟩ := List.append_of_mem mem
  rw [split, ← List.append_assoc] at run
  obtain ⟨reached, taken, -⟩ := run.of_append_cons
  refine ⟨_, .step reached taken, ?_⟩
  cases between with
  | nil =>
    cases split
    exact List.mem_concat_self
  | cons other between =>
    cases split
    simp

/-- A close that goes on can always come to its end: it takes at most one turn of the session task. -/
theorem can_settle (run : Run (.new config codec) past client) (asked : client.shutdown = true)
    (awaited : client.handle = .awaited) (now : Duration) :
    (client.step now .closingDone).isSome = true ∨
      ∃ last effects, client.step now .sessionShutDown = some (last, effects) ∧
        (last.step now .closingDone).isSome = true := by
  by_cases finished : client.session = .finished
  · left
    simp [Client.step, awaited, finished]
  · right
    have enabled : ∃ last effects, client.step now .sessionShutDown = some (last, effects) := by
      simp only [Client.step, if_pos (And.intro asked finished)]
      exact ⟨_, _, rfl⟩
    obtain ⟨last, effects, taken⟩ := enabled
    have books := (posts_of_step run.coherent taken).of_sessionShutDown
    have still : last.handle = .awaited := (congrArg Ledger.handle books).trans awaited
    have ended : last.session = .finished := congrArg Ledger.session books
    refine ⟨last, effects, taken, ?_⟩
    simp [Client.step, still, ended]

end Run

end Client

/-- Whether a close is over in this step. -/
def Moment.resolves (moment : Moment ι) : Bool :=
  match moment.event with
  | .close => moment.before.handle = .spent
  | .closingDone => true
  | _ => false

/-- A close that is over has awaited the session task, or found that it had finished, unless it was over too
early. -/
theorem Moment.finished_of_resolves {moment : Moment ι}
    (taken : moment.before.step moment.now moment.event = some (moment.after, moment.effects))
    (resolves : moment.resolves = true) (waited : moment.overtakes = false) :
    moment.after.session = .finished := by
  obtain ⟨now, event, before, after, effects⟩ := moment
  dsimp only at taken ⊢
  cases Client.takes_of_step taken with
  | closeAtOnce spent =>
    have finished : before.session = .finished := by simpa [overtakes, spent] using waited
    exact finished
  | close kept => simp [Moment.resolves, kept] at resolves
  | settle awaited finished => exact finished
  | call handles => cases handles <;> cases resolves
  | _ => cases resolves

/-- From the moment a client is closed new calls are refused, those that go on end at their next check, and
a close that goes on can come to its end. Once a close is over the client has no session and no channel for
good, and it makes no further attempt to connect, unless the close was over before the session task had
finished: for that an earlier one was given up. -/
theorem close_is_final {config : ClientConfig} {codec : Codec} {earlier later : List (Moment ι)}
    {asks : Moment ι} {client : Client ι}
    (run : Client.Run (.new config codec) (earlier ++ asks :: later) client)
    (asked : asks.event.shuts = true) :
    (∀ moment ∈ asks :: later, moment.after.TurnsAway ∧ (moment.after.handle = .awaited → ∀ now,
      (moment.after.step now .closingDone).isSome = true ∨
        ∃ last effects, moment.after.step now .sessionShutDown = some (last, effects) ∧
          (last.step now .closingDone).isSome = true)) ∧
    ∀ during resolves rest, asks :: later = during ++ resolves :: rest → resolves.resolves = true →
      (resolves.overtakes = false ∧
        (∀ moment ∈ resolves :: rest, moment.after.state = .disconnected ∧ moment.after.current = none ∧
          resolves.after.Settled moment.after) ∧
        ∀ moment ∈ rest, moment.event ≠ .attempt ∧ .connect ∉ moment.effects) ∨
      resolves.overtakes = true ∧ ∃ gone ∈ earlier ++ during, gone.GivesUpClose := by
  constructor
  · intro moment mem
    obtain ⟨past, reached, among⟩ := run.upto mem
    have closed := reached.closed_of_shut among asked
    exact ⟨Client.turnsAway_of_closed closed.1, reached.can_settle closed.2⟩
  intro during resolves rest split resolved
  have first : asks ∈ during ++ [resolves] := by
    cases during <;> simp_all
  have whole : Client.Run (.new config codec) ((earlier ++ during) ++ resolves :: rest) client := by
    rw [List.append_assoc, ← split]
    exact run
  cases waited : resolves.overtakes with
  | true => exact .inr ⟨rfl, whole.givesUpClose_of_overtakes waited⟩
  | false =>
    have finished := Moment.finished_of_resolves whole.of_append_cons.2.1 resolved waited
    refine .inl ⟨rfl, ?_, ?_⟩
    · intro moment mem
      obtain ⟨past, reached, among⟩ := whole.upto mem
      have settled := reached.settled_of_finished among finished
      obtain ⟨current, state⟩ := reached.coherent.suits_of settled.session
      exact ⟨state, current, settled⟩
    · intro moment mem
      obtain ⟨between, after, rfl⟩ := List.append_of_mem mem
      rw [← List.cons_append, ← List.append_assoc] at whole
      obtain ⟨reached, taken, -⟩ := whole.of_append_cons
      have settled := reached.settled_of_finished (by simp) finished
      have among : asks ∈ (earlier ++ during) ++ resolves :: between := by
        rw [List.append_assoc, List.append_cons, ← List.append_assoc]
        simp only [List.mem_append] at first ⊢
        exact .inl (.inr first)
      have closed := (reached.closed_of_shut among asked).1
      exact Client.not_attempt_of_finished closed settled.session taken

/-- The client is closed while two calls go on, one of which has its reply already. -/
theorem close_is_final_in_exchange : ∃ (past later : List (Moment Nat)) (asks resolves : Moment Nat)
    (client : Client Nat), Client.Run (.new (.localNetwork "peer") .binary) (past ++ asks :: later) client ∧
      asks.event = .close ∧ asks.before.state = .active ∧ resolves ∈ later ∧
      resolves.resolves = true ∧ resolves.overtakes = false ∧ client.state = .disconnected ∧
      (∃ after, asks.after.step ⟨9⟩ (.callSlept 7 true) =
        some (after, [.finish 7 (.replied (keyedMessage "0210" "a"))])) ∧
      ∃ after, asks.after.step ⟨9⟩ (.callSlept 8 true) = some (after, [.finish 8 (.failed .closed)]) := by
  obtain ⟨past, client, run, seen⟩ := exists_run_of_replay (.new (.localNetwork "peer") .binary)
    (exchange ++ [(⟨6⟩, .send 8 (keyedMessage "0200" "b") (.ofSeconds 1))])
    (fun _ client => (client.state, client.session, client.handle,
      (callIn client.calls 7).map client.closingResult, (callIn client.calls 8).map client.closingResult))
    (.active, .attached 0, .kept, some (.replied (keyedMessage "0210" "a")), some (.failed .closed))
    (by decide +kernel)
  simp only [Prod.mk.injEq] at seen
  obtain ⟨active, attached, kept, answered, unanswered⟩ := seen
  let closed : Client Nat := { client.shut with handle := .awaited }
  have asked : Client.Run _ (past ++ [⟨⟨7⟩, .close, client, closed, []⟩]) closed :=
    .step run (by simp [Client.step, kept, closed])
  -- The session task takes its turn, and the close is over.
  obtain finished | ⟨last, effects, taken, settles⟩ := asked.can_settle rfl rfl ⟨8⟩
  · -- The session task still waits on its connection.
    simp [Client.step, closed, Client.shut, attached] at finished
  obtain ⟨⟨final, more⟩, settled⟩ := Option.isSome_iff_exists.1 settles
  have whole := (asked.step taken).step settled
  rw [List.append_assoc, List.append_assoc] at whole
  obtain ⟨turns, ends⟩ := close_is_final whole rfl
  obtain ⟨-, finals, -⟩ := (ends (_ :: _) _ [] rfl rfl).resolve_right (by simp [Moment.overtakes])
  have turnsAway : closed.TurnsAway := (turns _ List.mem_cons_self).1
  have check {id : Nat} {result : CallResult}
      (goes : (callIn client.calls id).map client.closingResult = some result) :
      ∃ after, closed.step ⟨9⟩ (.callSlept id true) = some (after, [.finish id result]) := by
    obtain ⟨call, held, rfl⟩ := Option.map_eq_some_iff.1 goes
    obtain ⟨after, steps, -⟩ := turnsAway.check ⟨9⟩ id call held
    cases call <;> exact ⟨after, steps⟩
  exact ⟨past, _, _, _, final, whole, rfl, active, List.mem_concat_self, rfl, rfl,
    (finals _ List.mem_cons_self).1, check answered, check unanswered⟩

/-- A client is closed while its session is active, the close is given up, and the next one is over at once:
the channel is still there, and once it has ended the session task makes another attempt to connect. -/
theorem close_is_not_final_after_one_given_up : ∃ (past later : List (Moment Nat)) (asks : Moment Nat)
    (client : Client Nat), Client.Run (.new (.localNetwork "peer") .binary) (past ++ asks :: later) client ∧
      asks.event = .close ∧ asks.resolves = true ∧ asks.after.current = some 0 ∧
      asks.after.metrics.connectionAttempts = 1 ∧ client.metrics.connectionAttempts = 2 ∧
      client.state = .connecting := by
  obtain ⟨past, middle, run, active⟩ := exists_run_of_replay (.new (.localNetwork "peer") .binary)
    (exchange ++ [(⟨6⟩, .close), (⟨7⟩, .dropClose)])
    (fun _ client => (client.handle, client.current, client.metrics.connectionAttempts,
      ((client.shut.setState .disconnected).replay
        [(⟨9⟩, .pump 0 .endOfStream), (⟨10⟩, .connectionEnded), (⟨11⟩, .attempt)]).map fun run =>
          (run.2.metrics.connectionAttempts, run.2.state)))
    (.spent, some 0, 1, some (2, .connecting)) (by decide +kernel)
  simp only [Prod.mk.injEq] at active
  obtain ⟨spent, current, attempts, goes⟩ := active
  obtain ⟨⟨later, client⟩, replayed, again⟩ := Option.map_eq_some_iff.1 goes
  simp only [Prod.mk.injEq] at again
  have asked : Client.Run _
      (past ++ [⟨⟨8⟩, .close, middle, middle.shut.setState .disconnected, []⟩])
      (middle.shut.setState .disconnected) := .step run (by simp [Client.step, spent])
  have whole := Client.run_of_replay asked replayed
  rw [List.append_assoc] at whole
  exact ⟨past, later, _, client, whole, rfl, by simp [Moment.resolves, spent], current, attempts, again⟩

end Iso8583
