import Iso8583.Proofs.Client.Calls
import Iso8583.Proofs.Client.Waiters

/-!
# Requests that are refused

A request is refused for the first of seven reasons that applies to it, and then the client is left as it was:
what was registered for the request on the way is let go again. Only a stored reply that cannot be read is
gone, since it was taken to be read.
-/

namespace Iso8583

variable {ι : Type}

/-! ## Reasons -/

/-- Why a request is refused before it waits. -/
inductive Refusal where
  | closed
  | missingKeyField
  | duplicateKey
  | unreadable
  | notActive
  | unencodable
  | unframable
  deriving DecidableEq

def Refusal.order : List Refusal :=
  [.closed, .missingKeyField, .duplicateKey, .unreadable, .notActive, .unencodable, .unframable]

theorem KeyFields.lacking?_eq_none {fields : KeyFields} {msg : Message} {key : String}
    (keyed : fields.keyFor msg = .ok key) : fields.lacking? msg = none := by
  cases lacks : fields.lacking? msg with
  | none => rfl
  | some id => cases keyed.symm.trans (keyFor_eq_error_iff.2 ⟨id, lacks, rfl⟩)

namespace Client

/-- The error that a reason to refuse a request gives, if it applies. -/
def refusal? (client : Client ι) (msg : Message) : Refusal → Option ClientError
  | .closed => if client.closed then some .closed else none
  | .missingKeyField => (client.config.keyFields.lacking? msg).map .missingKeyField
  | .duplicateKey => match client.config.keyFields.keyFor msg with
    | .ok key => if client.store.isInFlight key then some (.duplicateKey key) else none
    | .error _ => none
  | .unreadable => match client.config.keyFields.keyFor msg with
    | .ok key => match (client.store.get? key).map client.codec.decode with
      | some (.error error) => some (.codec error)
      | _ => none
    | .error _ => none
  | .notActive => if client.current.isNone then some .notActive else none
  | .unencodable => match client.codec.encode msg with
    | .error error => some (.codec error)
    | .ok _ => none
  | .unframable => match (client.codec.encode msg).map frame with
    | .ok (.error error) => some (.wire error)
    | _ => none

def firstRefusal? (client : Client ι) (msg : Message) : Option (Refusal × ClientError) :=
  Refusal.order.findSome? fun refusal => (client.refusal? msg refusal).map (refusal, ·)

/-- The reply that is stored for a request, if it can be taken at once and read. -/
def answer? (client : Client ι) (msg : Message) : Option Message :=
  if client.closed then none
  else match client.config.keyFields.keyFor msg with
    | .error _ => none
    | .ok key =>
      if client.store.isInFlight key then none
      else (client.store.get? key).bind fun bytes => (client.codec.decode bytes).toOption

variable {acked : Nat → Prop} {overtaken : Prop} {client after : Client ι} {now : Duration}
  {event : ClientEvent ι} {effects : List (ClientEffect ι)}
  {msg : Message} {refusal : Refusal} {error : ClientError}

/-! ## The way of a request -/

/-- A request has a key that nobody awaits, and no reply is stored for it. -/
structure Pending (client : Client ι) (msg : Message) (key : String) : Prop where
  opened : client.closed = false
  keyed : client.config.keyFields.keyFor msg = .ok key
  free : client.store.isInFlight key = false
  absent : client.store.get? key = none

theorem Pending.firstRefusal?_eq {key : String} (pending : client.Pending msg key) :
    client.firstRefusal? msg = [Refusal.notActive, .unencodable, .unframable].findSome? fun refusal =>
      (client.refusal? msg refusal).map (refusal, ·) := by
  have complete := KeyFields.lacking?_eq_none pending.keyed
  simp [firstRefusal?, Refusal.order, List.findSome?_cons, refusal?, pending.opened, pending.keyed, complete,
    pending.free, pending.absent]

theorem Pending.answer?_eq {key : String} (pending : client.Pending msg key) : client.answer? msg = none := by
  simp [answer?, pending.opened, pending.keyed, pending.free, pending.absent]

theorem register_of_coherent (coherent : client.line.Coherent acked overtaken) {key : String}
    (free : client.store.isInFlight key = false) (msg : Message) :
    (client.current = none ∧ client.register key msg = .refused client .notActive) ∨
    (client.current ≠ none ∧ ∃ error, client.codec.encode msg = .error error ∧
      client.register key msg = .refused client (.codec error)) ∨
    (client.current ≠ none ∧ ∃ payload error, client.codec.encode msg = .ok payload ∧
      frame payload = .error error ∧ client.register key msg = .refused client (.wire error)) ∨
    (client.current ≠ none ∧ ∃ payload bytes last, client.codec.encode msg = .ok payload ∧
      frame payload = .ok bytes ∧ client.register key msg = .awaiting last) := by
  unfold register
  split
  · rename_i apart
    exact .inl ⟨apart, rfl⟩
  rename_i conn current
  have attached : client.current ≠ none := by simp [current]
  obtain ⟨held, there, running, -⟩ := coherent.running_of_current current
  split
  · rename_i channel store found begun
    obtain rfl : channel = held := Option.some.inj (found.symm.trans there)
    dsimp only
    rw [release_of_begin? begun, running.write_eq, Outbox.frameOf]
    refine .inr ?_
    cases written : client.codec.encode msg with
    | error error => exact .inl ⟨attached, error, rfl, rfl⟩
    | ok payload =>
      dsimp only
      cases framed : frame payload with
      | error error => exact .inr (.inl ⟨attached, payload, error, rfl, framed, rfl⟩)
      | ok bytes => exact .inr (.inr ⟨attached, payload, bytes, _, rfl, framed, rfl⟩)
  · rename_i begun
    simp [PendingReplies.begin?, free] at begun
  · rename_i missing
    cases missing.symm.trans there

variable [DecidableEq ι] {id : ι}

/-- What a request comes to at once. -/
inductive Meets (client : Client ι) (id : ι) (msg : Message) : Client ι × List (ClientEffect ι) → Prop where
  /-- It is refused, and the client is left as it was. -/
  | refused {refusal : Refusal} {error : ClientError}
      (first : client.firstRefusal? msg = some (refusal, error)) (unanswered : client.answer? msg = none)
      (spared : refusal ≠ .unreadable) :
    Meets client id msg (client.endCall id (.failed error))
  /-- It is refused for a stored reply that cannot be read, which is gone then. -/
  | unreadable {key : String} {error : ClientError}
      (first : client.firstRefusal? msg = some (.unreadable, error)) (unanswered : client.answer? msg = none)
      (keyed : client.config.keyFields.keyFor msg = .ok key) :
    Meets client id msg ({ client with store := client.store.erase key }.endCall id (.failed error))
  | answered {reply : Message} (answers : client.answer? msg = some reply) (last : Client ι) :
    Meets client id msg (last.endCall id (.replied reply))
  | waits (accepted : client.firstRefusal? msg = none) (last : Client ι) (call : Call) :
    Meets client id msg (last.sleepCall id call)

theorem Pending.meets (coherent : client.line.Coherent acked overtaken) {key : String}
    (pending : client.Pending msg key) (id : ι) (timeout : Duration) :
    client.Meets id msg (match client.register key msg with
      | .refused client error => client.endCall id (.failed error)
      | .awaiting client => client.checkReply id key timeout (client.pollFor timeout)) := by
  have left := pending.firstRefusal?_eq
  have unanswered := pending.answer?_eq
  obtain ⟨apart, refused⟩ | ⟨attached, error, unwritable, refused⟩ |
      ⟨attached, payload, error, written, unfit, refused⟩ |
      ⟨attached, payload, bytes, last, written, framed, awaiting⟩ :=
    register_of_coherent coherent pending.free msg
  · have first : client.firstRefusal? msg = some (.notActive, .notActive) := by
      simp [left, refusal?, apart]
    rw [refused]
    exact .refused first unanswered (by simp)
  · have first : client.firstRefusal? msg = some (.unencodable, .codec error) := by
      simp [left, refusal?, attached, unwritable]
    rw [refused]
    exact .refused first unanswered (by simp)
  · have first : client.firstRefusal? msg = some (.unframable, .wire error) := by
      simp [left, refusal?, attached, written, unfit, Except.map]
    rw [refused]
    exact .refused first unanswered (by simp)
  · have accepted : client.firstRefusal? msg = none := by
      simp [left, refusal?, attached, written, framed, Except.map]
    rw [awaiting]
    dsimp only
    rw [checkReply_of_awaiting awaiting pending.opened pending.absent]
    exact .waits accepted _ _

theorem meets_of_closed (closed : client.closed = true) (id : ι) (msg : Message) :
    client.Meets id msg (client.endCall id (.failed .closed)) := by
  have first : client.firstRefusal? msg = some (.closed, .closed) := by
    simp [firstRefusal?, Refusal.order, refusal?, closed]
  exact .refused first (by simp [answer?, closed]) (by simp)

/-- Every request of a client whose session is coherent is refused for the first reason that applies,
answered, or made to wait. -/
theorem send_meets (coherent : client.line.Coherent acked overtaken) (id : ι) (msg : Message)
    (timeout : Duration) : client.Meets id msg (client.send id msg timeout) := by
  unfold send
  split
  · rename_i closed
    exact meets_of_closed closed id msg
  rename_i unclosed
  have opened : client.closed = false := by simpa using unclosed
  split
  · rename_i error unkeyed
    obtain ⟨lacking, lacks, rfl⟩ := KeyFields.keyFor_eq_error_iff.1 unkeyed
    have first : client.firstRefusal? msg = some (.missingKeyField, .missingKeyField lacking) := by
      simp [firstRefusal?, Refusal.order, refusal?, opened, lacks]
    exact .refused first (by simp [answer?, unkeyed]) (by simp)
  rename_i key keyed
  have complete := KeyFields.lacking?_eq_none keyed
  split
  · rename_i flight
    have first : client.firstRefusal? msg = some (.duplicateKey, .duplicateKey key) := by
      simp [firstRefusal?, Refusal.order, refusal?, opened, keyed, complete, flight]
    exact .refused first (by simp [answer?, keyed, flight]) (by simp)
  rename_i unheld
  have free : client.store.isInFlight key = false := by simpa using unheld
  unfold PendingReplies.remove
  cases stored : client.store.get? key with
  | none => exact Pending.meets coherent ⟨opened, keyed, free, stored⟩ id timeout
  | some bytes =>
    dsimp only
    unfold decodeReply
    dsimp only
    cases decoded : client.codec.decode bytes with
    | ok reply =>
      refine .answered ?_ _
      simp [answer?, opened, keyed, free, stored, decoded, Except.toOption]
    | error error =>
      have first : client.firstRefusal? msg = some (.unreadable, .codec error) := by
        simp [firstRefusal?, Refusal.order, refusal?, opened, keyed, complete, free, stored, decoded]
      refine .unreadable first ?_ keyed
      simp [answer?, keyed, stored, decoded, Except.toOption]

theorem meets_of_sends? (coherent : client.line.Coherent acked overtaken)
    (taken : client.step now event = some (after, effects)) (about : event.call? = some id)
    (sends : client.sends? event = some msg) : client.Meets id msg (after, effects) := by
  obtain ⟨timeout, same⟩ | ⟨-, timeout, poll, checks⟩ := checks_of_sends? taken about sends
  · exact same ▸ send_meets coherent id msg timeout
  cases closed : client.closed with
  | true =>
    rw [← checks, checkActive_of_closed closed]
    exact meets_of_closed closed id msg
  | false =>
    obtain ⟨timeout, same⟩ := send_of_sends? taken about sends closed
    exact same ▸ send_meets coherent id msg timeout

end Client

variable [DecidableEq ι]

/-- A call that sends a request fails in the same step exactly if some reason to refuse the request applies
and no reply that can be read is stored for it, and it fails with the error of the first such reason. The
client is left as it was then, but for the call itself: its replies, the keys in flight, the channels with
their queues, the session and the metrics. Only if a stored reply cannot be read, that reply is gone. -/
theorem refused_request_changes_nothing {config : ClientConfig} {codec : Codec} {past : List (Moment ι)}
    {client after : Client ι} (run : Client.Run (.new config codec) past client) {now : Duration}
    {event : ClientEvent ι} {effects : List (ClientEffect ι)} {id : ι} {msg : Message}
    (taken : client.step now event = some (after, effects)) (about : event.call? = some id)
    (sends : client.sends? event = some msg) :
    (∀ error, .finish id (.failed error) ∈ effects ↔
      client.answer? msg = none ∧ ∃ refusal, client.firstRefusal? msg = some (refusal, error)) ∧
    ∀ refusal error, client.firstRefusal? msg = some (refusal, error) → .finish id (.failed error) ∈ effects →
      effects = [.finish id (.failed error)] ∧
      (refusal ≠ .unreadable → after = { client with calls := client.calls.filter (·.1 ≠ id) }) ∧
      (refusal = .unreadable → ∃ key, client.config.keyFields.keyFor msg = .ok key ∧
        after = { client with
          store := client.store.erase key, calls := client.calls.filter (·.1 ≠ id) }) := by
  have meets := Client.meets_of_sends? run.coherent taken about sends
  generalize same : (after, effects) = outcome at meets
  cases meets with
  | refused first unanswered spared =>
    cases same
    refine ⟨fun error => by simp [first, unanswered, eq_comm], ?_⟩
    intro second other also told
    cases also.symm.trans first
    exact ⟨rfl, fun _ => rfl, fun unreadable => absurd unreadable spared⟩
  | unreadable first unanswered keyed =>
    cases same
    refine ⟨fun error => by simp [first, unanswered, eq_comm], ?_⟩
    intro second other also told
    cases also.symm.trans first
    exact ⟨rfl, fun readable => absurd rfl readable, fun _ => ⟨_, keyed, rfl⟩⟩
  | answered answers last =>
    cases same
    exact ⟨fun error => by simp [answers], by simp⟩
  | waits accepted last call =>
    cases same
    exact ⟨fun error => by simp [accepted], by simp⟩

/-- The reply to a request has arrived and its call is about to take it. A second request under the same key
is refused and does not get it. -/
theorem refused_request_changes_nothing_in_exchange : ∃ past client,
    Client.Run (.new (.localNetwork "peer") .binary) past (client : Client Nat) ∧
      (client.store.get? "a").isSome = true ∧
      client.step ⟨6⟩ (.send 8 (keyedMessage "0200" "a") (.ofSeconds 1)) =
        some ({ client with calls := client.calls.filter (·.1 ≠ 8) },
          [.finish 8 (.failed (.duplicateKey "a"))]) := by
  obtain ⟨past, client, run, seen⟩ := exists_run_of_replay (.new (.localNetwork "peer") .binary) exchange
    (fun _ client => ((client.store.get? "a").isSome, (callIn client.calls 8).isNone,
      client.answer? (keyedMessage "0200" "a"), client.firstRefusal? (keyedMessage "0200" "a")))
    (true, true, none, some (.duplicateKey, .duplicateKey "a")) (by decide +kernel)
  simp only [Prod.mk.injEq] at seen
  obtain ⟨stored, free, unanswered, first⟩ := seen
  refine ⟨past, client, run, stored, ?_⟩
  have taken : client.step ⟨6⟩ (.send 8 (keyedMessage "0200" "a") (.ofSeconds 1)) =
      some (client.send 8 (keyedMessage "0200" "a") (.ofSeconds 1)) :=
    Client.step_send (Option.isNone_iff_eq_none.1 free) _ _ _
  obtain ⟨tells, changes⟩ := refused_request_changes_nothing run taken rfl rfl
  have told := (tells (.duplicateKey "a")).2 ⟨unanswered, .duplicateKey, first⟩
  obtain ⟨effects, left, -⟩ := changes _ _ first told
  rw [taken]
  exact congrArg some (Prod.ext (left (by simp)) effects)

end Iso8583
