import Iso8583.Proofs.Client.Run
import Iso8583.Proofs.Framing.Payloads
import Iso8583.Proofs.Store.Lookup

/-!
# What a step does to replies, calls and the handshake

Only a few parts of a client matter for who gets which reply: the store, the calls that go on, and the
handshake whose reply is awaited. Every step is a short sequence of acts on these, and the journal of
the step is what the acts add to it.
-/

namespace Iso8583

variable {ι : Type} [DecidableEq ι]

/-! ## The parts that matter -/

/-- The handshake whose reply the session task waits for: its connection and its key. -/
def SessionTask.handshake? : SessionTask → Option (Nat × String)
  | .handshaking conn key => some (conn, key)
  | _ => none

/-- The replies held, the calls that go on, and the handshake whose reply is awaited, with the settings
that say what is done with them. -/
structure Desk (ι : Type) where
  config : ClientConfig
  codec : Codec
  store : PendingReplies
  calls : List (ι × Call)
  handshake : Option (Nat × String)

namespace Desk

def drop (desk : Desk ι) (id : ι) : Desk ι :=
  { desk with calls := desk.calls.filter (·.1 ≠ id) }

def place (desk : Desk ι) (id : ι) (call : Call) : Desk ι :=
  { desk with calls := (id, call) :: desk.calls.filter (·.1 ≠ id) }

def withStore (desk : Desk ι) (store : PendingReplies) : Desk ι :=
  { desk with store := store }

theorem drop_place (desk : Desk ι) (id : ι) (call : Call) :
    (desk.place id call).drop id = desk.drop id := by
  simp [drop, place]

theorem place_eq_of_drop_eq {first second : Desk ι} {id : ι} (same : first.drop id = second.drop id)
    (call : Call) : first.place id call = second.place id call := by
  unfold drop at same
  unfold place
  injection same with config codec store calls handshake
  rw [config, codec, store, calls, handshake]

theorem withStore_drop (desk : Desk ι) (store : PendingReplies) (id : ι) :
    (desk.withStore store).drop id = (desk.drop id).withStore store := rfl

def call? (desk : Desk ι) (id : ι) : Option Call := callIn desk.calls id

theorem call?_drop (desk : Desk ι) (id other : ι) :
    (desk.drop id).call? other = if other = id then none else desk.call? other := by
  unfold call? callIn drop
  rw [List.find?_filter]
  split
  · rename_i same
    subst same
    rw [List.find?_eq_none.2 fun call held => by simp]
    rfl
  · rename_i different
    congr 2
    funext call
    by_cases same : call.1 = other <;> simp [same, different]

theorem call?_place (desk : Desk ι) (id other : ι) (call : Call) :
    (desk.place id call).call? other = if other = id then some call else desk.call? other := by
  have rest := desk.call?_drop id other
  unfold call? callIn drop at rest
  unfold call? callIn place
  rw [List.find?_cons]
  by_cases same : other = id
  · subst same
    simp
  · rw [if_neg same] at rest ⊢
    rw [← rest]
    simp [Ne.symm same]

end Desk

/-- The parts of a client that matter. -/
def Client.desk (client : Client ι) : Desk ι :=
  ⟨client.config, client.codec, client.store, client.calls, client.session.handshake?⟩

/-- The result of a call that takes a reply. -/
def replyOf (codec : Codec) (bytes : Bytes) : CallResult :=
  match codec.decode bytes with
  | .ok msg => .replied msg
  | .error error => .failed (.codec error)

/-- What the start of a call adds to the journal. -/
def askedBy {ι : Type} (id : ι) : Option Message → List (Entry ι)
  | some request => [.asked id request]
  | none => []

/-- Whether a call can end so before it waits for a reply. -/
def CallResult.IsEarly : CallResult → Prop
  | .replied _ => False
  | .failed (.responseTimeout _ _) => False
  | _ => True

/-! ## Acts -/

/-- One change of these parts, and what it adds to the journal. -/
inductive Act (fields : KeyFields) (codec : Codec) : Desk ι → List (Entry ι) → Desk ι → Prop where
  /-- A message that was received is stored under its key. -/
  | record {desk : Desk ι} {msg : Message} {key : String} {bytes : Bytes}
      (received : codec.Receives msg) (keyed : fields.keyFor msg = .ok key)
      (written : codec.encode msg = .ok bytes) :
      Act fields codec desk [.recorded msg] (desk.withStore (desk.store.put key bytes).2)
  /-- A call starts. -/
  | ask {desk : Desk ι} {id : ι} {next : Option Message} (timeout : Duration) (poll : Poll)
      (free : desk.call? id = none) :
      Act fields codec desk (askedBy id next) (desk.place id (.awaitingActive timeout poll next))
  /-- A call goes on waiting for an active session. -/
  | rest {desk : Desk ι} {id : ι} {timeout limit : Duration} {poll later : Poll} {next : Option Message}
      (held : desk.call? id = some (.awaitingActive timeout poll next)) :
      Act fields codec desk [] (desk.place id (.awaitingActive limit later next))
  /-- A call that awaits no reply ends without one. -/
  | settle {desk : Desk ι} {id : ι} {timeout : Duration} {poll : Poll} {next : Option Message}
      {result : CallResult} (held : desk.call? id = some (.awaitingActive timeout poll next))
      (early : result.IsEarly) :
      Act fields codec desk [.ended id result] (desk.drop id)
  /-- A call that awaits no reply is given up. -/
  | leave {desk : Desk ι} {id : ι} {timeout : Duration} {poll : Poll} {next : Option Message}
      (held : desk.call? id = some (.awaitingActive timeout poll next)) :
      Act fields codec desk [.dropped id] (desk.drop id)
  /-- A call finds the reply to its request already there. -/
  | claim {desk : Desk ι} {id : ι} {timeout : Duration} {poll : Poll} {request : Message}
      {key : String} {bytes : Bytes}
      (held : desk.call? id = some (.awaitingActive timeout poll (some request)))
      (keyed : fields.keyFor request = .ok key) (free : desk.store.isInFlight key = false)
      (found : desk.store.get? key = some bytes) :
      Act fields codec desk [.ended id (replyOf codec bytes)]
        ((desk.withStore (desk.store.erase key)).drop id)
  /-- A call registers the key of its request. -/
  | register {desk : Desk ι} {id : ι} {timeout limit : Duration} {poll later : Poll}
      {request : Message} {key : String} {store : PendingReplies}
      (held : desk.call? id = some (.awaitingActive timeout poll (some request)))
      (keyed : fields.keyFor request = .ok key) (absent : desk.store.get? key = none)
      (begun : desk.store.begin? key = some store) :
      Act fields codec desk [.began id key]
        ((desk.withStore store).place id (.awaitingReply key limit later))
  /-- A call does not find its reply and goes on waiting. -/
  | wait {desk : Desk ι} {id : ι} {key : String} {timeout limit : Duration} {poll later : Poll}
      (held : desk.call? id = some (.awaitingReply key timeout poll))
      (absent : desk.store.get? key = none) :
      Act fields codec desk [.checked id] (desk.place id (.awaitingReply key limit later))
  /-- A call finds its reply. -/
  | take {desk : Desk ι} {id : ι} {key : String} {timeout : Duration} {poll : Poll} {bytes : Bytes}
      (held : desk.call? id = some (.awaitingReply key timeout poll))
      (found : desk.store.get? key = some bytes) :
      Act fields codec desk [.checked id, .ended id (replyOf codec bytes)]
        ((desk.withStore ((desk.store.erase key).finish key)).drop id)
  /-- A call does not find its reply and stops waiting. -/
  | expire {desk : Desk ι} {id : ι} {key : String} {timeout : Duration} {poll : Poll}
      {error : ClientError} (held : desk.call? id = some (.awaitingReply key timeout poll))
      (absent : desk.store.get? key = none)
      (reason : error = .closed ∨ ∃ waited, error = .responseTimeout key waited) :
      Act fields codec desk [.checked id, .ended id (.failed error)]
        ((desk.withStore (desk.store.finish key)).drop id)
  /-- The sleep of a call that awaits a reply fails. -/
  | wake {desk : Desk ι} {id : ι} {key : String} {timeout : Duration} {poll : Poll}
      (held : desk.call? id = some (.awaitingReply key timeout poll)) (waited : Duration) :
      Act fields codec desk [.interrupted id, .ended id (.failed (.responseTimeout key waited))]
        ((desk.withStore (desk.store.finish key)).drop id)
  /-- A call that awaits a reply is given up. -/
  | abandon {desk : Desk ι} {id : ι} {key : String} {timeout : Duration} {poll : Poll}
      (held : desk.call? id = some (.awaitingReply key timeout poll)) :
      Act fields codec desk [.dropped id] ((desk.withStore (desk.store.finish key)).drop id)
  /-- A handshake registers its key. -/
  | greet {desk : Desk ι} {key : String} {store : PendingReplies} (conn : Nat)
      (idle : desk.handshake = none) (begun : desk.store.begin? key = some store) :
      Act fields codec desk [] { desk with store := store, handshake := some (conn, key) }
  /-- A handshake finds its reply. -/
  | acknowledge {desk : Desk ι} {conn : Nat} {key : String} {bytes : Bytes}
      (awaited : desk.handshake = some (conn, key)) (found : desk.store.get? key = some bytes) :
      Act fields codec desk [.acknowledged conn key]
        { desk with store := (desk.store.erase key).finish key, handshake := none }
  /-- A handshake stops waiting for its reply. -/
  | part {desk : Desk ι} {conn : Nat} {key : String} (awaited : desk.handshake = some (conn, key)) :
      Act fields codec desk [] { desk with store := desk.store.finish key, handshake := none }

inductive Acts (fields : KeyFields) (codec : Codec) : Desk ι → List (Entry ι) → Desk ι → Prop where
  | nil (desk : Desk ι) : Acts fields codec desk [] desk
  | snoc {desk mid last : Desk ι} {entries later : List (Entry ι)}
      (acts : Acts fields codec desk entries mid) (act : Act fields codec mid later last) :
      Acts fields codec desk (entries ++ later) last

namespace Acts

variable {fields : KeyFields} {codec : Codec}

theorem one {desk last : Desk ι} {entries : List (Entry ι)} (act : Act fields codec desk entries last) :
    Acts fields codec desk entries last := snoc (nil desk) act

theorem trans {desk mid last : Desk ι} {entries later : List (Entry ι)}
    (first : Acts fields codec desk entries mid) (second : Acts fields codec mid later last) :
    Acts fields codec desk (entries ++ later) last := by
  induction second with
  | nil =>
    rw [List.append_nil]
    exact first
  | snoc acts act ih =>
    rw [← List.append_assoc]
    exact snoc ih act

theorem receives {desk last : Desk ι} {entries : List (Entry ι)}
    (acts : Acts fields codec desk entries last) {msg : Message} (recorded : .recorded msg ∈ entries) : codec.Receives msg := by
  induction acts with
  | nil => cases recorded
  | snoc acts act ih =>
    obtain before | now := List.mem_append.1 recorded
    · exact ih before
    · cases act with
      | record received keyed written =>
        cases List.mem_singleton.1 now
        exact received
      | ask timeout poll free =>
        rename_i id next
        cases next <;> simp [askedBy] at now
      | _ => simp at now

theorem keeps {desk last : Desk ι} {entries : List (Entry ι)}
    (acts : Acts fields codec desk entries last) :
    last.config = desk.config ∧ last.codec = desk.codec := by
  induction acts with
  | nil => exact ⟨rfl, rfl⟩
  | snoc acts act ih => cases act <;> exact ih

end Acts

end Iso8583
