import Iso8583.Proofs.Client.Calls

/-!
# What a step does to the reply counters

The replies that a client holds were counted when they came in. Each leaves the store at most once, with the
call or the handshake that takes it, or when it makes room. A call that waits for its reply has sent its
request, and is counted once more if it gives up.
-/

namespace Iso8583

/-! ## Entries -/

/-- The reply counters of a client, the replies it holds, and the calls that wait for one. -/
structure Tally where
  received : Nat
  dropped : Nat
  claimed : Nat
  handshakes : Nat
  sent : Nat
  timeouts : Nat
  held : Nat
  awaiting : Nat

/-- One step's entry. The list tells for each frame that is read whether it is stored. -/
inductive Tally.Posts (tally : Tally) : List Bool → Tally → Prop where
  | read {frames : List Bool} {held : Nat} (room : held ≤ tally.held + frames.count true) :
      Posts tally frames
        { tally with
          received := tally.received + frames.count true
          dropped := tally.dropped + frames.count false
          held := held }
  /-- A call takes a reply, which can be read or not. -/
  | claim {claims held awaiting : Nat} (taken : held < tally.held) (one : claims ≤ 1)
      (fewer : awaiting ≤ tally.awaiting) :
      Posts tally []
        { tally with claimed := tally.claimed + claims, held := held, awaiting := awaiting }
  /-- A handshake takes a reply, which can be read or not. -/
  | acknowledge {acks held : Nat} (taken : held < tally.held) (one : acks ≤ 1) :
      Posts tally [] { tally with handshakes := tally.handshakes + acks, held := held }
  | send {awaiting : Nat} (one : awaiting ≤ tally.awaiting + 1) :
      Posts tally [] { tally with sent := tally.sent + 1, awaiting := awaiting }
  | expire {awaiting : Nat} (ended : awaiting < tally.awaiting) :
      Posts tally [] { tally with timeouts := tally.timeouts + 1, awaiting := awaiting }
  | rest {awaiting : Nat} (fewer : awaiting ≤ tally.awaiting) :
      Posts tally [] { tally with awaiting := awaiting }

theorem Tally.Posts.counts {tally after : Tally} {frames : List Bool} (posts : tally.Posts frames after) :
    after.received = tally.received + frames.count true ∧
      after.dropped = tally.dropped + frames.count false := by
  cases posts <;> exact ⟨rfl, rfl⟩

/-- The counters add up: each reply that is held or was taken has been received, and each call that waits
or has given up has sent its request. -/
structure Tally.Balanced (tally : Tally) : Prop where
  replies : tally.claimed + tally.handshakes + tally.held ≤ tally.received
  requests : tally.timeouts + tally.awaiting ≤ tally.sent

theorem Tally.Balanced.posts {tally after : Tally} {frames : List Bool} (balanced : tally.Balanced)
    (posts : tally.Posts frames after) : after.Balanced := by
  obtain ⟨replies, requests⟩ := balanced
  cases posts <;> constructor <;> dsimp only <;> omega

/-! ## Replies that are held -/

namespace PendingReplies

theorem size_erase_lt {store : PendingReplies} {key : String} {bytes : Bytes}
    (found : store.get? key = some bytes) : (store.erase key).size < store.size :=
  length_erase_lt (contains_of_get? found)

theorem size_evict_le (store : PendingReplies) : store.evict.size ≤ store.size := by
  fun_induction evict store with
  | case1 store full found => exact Nat.le_refl _
  | case2 store full key found ih => exact Nat.le_trans ih (List.length_filter_le _ _)
  | case3 store within => exact Nat.le_refl _

theorem size_put_le (store : PendingReplies) (key : String) (bytes : Bytes) :
    (store.put key bytes).2.size ≤ store.size + 1 := by
  have stored : (store.insert key bytes).size ≤ store.size + 1 := by
    unfold insert
    split <;> simp [size]
  unfold put
  refine Nat.le_trans (size_evict_le _) ?_
  unfold size at stored ⊢
  rw [replies_compact]
  exact stored

end PendingReplies

/-! ## Calls that wait -/

variable {ι : Type} [DecidableEq ι]

def awaitingIn {ι : Type} (calls : List (ι × Call)) : Nat := calls.countP (·.2.key?.isSome)

theorem awaitingIn_filter_le (calls : List (ι × Call)) (id : ι) :
    awaitingIn (calls.filter (·.1 ≠ id)) ≤ awaitingIn calls :=
  List.filter_sublist.countP_le

theorem awaitingIn_filter_lt {calls : List (ι × Call)} {id : ι} {call : Call}
    (held : callIn calls id = some call) (awaits : call.key?.isSome = true) :
    awaitingIn (calls.filter (·.1 ≠ id)) < awaitingIn calls := by
  obtain ⟨⟨name, same⟩, found, rfl⟩ := Option.map_eq_some_iff.1 held
  have named : name = id := by simpa using List.find?_some found
  unfold awaitingIn
  rw [List.countP_eq_countP_filter_add calls _ (·.1 ≠ id)]
  have counted : 0 < (calls.filter fun entry => !decide (entry.1 ≠ id)).countP (·.2.key?.isSome) := by
    refine List.countP_pos_iff.2 ⟨(name, same), List.mem_filter.2 ⟨List.mem_of_find?_eq_some found, ?_⟩, awaits⟩
    simp [named]
  omega

theorem awaitingIn_cons_le (calls : List (ι × Call)) (id : ι) (call : Call) :
    awaitingIn ((id, call) :: calls.filter (·.1 ≠ id)) ≤ awaitingIn calls + 1 := by
  have rest := awaitingIn_filter_le calls id
  unfold awaitingIn at rest ⊢
  rw [List.countP_cons]
  split <;> omega

def Arrival.call : Arrival → ReaderCall Unit
  | .message msg => .message () msg
  | .dropped error => .dropped () error

namespace Client

omit [DecidableEq ι] in
def tally (client : Client ι) : Tally where
  received := client.metrics.repliesReceived
  dropped := client.metrics.framesDropped
  claimed := client.metrics.repliesClaimed
  handshakes := client.metrics.handshakesCompleted
  sent := client.metrics.requestsSent
  timeouts := client.metrics.responseTimeouts
  held := client.store.size
  awaiting := awaitingIn client.calls

variable {acked : Nat → Prop} {overtaken : Prop} {client after : Client ι} {now : Duration} {event : ClientEvent ι}
  {effects : List (ClientEffect ι)} {id : ι}

omit [DecidableEq ι] in
theorem tallies_same (same : after.tally = client.tally) : client.tally.Posts [] after.tally := by
  rw [same]
  exact .rest (Nat.le_refl _)

/-! ## Calls -/

omit [DecidableEq ι] in
theorem tally_closeChannel (client : Client ι) (conn : Nat) :
    (client.closeChannel conn).tally = client.tally := by
  unfold closeChannel
  split <;> rfl

theorem tally_sleepCall (client : Client ι) (id : ι) (call : Call) :
    (client.sleepCall id call).1.tally =
      { client.tally with awaiting := awaitingIn ((id, call) :: client.calls.filter (·.1 ≠ id)) } := rfl

theorem tallies_claim {store : PendingReplies} (taken : store.size < client.store.size) (id : ι)
    (bytes : Bytes) : client.tally.Posts [] (client.claim id bytes store).1.tally := by
  have fewer : awaitingIn (client.calls.filter (·.1 ≠ id)) ≤ client.tally.awaiting :=
    awaitingIn_filter_le client.calls id
  unfold claim decodeReply
  dsimp only
  cases client.codec.decode bytes with
  | ok msg => exact .claim taken (Nat.le_refl 1) fewer
  | error error => exact .claim taken (Nat.zero_le 1) fewer

omit [DecidableEq ι] in
theorem tally_register (coherent : client.line.Coherent acked overtaken) {key : String} {msg : Message}
    (sent : client.register key msg = .awaiting after) :
    after.tally = { client.tally with sent := client.tally.sent + 1 } := by
  cases departs_of_awaiting sent with
  | queued current found begun written =>
    obtain ⟨-, rfl⟩ := PendingReplies.begin?_eq_some_iff.1 begun
    rfl
  | @closing conn channel store error current found begun failed notCodec notWire =>
    obtain ⟨held, there, running, -⟩ := coherent.running_of_current current
    obtain rfl : channel = held := Option.some.inj (found.symm.trans there)
    obtain ⟨cause, rfl⟩ | ⟨cause, rfl⟩ := Channel.frameOf_error (running.write_error failed)
    · exact absurd rfl (notCodec cause)
    · exact absurd rfl (notWire cause)

theorem tallies_send (coherent : client.line.Coherent acked overtaken) (id : ι) (msg : Message)
    (timeout : Duration) : client.tally.Posts [] (client.send id msg timeout).1.tally := by
  obtain ⟨error, -, ends⟩ | ⟨key, bytes, found, claims⟩ | ⟨key, last, registered, calls, -, sleeps⟩ :=
    client.send_outcomes id msg timeout
  · rw [ends]
    exact .rest (awaitingIn_filter_le client.calls id)
  · rw [claims]
    exact tallies_claim (PendingReplies.size_erase_lt found) id bytes
  · rw [sleeps, tally_sleepCall, tally_register coherent registered, calls]
    exact .send (awaitingIn_cons_le client.calls id _)

theorem tallies_checkActive (coherent : client.line.Coherent acked overtaken) (id : ι) (timeout : Duration)
    (poll : Poll) (next : Option Message) :
    client.tally.Posts [] (client.checkActive id timeout poll next).1.tally := by
  have fewer := awaitingIn_filter_le client.calls id
  obtain ⟨result, -, ends⟩ | ⟨msg, sends⟩ | ⟨-, expires⟩ | ⟨-, sleeps⟩ :=
    client.checkActive_outcomes id timeout poll next
  · rw [ends]
    exact .rest fewer
  · rw [sends]
    exact tallies_send coherent id msg _
  · rw [expires]
    exact .rest fewer
  · rw [sleeps, tally_sleepCall]
    refine .rest ?_
    unfold awaitingIn at fewer ⊢
    rw [List.countP_cons_of_neg (by simp [Call.key?])]
    exact fewer

theorem tallies_checkReply {key : String} {limit : Duration} {later : Poll}
    (held : callIn client.calls id = some (.awaitingReply key limit later)) (timeout : Duration)
    (poll : Poll) : client.tally.Posts [] (client.checkReply id key timeout poll).1.tally := by
  have ended := awaitingIn_filter_lt held rfl
  obtain ⟨bytes, found, claims⟩ | ends | ⟨-, expires⟩ | ⟨-, sleeps⟩ :=
    client.checkReply_outcomes id key timeout poll
  · have taken : ((client.store.erase key).finish key).size < client.store.size :=
      PendingReplies.size_erase_lt found
    rw [claims]
    exact tallies_claim taken id bytes
  · rw [ends]
    exact .rest (Nat.le_of_lt ended)
  · rw [expires]
    exact .expire ended
  · rw [sleeps, tally_sleepCall]
    refine .rest ?_
    unfold awaitingIn at ended ⊢
    rw [List.countP_cons_of_pos (by simp [Call.key?])]
    exact ended

theorem tallies_of_handles (coherent : client.line.Coherent acked overtaken)
    (handles : client.Handles id event after effects) :
    client.tally.Posts [] after.tally := by
  have fewer := awaitingIn_filter_le client.calls id
  cases handles with
  | @send msg timeout _ _ free sends =>
    have posts := tallies_send coherent id msg timeout
    rwa [sends] at posts
  | @await timeout next _ _ free checks =>
    have posts := tallies_checkActive coherent id timeout (client.pollFor timeout) next
    rwa [checks] at posts
  | @checkReply key timeout poll _ _ held checks =>
    have posts := tallies_checkReply held timeout poll.slept
    rwa [checks] at posts
  | @checkActive timeout poll next _ _ held checks =>
    have posts := tallies_checkActive coherent id timeout poll.slept next
    rwa [checks] at posts
  | wakeReply held => exact .expire (awaitingIn_filter_lt held rfl)
  | wakeActive | dropReply | dropActive => exact .rest fewer

/-! ## Handshakes -/

omit [DecidableEq ι] in
theorem tally_cancelWait (client : Client ι) : client.cancelWait.tally = client.tally := by
  unfold cancelWait
  split <;> rfl

omit [DecidableEq ι] in
theorem tally_endHandshake (client : Client ι) (now : Duration) (conn : Nat) (acknowledged : Bool) :
    ∃ acks ≤ 1, (client.endHandshake now conn acknowledged).tally =
      { client.tally with handshakes := client.tally.handshakes + acks } := by
  unfold endHandshake
  dsimp only
  split
  · exact ⟨1, Nat.le_refl 1, rfl⟩
  · exact ⟨0, Nat.zero_le 1, tally_closeChannel { client with session := .attached conn } conn⟩

omit [DecidableEq ι] in
theorem tally_endHandshake_false (client : Client ι) (now : Duration) (conn : Nat) :
    (client.endHandshake now conn false).tally = client.tally :=
  tally_closeChannel { client with session := .attached conn } conn

omit [DecidableEq ι] in
theorem tallies_checkHandshake (client : Client ι) (now : Duration) (conn : Nat) (key : String) :
    client.tally.Posts [] (client.checkHandshake now conn key).1.tally := by
  unfold checkHandshake PendingReplies.remove
  cases found : client.store.get? key with
  | none => exact tallies_same rfl
  | some bytes =>
    obtain ⟨acks, one, ends⟩ := tally_endHandshake
      { client with store := (client.store.erase key).finish key } now conn
      (client.codec.decode bytes).isOk
    dsimp only
    rw [ends]
    exact .acknowledge (PendingReplies.size_erase_lt found) one

omit [DecidableEq ι] in
theorem tallies_startHandshake (client : Client ι) (now : Duration) (conn : Nat) (unique : Nat → String) :
    client.tally.Posts [] (client.startHandshake now conn unique).1.tally := by
  obtain fails | ⟨store, before, channel, msg, begun, -, -, sent⟩ :=
    client.startHandshake_cases now conn unique
  · rw [fails]
    exact tallies_same (client.tally_endHandshake_false now conn)
  · have queued : (({ client with store := store } : Client ι).setChannel conn channel).tally =
        client.tally := by
      rw [(PendingReplies.begin?_eq_some_iff.1 begun).2]
      rfl
    rw [sent, ← queued]
    exact tallies_checkHandshake _ now conn _

/-! ## Pumps -/

def storesFrame (client : Client ι) : Arrival → Bool
  | .message msg => client.stores msg
  | .dropped _ => false

omit [DecidableEq ι] in
theorem tally_take (client : Client ι) (frame : Arrival) :
    ∃ held ≤ client.tally.held + [client.storesFrame frame].count true,
      (client.take frame.call).tally = { client.tally with
        received := client.tally.received + [client.storesFrame frame].count true
        dropped := client.tally.dropped + [client.storesFrame frame].count false
        held := held } := by
  cases frame with
  | dropped error => exact ⟨client.tally.held, Nat.le_refl _, rfl⟩
  | message msg =>
    simp only [storesFrame, stores, Arrival.call, take, record]
    cases client.config.keyFields.keyFor msg with
    | error error => exact ⟨client.tally.held, Nat.le_refl _, rfl⟩
    | ok key =>
      cases client.codec.encode msg with
      | error error => exact ⟨client.tally.held, Nat.le_refl _, rfl⟩
      | ok bytes => exact ⟨_, client.store.size_put_le key bytes, rfl⟩

omit [DecidableEq ι] in
theorem tallies_takeAll (client : Client ι) (frames : List Arrival) :
    client.tally.Posts (frames.map client.storesFrame)
      ((frames.map Arrival.call).foldl take client).tally := by
  suffices ∃ held ≤ client.tally.held + (frames.map client.storesFrame).count true,
      ((frames.map Arrival.call).foldl take client).tally = { client.tally with
        received := client.tally.received + (frames.map client.storesFrame).count true
        dropped := client.tally.dropped + (frames.map client.storesFrame).count false
        held := held } by
    obtain ⟨held, room, all⟩ := this
    rw [all]
    exact .read room
  induction frames generalizing client with
  | nil => exact ⟨client.tally.held, Nat.le_refl _, rfl⟩
  | cons frame frames ih =>
    obtain ⟨held, room, first⟩ := client.tally_take frame
    obtain ⟨config, codec⟩ := client.take_keeps frame.call
    have same : (client.take frame.call).storesFrame = client.storesFrame := by
      funext other
      unfold storesFrame stores
      rw [config, codec]
    obtain ⟨last, fits, rest⟩ := ih (client.take frame.call)
    rw [same, first] at fits rest
    have split (stored : Bool) : ((frame :: frames).map client.storesFrame).count stored =
        [client.storesFrame frame].count stored + (frames.map client.storesFrame).count stored := by
      rw [List.map_cons, ← List.singleton_append, List.count_append]
    rw [split, split, List.map_cons, List.foldl_cons, rest]
    refine ⟨last, by dsimp only at fits; omega, ?_⟩
    rw [← Nat.add_assoc, ← Nat.add_assoc]

omit [DecidableEq ι] in
theorem tally_takeOutput (client : Client ι) (now : Duration) (conn : Nat) (output : PumpOutput Unit Unit) :
    (client.takeOutput now conn output).1.tally = (output.calls.foldl take client).tally := by
  unfold takeOutput
  dsimp only
  split <;> rfl

omit [DecidableEq ι] in
theorem tallies_stepPump {conn : Nat} {step : PumpStep} {frames : List Arrival}
    (called : ∀ channel mid output, client.channels[conn]? = some channel →
      channel.step client.codec.decode step = some (mid, output) → output.calls = frames.map Arrival.call)
    (taken : client.stepPump now conn step = some (after, effects)) :
    client.tally.Posts (frames.map client.storesFrame) after.tally := by
  obtain ⟨channel, mid, output, next, first, found, stepped, handed, rest⟩ := stepPump_cases taken
  have takes := tally_takeOutput (client.setChannel conn mid) now conn output
  rw [handed, called channel mid output found stepped] at takes
  have posts : client.tally.Posts (frames.map client.storesFrame) next.tally := by
    rw [takes]
    exact tallies_takeAll (client.setChannel conn mid) frames
  obtain ⟨rfl, -⟩ | ⟨last, more, second, dispatched, handed', -⟩ := rest
  · exact posts
  · obtain ⟨-, -, quiet | ⟨chunk, other, -⟩⟩ := Channel.step_cases dispatched
    · have still := tally_takeOutput (next.setChannel conn last) now conn more
      rw [handed', quiet] at still
      rw [show after.tally = next.tally from still]
      exact posts
    · cases other

end Client

end Iso8583
