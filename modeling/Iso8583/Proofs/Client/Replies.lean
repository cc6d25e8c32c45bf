import Iso8583.Proofs.Client.Tally

/-!
# The reply counters balance

Every frame that a client reads is counted once, as a reply that was stored or as one that was dropped, and
it does not matter in which pieces it came. No reply is claimed that was not received, and no call gives up
on a request that was not sent.
-/

namespace Iso8583

/-! ## Frames -/

namespace Moment

variable {ι : Type}

/-- What the frames bring that the reader of a connection cuts off in this step. -/
def framesOn (moment : Moment ι) (conn : Nat) : List Arrival :=
  match moment.event with
  | .pump source (.received chunk) =>
    if source = conn then
      (cutFrames moment.before.codec.decode
        ((moment.before.channelAt conn).reader.buffered ++ chunk)).arrivals
    else []
  | _ => []

def frames (moment : Moment ι) : List Arrival :=
  match moment.event with
  | .pump conn _ => moment.framesOn conn
  | _ => []

end Moment

theorem Arrival.call_injective {first second : Arrival} (same : first.call = second.call) :
    first = second := by
  cases first <;> cases second <;> cases same <;> rfl

variable {ι : Type} [DecidableEq ι]

namespace Client

variable {config : ClientConfig} {codec : Codec} {past : List (Moment ι)} {client after : Client ι}
  {now : Duration} {event : ClientEvent ι} {effects : List (ClientEffect ι)}

theorem callFor_newChannel : newChannel.reader.callFor = fun frame => some frame.call := by
  funext frame
  cases frame <;> rfl

theorem Run.callFor_eq (run : Run (.new config codec) past client) {conn : Nat}
    {channel : Channel Unit Unit} (found : client.channels[conn]? = some channel)
    (alive : channel.pump.isAlive = true) : channel.reader.callFor = fun frame => some frame.call := by
  have hears := (run.channel conn).hears (Channel.carries_fresh _ _ _) rfl
  rw [channelAt_of_getElem? found] at hears
  obtain ⟨running, -⟩ | gone := run.coherent.channels conn channel found
  · exact (hears.handlers (by simp [running.status])).trans callFor_newChannel
  · rw [gone.pump] at alive
    cases alive

theorem Run.calls_eq (run : Run (.new config codec) past client) {conn : Nat} {step : PumpStep}
    {channel mid : Channel Unit Unit} {output : PumpOutput Unit Unit}
    (found : client.channels[conn]? = some channel)
    (stepped : channel.step client.codec.decode step = some (mid, output)) :
    output.calls =
      (Moment.framesOn ⟨now, .pump conn step, client, after, effects⟩ conn).map Arrival.call := by
  obtain ⟨alive, -, calls⟩ := Channel.step_cases stepped
  cases step with
  | received chunk =>
    have read : output.calls = (channel.receive client.codec.decode chunk).2 :=
      congrArg Prod.snd (Channel.step_received stepped).2.1
    rw [read, Channel.receive_eq, run.callFor_eq found alive]
    simp [Moment.framesOn, channelAt_of_getElem? found]
  | _ =>
    obtain quiet | ⟨chunk, other, -⟩ := calls
    · exact quiet
    · cases other

theorem Run.tallies (run : Run (.new config codec) past client)
    (taken : client.step now event = some (after, effects)) :
    client.tally.Posts
      ((Moment.frames ⟨now, event, client, after, effects⟩).map client.storesFrame) after.tally := by
  cases takes_of_step taken with
  | attempt | fail | rest | leave => exact tallies_same rfl
  | close | closeAtOnce | dropClose | settle | drop => exact tallies_same rfl
  | @join unique _ _ connecting starts =>
    have posts := tallies_startHandshake client.joined now client.channels.length unique
    rw [starts] at posts
    exact posts
  | @check conn key _ _ handshaking checks =>
    have posts := tallies_checkHandshake client now conn key
    rw [checks] at posts
    exact posts
  | interrupt handshaking =>
    exact tallies_same ((tally_endHandshake_false client.cancelWait now _).trans client.tally_cancelWait)
  | lose | finish => exact tallies_same client.tally_cancelWait
  | finishOn => exact tallies_same ((tally_closeChannel client.cancelWait _).trans client.tally_cancelWait)
  | pump stepped =>
    exact tallies_stepPump (fun channel mid output found stepped => run.calls_eq found stepped) stepped
  | call handles =>
    have posts := tallies_of_handles run.coherent handles
    cases handles <;> exact posts

/-! ## Every run -/

theorem Run.tally_balanced (run : Run (.new config codec) past client) : client.tally.Balanced := by
  induction run with
  | start => exact ⟨Nat.le_refl 0, Nat.le_refl 0⟩
  | step run taken ih => exact ih.posts (run.tallies taken)

theorem Run.callsOn_eq (run : Run (.new config codec) past client)
    (taken : client.step now event = some (after, effects)) (conn : Nat) :
    (Moment.callsOn ⟨now, event, client, after, effects⟩ conn) =
      (Moment.framesOn ⟨now, event, client, after, effects⟩ conn).map Arrival.call := by
  cases event with
  | pump source step =>
    by_cases here : source = conn
    · subst here
      obtain ⟨channel, mid, output, next, first, found, stepped, -⟩ := stepPump_cases taken
      rw [← run.calls_eq found stepped]
      simp [Moment.callsOn, channelAt_of_getElem? found, stepped]
    · cases step <;> simp [Moment.callsOn, Moment.framesOn, here]
  | _ => rfl

/-- The frames cut off a connection are those of all bytes that came over it, in whatever pieces. -/
theorem Run.framesOn_eq (run : Run (.new config codec) past client) (conn : Nat) :
    past.flatMap (·.framesOn conn) = (cutFrames codec.decode (crossingOn conn past).received).arrivals := by
  have calls : (crossingOn conn past).calls = (past.flatMap (·.framesOn conn)).map Arrival.call := by
    induction run with
    | start => rfl
    | step run taken ih =>
      rw [crossingOn_concat, Crossing.calls_append, ih, Moment.crossing, run.callsOn_eq taken]
      simp
  have hears := (run.channel conn).hears (Channel.carries_fresh _ _ _) rfl
  have all : (crossingOn conn past).calls =
      (cutFrames codec.decode (crossingOn conn past).received).arrivals.filterMap
        newChannel.reader.callFor := hears.calls
  rw [calls, callFor_newChannel, List.filterMap_eq_map'] at all
  exact (List.map_inj_right fun _ _ => Arrival.call_injective).1 all

theorem Run.counts (run : Run (.new config codec) past client)
    (taken : client.step now event = some (after, effects)) :
    after.metrics.repliesReceived = client.metrics.repliesReceived +
        (Moment.frames ⟨now, event, client, after, effects⟩).countP client.storesFrame ∧
      after.metrics.framesDropped = client.metrics.framesDropped +
        (Moment.frames ⟨now, event, client, after, effects⟩).countP fun frame =>
          !client.storesFrame frame := by
  obtain ⟨received, dropped⟩ := (run.tallies taken).counts
  have stored : (· == true) ∘ client.storesFrame = client.storesFrame := by
    funext frame
    simp
  have unstored : (· == false) ∘ client.storesFrame = fun frame => !client.storesFrame frame := by
    funext frame
    simp
  rw [List.count, List.countP_map] at received dropped
  rw [stored] at received
  rw [unstored] at dropped
  exact ⟨received, dropped⟩

theorem Run.counted (run : Run (.new config codec) past client) :
    client.metrics.repliesReceived + client.metrics.framesDropped =
      (past.flatMap Moment.frames).length := by
  induction run with
  | start => rfl
  | step run taken ih =>
    rename_i past client after now event effects
    obtain ⟨received, dropped⟩ := run.counts taken
    have each : (Moment.frames ⟨now, event, client, after, effects⟩).countP client.storesFrame +
        (Moment.frames ⟨now, event, client, after, effects⟩).countP
          (fun frame => !client.storesFrame frame) =
        (Moment.frames ⟨now, event, client, after, effects⟩).length := by
      rw [List.length_eq_countP_add_countP client.storesFrame]
      simp
    rw [List.flatMap_append, List.length_append, ← ih, List.flatMap_singleton]
    omega

end Client

/-- Each frame that is cut off a connection raises one of two counters by one, that of replies received if
what it brings is stored and that of frames dropped if not, and nothing else raises them. Which frames are
cut off depends on the bytes that came and not on their pieces. At any time the replies claimed, the
handshakes completed and the replies held are together no more than those received, and no more calls have
given up than requests were sent. -/
theorem reply_counters_balance {config : ClientConfig} {codec : Codec} {past : List (Moment ι)}
    {client : Client ι} (run : Client.Run (.new config codec) past client) :
    (∀ conn, past.flatMap (·.framesOn conn) =
      (cutFrames codec.decode (crossingOn conn past).received).arrivals) ∧
    (∀ moment ∈ past,
      moment.after.metrics.repliesReceived =
          moment.before.metrics.repliesReceived + moment.frames.countP moment.before.storesFrame ∧
        moment.after.metrics.framesDropped =
          moment.before.metrics.framesDropped +
            moment.frames.countP fun frame => !moment.before.storesFrame frame) ∧
    client.metrics.repliesReceived + client.metrics.framesDropped = (past.flatMap Moment.frames).length ∧
    client.metrics.repliesClaimed + client.metrics.handshakesCompleted + client.store.size ≤
      client.metrics.repliesReceived ∧
    client.metrics.responseTimeouts ≤ client.metrics.requestsSent := by
  have balanced := run.tally_balanced
  refine ⟨run.framesOn_eq, fun moment mem => ?_, run.counted, balanced.replies,
    Nat.le_of_add_right_le balanced.requests⟩
  obtain ⟨earlier, later, rfl⟩ := List.append_of_mem mem
  obtain ⟨before, taken, -⟩ := run.of_append_cons
  exact before.counts taken

/-- The reply to the handshake, the reply to a request and a message without a key come in. -/
theorem reply_counters_balance_in_exchange : ∃ past client,
    Client.Run (.new (.localNetwork "peer") .binary) past (client : Client Nat) ∧
      client.metrics.repliesReceived = 2 ∧ client.metrics.framesDropped = 1 ∧
      client.metrics.repliesClaimed = 1 ∧ client.metrics.handshakesCompleted = 1 ∧
      (past.flatMap Moment.frames).length = 3 ∧ client.store.size = 0 := by
  obtain ⟨past, client, run, seen⟩ := exists_run_of_replay (.new (.localNetwork "peer") .binary)
    (exchange ++ [(⟨6⟩, arrives ⟨"0210", .empty⟩), (⟨7⟩, .callSlept 7 true)])
    (fun _ client => (client.metrics.repliesReceived, client.metrics.framesDropped,
      client.metrics.repliesClaimed, client.metrics.handshakesCompleted))
    (2, 1, 1, 1) (by decide +kernel)
  simp only [Prod.mk.injEq] at seen
  obtain ⟨received, dropped, claimed, completed⟩ := seen
  obtain ⟨-, -, counted, replies, -⟩ := reply_counters_balance run
  exact ⟨past, client, run, received, dropped, claimed, completed, by omega, by omega⟩

end Iso8583
