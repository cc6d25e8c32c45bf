import Iso8583.Proofs.Client.Awaiting
import Iso8583.Proofs.Client.Handshaking
import Iso8583.Proofs.Client.Session
import Iso8583.Proofs.Keys.Stamp

/-!
# The handshake comes first

Each connection accepts the frame of its handshake before any other, and of this one only. As long as
nobody knows the key of a handshake before, the session becomes active only after the reply was read from
the connection itself: pumps of earlier connections are over by then.
-/

namespace Iso8583

variable {ι : Type} [DecidableEq ι]

/-! ## Keys that are new -/

/-- Whether a key shows up in an entry: a call registers it, or a message with this key is stored. -/
def Entry.Shows {ι : Type} (fields : KeyFields) (key : String) : Entry ι → Prop
  | .began _ other => other = key
  | .recorded msg => fields.keyFor msg = .ok key
  | _ => False

/-- Whether the key of each handshake is new when the connection is made. -/
def NewKeys (fields : KeyFields) (past : List (Moment ι)) : Prop :=
  ∀ earlier moment later unique, past = earlier ++ moment :: later → moment.event = .connected unique →
    ∀ entry ∈ journal earlier, ¬ entry.Shows fields (moment.before.handshakeKey unique)

/-- Whether a connection accepts in a step no frame but that of a request which a call sends on it. -/
def Moment.OnlyRequests (moment : Moment ι) (conn : Nat) : Prop :=
  (moment.crossing conn).accepted = [] ∨ ∃ msg frame, moment.before.sends? moment.event = some msg ∧
    moment.before.current = some conn ∧ Outbox.frameOf moment.before.codec msg = .ok frame ∧
    (moment.crossing conn).accepted = [frame]

theorem NewKeys.of_append {fields : KeyFields} {past later : List (Moment ι)}
    (new : NewKeys fields (past ++ later)) : NewKeys fields past := by
  rintro earlier moment rest unique rfl
  apply new earlier moment (rest ++ later) unique
  simp

/-! ## Replies that are held -/

section

variable {fields : KeyFields} {codec : Codec} {desk last : Desk ι} {entries later : List (Entry ι)}

/-- Whether a message was recorded under the key of each reply that is held. -/
def Desk.Recorded (fields : KeyFields) (entries : List (Entry ι)) (desk : Desk ι) : Prop :=
  ∀ reply ∈ desk.store.replies, ∃ msg, .recorded msg ∈ entries ∧ fields.keyFor msg = .ok reply.1

theorem Act.recorded (act : Act fields codec desk later last) (recorded : desk.Recorded fields entries) :
    last.Recorded fields (entries ++ later) := by
  have kept {next : Desk ι} {more : List (Entry ι)}
      (fewer : ∀ reply ∈ next.store.replies, reply ∈ desk.store.replies) :
      next.Recorded fields (entries ++ more) := by
    intro reply mem
    obtain ⟨msg, written, keyed⟩ := recorded reply (fewer reply mem)
    exact ⟨msg, List.mem_append_left _ written, keyed⟩
  cases act with
  | record received keyed written =>
    rename_i msg key bytes
    intro reply mem
    obtain rfl | ⟨-, before⟩ := PendingReplies.mem_put mem
    · exact ⟨msg, by simp, keyed⟩
    · exact kept (fun _ => id) reply before
  | register standing keyed absent begun =>
    obtain ⟨-, rfl⟩ := PendingReplies.begin?_eq_some_iff.1 begun
    exact kept fun _ => id
  | greet conn idle begun =>
    obtain ⟨-, rfl⟩ := PendingReplies.begin?_eq_some_iff.1 begun
    exact kept fun _ => id
  | claim standing keyed free found => exact kept fun _ mem => (PendingReplies.mem_erase.1 mem).1
  | take standing found => exact kept fun _ mem => (PendingReplies.mem_erase.1 mem).1
  | acknowledge awaited found => exact kept fun _ mem => (PendingReplies.mem_erase.1 mem).1
  | _ => exact kept fun _ => id

theorem Acts.recorded (acts : Acts fields codec desk entries last) (recorded : desk.Recorded fields []) :
    last.Recorded fields entries := by
  induction acts with
  | nil => exact recorded
  | snoc acts act ih => exact act.recorded ih

end

namespace Client

variable {config : ClientConfig} {codec : Codec} {past : List (Moment ι)} {client : Client ι} {conn : Nat}
  {key : String}

theorem Run.recorded_of_contains (run : Run (.new config codec) past client)
    (held : client.store.contains key = true) :
    ∃ msg, .recorded msg ∈ journal past ∧ config.keyFields.keyFor msg = .ok key := by
  obtain ⟨bytes, mem⟩ := PendingReplies.contains_iff.1 held
  refine run.acts.recorded ?_ (key, bytes) mem
  simp [Desk.Recorded, desk, new, PendingReplies.ofLimit]

theorem Run.heard_of_recorded (run : Run (.new config codec) past client)
    (new : NewKeys config.keyFields past) (waits : client.session = .handshaking conn key) {msg : Message}
    (recorded : .recorded msg ∈ journal past) (keyed : config.keyFields.keyFor msg = .ok key) :
    .message () msg ∈ (crossingOn conn past).calls := by
  induction run with
  | start => simp [journal] at recorded
  | step run taken ih =>
    rename_i past client after now event effects
    rw [journal_concat] at recorded
    rw [crossingOn_concat, Crossing.calls_append]
    obtain ⟨unique, rfl⟩ | ⟨-, same⟩ := joins_or_keeps taken
    · obtain ⟨-, -, attached | session⟩ := joins_of_connected taken
      · simp [attached] at waits
      obtain ⟨rfl, rfl⟩ : client.channels.length = conn ∧ client.handshakeKey unique = key := by
        simpa [session] using waits
      -- The key is new, and nothing is read in this step.
      obtain before | now := List.mem_append.1 recorded
      · exact absurd keyed (new past _ [] unique rfl rfl _ before)
      · obtain ⟨on, step, channel, pumps, -⟩ := read_of_recorded now
        cases pumps
    · -- The handshake goes on, so no other pump runs.
      have session := same _ _ waits
      obtain before | now := List.mem_append.1 recorded
      · exact List.mem_append_left _ (ih new.of_append session before)
      · obtain ⟨on, step, channel, -, found, alive, heard⟩ := read_of_recorded now
        obtain ⟨-, -, here | finished⟩ | ended := run.coherent.channels on channel found
        · obtain rfl : conn = on := by
            change client.session.conn? = some on at here
            simpa [session, SessionTask.conn?] using here
          exact List.mem_append_right _ heard
        · change client.session = .finished at finished
          simp [session] at finished
        · rw [ended.pump] at alive
          cases alive

/-! ## Frames on a connection -/

theorem crossing_of_le {after : Client ι} {now : Duration} {event : ClientEvent ι}
    {effects : List (ClientEffect ι)} (taken : client.step now event = some (after, effects))
    (beyond : after.channels.length ≤ conn) :
    Moment.crossing ⟨now, event, client, after, effects⟩ conn = {} := by
  by_cases pumps : ∃ on step, event = .pump on step
  · obtain ⟨on, step, rfl⟩ := pumps
    obtain ⟨channel, -, -, -, -, found, -⟩ := stepPump_cases taken
    have inside := (List.getElem?_eq_some_iff.1 found).1
    have same := (stepPump_keeps taken).2
    exact crossing_of_pump_elsewhere (by omega) taken
  · have elsewhere : ∀ on step, event ≠ .pump on step := fun on step same => pumps ⟨on, step, same⟩
    have none : after.queueOf conn = [] := by
      simp [queueOf, channelAt, List.getElem?_eq_none beyond, newChannel]
    rw [crossing_of_elsewhere elsewhere (becomes_of_step elsewhere taken).1, none, List.drop_nil]

theorem Run.crossingOn_of_le {start : Client ι} (run : Run start past client)
    (beyond : client.channels.length ≤ conn) : crossingOn conn past = {} := by
  induction run with
  | start => rfl
  | step run taken ih =>
    have longer := (Run.step .start taken).length_le
    rw [crossingOn_concat, ih (by omega), crossing_of_le taken beyond, Crossing.append_empty]

theorem Run.accepts_greeting (run : Run (.new config codec) past client) {unique : Nat → String}
    (new : ∀ entry ∈ journal past, ¬ entry.Shows config.keyFields (client.handshakeKey unique))
    {frame : Bytes} (framed : Outbox.frameOf client.codec (client.greeting unique) = .ok frame) {now : Duration}
    {after : Client ι} {effects : List (ClientEffect ι)}
    (taken : client.step now (.connected unique) = some (after, effects)) :
    (Moment.crossing ⟨now, .connected unique, client, after, effects⟩ client.channels.length).accepted =
      [frame] := by
  have free : client.store.isInFlight (client.handshakeKey unique) = false := by
    rw [Bool.eq_false_iff]
    intro flight
    have sound := run.acts.sound (sound_new config codec)
    obtain ⟨_ | id, awaits⟩ := (sound.inFlight _).1 (PendingReplies.isInFlight_iff.1 flight)
    · have idle : client.desk.handshake = none := congrArg SessionTask.handshake? (joins_of_connected taken).1
      simp [Desk.awaited, idle] at awaits
    · obtain ⟨earlier, since, split, -⟩ := run.acts.began_of_awaited (awaited_new config codec _) awaits
      exact new (.began id _) (by simp [split]) rfl
  obtain ⟨-, -, ⟨-, flight | ⟨error, refused⟩⟩ | ⟨queued, written, last⟩⟩ := connected_cases taken
  · rw [free] at flight
    cases flight
  · rw [Line.running_boundChannel.write_error refused] at framed
    cases framed
  · obtain ⟨other, same, queue⟩ := queue_of_greeted written last
    cases same.symm.trans framed
    simp [Moment.crossing, queueOf, channelAt_length, newChannel, queue]

theorem onlyRequests_of_lt {after : Client ι} {now : Duration} {event : ClientEvent ι}
    {effects : List (ClientEffect ι)} (taken : client.step now event = some (after, effects))
    (inside : conn < client.channels.length) :
    Moment.OnlyRequests ⟨now, event, client, after, effects⟩ conn := by
  have accepts := (run_of_step taken conn).1
  unfold Moment.OnlyRequests
  generalize (Moment.crossing ⟨now, event, client, after, effects⟩ conn).accepted = accepted at accepts
  cases accepts with
  | nothing => exact .inl rfl
  | request sends current framed => exact .inr ⟨_, _, sends, current, framed, rfl⟩
  | greeting joins newest framed => omega

theorem Run.onlyRequests_since {mid : Client ι} {later : List (Moment ι)} (run : Run mid later client)
    (inside : conn < mid.channels.length) : ∀ next ∈ later, next.OnlyRequests conn := by
  intro next mem
  obtain ⟨before, since, rfl⟩ := List.append_of_mem mem
  obtain ⟨reached, taken, -⟩ := run.of_append_cons
  exact onlyRequests_of_lt taken (Nat.lt_of_lt_of_le inside reached.length_le)

omit [DecidableEq ι] in
theorem mti_greeting (client : Client ι) (unique : Nat → String) : (client.greeting unique).mti = "2800" :=
  KeyFields.mti_stampList unique 0 ⟨handshakeMti, .empty⟩ client.config.keyFields.ids

/-! ## Sessions -/

/-- A handshake that is acknowledged has had its reply from its own connection. -/
theorem Run.heard_of_acknowledged (run : Run (.new config codec) past client)
    (new : NewKeys config.keyFields past) {moment : Moment ι} (mem : moment ∈ past)
    (acknowledged : .acknowledged conn key ∈ moment.acknowledged) :
    ∃ joining ∈ past, ∃ unique msg, joining.event = .connected unique ∧
      conn = joining.before.channels.length ∧
      config.keyFields.keyFor msg = .ok (joining.before.handshakeKey unique) ∧
      .message () msg ∈ (crossingOn conn past).calls := by
  obtain ⟨earlier, later, rfl⟩ := List.append_of_mem mem
  obtain ⟨reached, taken, -⟩ := run.of_append_cons
  unfold Moment.acknowledged at acknowledged
  split at acknowledged
  · cases acknowledged
  rename_i on under handshake
  obtain ⟨held, rfl, rfl⟩ : moment.before.store.contains under = true ∧ conn = on ∧ key = under := by
    split at acknowledged
    · rename_i both
      exact ⟨(Bool.and_eq_true_iff.1 both).1, by simpa using acknowledged⟩
    · cases acknowledged
  obtain ⟨msg, recorded, keyed⟩ := reached.recorded_of_contains held
  unfold handshake? at handshake
  split at handshake
  · rename_i unique joins
    obtain ⟨-, same⟩ := Option.ite_none_right_eq_some.1 handshake
    cases same
    exact absurd keyed (new earlier moment later unique rfl joins _ recorded)
  · split at handshake
    · rename_i session
      cases handshake
      obtain ⟨before, joining, since, unique, rfl, joins, newest, named, -⟩ :=
        reached.handshakes_iff.2 session
      refine ⟨joining, by simp, unique, msg, joins, newest, named ▸ keyed, ?_⟩
      have heard := reached.heard_of_recorded new.of_append session recorded keyed
      obtain ⟨source, mem, called⟩ := mem_calls_crossingOn.1 heard
      exact mem_calls_crossingOn.2 ⟨source, List.mem_append_left _ mem, called⟩
    · cases handshake
  · cases handshake

end Client

/-! ## Every run -/

/-- If the handshakes have frames and their keys are new, each connection accepts the frame of its
handshake when it is made, and nothing but requests afterwards. Only what a connection accepted is written
to it. The session is active only after a message with the key of the handshake was read from the same
connection. -/
theorem handshake_comes_first {config : ClientConfig} {codec : Codec} {past : List (Moment ι)}
    {client : Client ι} (run : Client.Run (.new config codec) past client)
    (new : NewKeys config.keyFields past)
    (framed : ∀ handshake ∈ past.filterMap Moment.greeting?,
      ∃ frame, Outbox.frameOf codec handshake = .ok frame) :
    (∀ conn < client.channels.length, ∃ earlier moment later unique frame,
      past = earlier ++ moment :: later ∧ moment.event = .connected unique ∧
      conn = moment.before.channels.length ∧ (moment.before.greeting unique).mti = "2800" ∧
      Outbox.frameOf codec (moment.before.greeting unique) = .ok frame ∧ crossingOn conn earlier = {} ∧
      (moment.crossing conn).accepted = [frame] ∧ ∀ next ∈ later, next.OnlyRequests conn) ∧
    (∀ conn, (crossingOn conn past).written <+: (crossingOn conn past).accepted.flatten) ∧
    (client.state = .active → ∃ conn, client.current = some conn ∧
      ∃ moment ∈ past, ∃ unique msg, moment.event = .connected unique ∧
        conn = moment.before.channels.length ∧
        config.keyFields.keyFor msg = .ok (moment.before.handshakeKey unique) ∧
        .message () msg ∈ (crossingOn conn past).calls) := by
  refine ⟨fun conn inside => ?_, fun conn => ?_, fun active => ?_⟩
  · obtain ⟨earlier, moment, later, unique, rfl, joins, newest⟩ := run.connected_of_lt inside
    obtain ⟨reached, taken, rest⟩ := run.of_append_cons
    obtain ⟨frame, hasFrame⟩ := framed (moment.before.greeting unique) (by simp [Moment.greeting?, joins])
    have same : moment.before.codec = codec := reached.acts.keeps.2
    have silent := reached.crossingOn_of_le (Nat.le_of_eq newest.symm)
    have fresh := new earlier moment later unique rfl joins
    rw [joins] at taken
    have accepted := reached.accepts_greeting fresh (same ▸ hasFrame) taken
    have longer := (Client.joins_of_connected taken).2.1
    have requests := rest.onlyRequests_since (show conn < moment.after.channels.length by omega)
    subst newest
    refine ⟨earlier, moment, later, unique, frame, rfl, joins, rfl, Client.mti_greeting _ _, hasFrame,
      silent, ?_, requests⟩
    rw [← accepted, ← joins]
  · have carries := (run.channel conn).carries (Channel.carries_fresh _ _ _)
    exact carries.written
  · obtain ⟨conn, current, moment, mem, ⟨key, acknowledged⟩, -⟩ := run.coherent.acked_of_active active
    exact ⟨conn, current, run.heard_of_acknowledged new mem acknowledged⟩

theorem handshake_comes_first_in_exchange : ∃ past client,
    Client.Run (.new (.localNetwork "peer") .binary) past (client : Client Nat) ∧ NewKeys .default past ∧
      client.channels.length = 1 ∧ (∃ moment ∈ past, ∃ frame, (moment.crossing 0).accepted = [frame]) ∧
      client.state = .active ∧ ∃ conn msg, client.current = some conn ∧
        .message () msg ∈ (crossingOn conn past).calls := by
  obtain ⟨past, client, run, seen⟩ := exists_run_of_replay (.new (.localNetwork "peer") .binary) exchange
    (fun past client => (past.map Moment.greeting?, journal (past.take 1), client.channels.length,
      client.state))
    ([none, some (keyedMessage "2800" "h"), none, none, none, none], [], 1, .active) (by decide +kernel)
  simp only [Prod.mk.injEq] at seen
  obtain ⟨greetings, quiet, count, active⟩ := seen
  have new : NewKeys .default past := by
    -- Nothing has happened but the attempt when the only connection is made.
    intro earlier moment later unique split joins entry mem
    have one : moment.greeting? = some (moment.before.greeting unique) := by
      simp [Moment.greeting?, joins]
    subst split
    obtain _ | ⟨attempt, _ | ⟨other, rest⟩⟩ := earlier
    · cases mem
    · change journal [attempt] = [] at quiet
      rw [quiet] at mem
      cases mem
    · simp only [List.map_append, List.map_cons, List.cons_append, List.cons.injEq] at greetings
      have mem : moment.greeting? ∈ [none, none, none, none] := by
        rw [← greetings.2.2]
        simp
      simp [one] at mem
  have framed : ∀ handshake ∈ past.filterMap Moment.greeting?,
      ∃ frame, Outbox.frameOf .binary handshake = .ok frame := by
    intro handshake mem
    obtain ⟨moment, among, greets⟩ := List.mem_filterMap.1 mem
    have listed : some handshake ∈ past.map Moment.greeting? := List.mem_map.2 ⟨moment, among, greets⟩
    rw [greetings] at listed
    obtain rfl : handshake = keyedMessage "2800" "h" := by simpa using listed
    exact ⟨_, rfl⟩
  obtain ⟨accepts, -, session⟩ := handshake_comes_first run new framed
  obtain ⟨earlier, moment, later, unique, frame, split, -, -, -, -, -, accepted, -⟩ :=
    accepts 0 (by omega)
  obtain ⟨conn, current, -, -, -, msg, -, -, -, heard⟩ := session active
  exact ⟨past, client, run, new, count, ⟨moment, by simp [split], frame, accepted⟩, active, conn, msg,
    current, heard⟩

end Iso8583
