import Iso8583.Proofs.Client.Connections

/-!
# How long a handshake goes on

A connection and its handshake start together. From then on the session task waits for the reply to this
handshake until it stops waiting for good.
-/

namespace Iso8583

variable {ι : Type} [DecidableEq ι]

/-- Whether the handshake of a connection registered its key when the connection was made, and goes on
since. -/
def Handshakes (past : List (Moment ι)) (conn : Nat) (key : String) : Prop :=
  ∃ earlier moment since unique, past = earlier ++ moment :: since ∧ moment.event = .connected unique ∧
    conn = moment.before.channels.length ∧ key = moment.before.handshakeKey unique ∧
    ∀ later ∈ moment :: since, later.after.session = .handshaking conn key

namespace Client

variable {client after : Client ι} {now : Duration} {event : ClientEvent ι}
  {effects : List (ClientEffect ι)} {conn : Nat} {key : String}

/-! ## One step -/

omit [DecidableEq ι] in
theorem closeChannel_keeps (client : Client ι) (conn : Nat) :
    (client.closeChannel conn).session = client.session ∧
      (client.closeChannel conn).channels.length = client.channels.length := by
  unfold closeChannel
  split <;> simp [setChannel]

omit [DecidableEq ι] in
theorem endHandshake_attaches (client : Client ι) (now : Duration) (conn : Nat) (acknowledged : Bool) :
    (client.endHandshake now conn acknowledged).session = .attached conn ∧
      (client.endHandshake now conn acknowledged).channels.length = client.channels.length := by
  unfold endHandshake
  dsimp only
  split
  · exact ⟨rfl, rfl⟩
  · exact closeChannel_keeps { client with session := .attached conn } conn

omit [DecidableEq ι] in
theorem checkHandshake_stays (client : Client ι) (now : Duration) (conn : Nat) (key : String) :
    ((client.checkHandshake now conn key).1.session = .attached conn ∨
        (client.checkHandshake now conn key).1.session = .handshaking conn key) ∧
      (client.checkHandshake now conn key).1.channels.length = client.channels.length := by
  unfold checkHandshake
  split
  · obtain ⟨session, length⟩ := endHandshake_attaches { client with store := _ } now conn _
    exact ⟨.inl session, length⟩
  · exact ⟨.inr rfl, rfl⟩

omit [DecidableEq ι] in
theorem stepPump_keeps {step : PumpStep} (taken : client.stepPump now conn step = some (after, effects)) :
    after.session = client.session ∧ after.channels.length = client.channels.length := by
  have handed {before next : Client ι} {channel : Channel Unit Unit} {output : PumpOutput Unit Unit}
      {first : List (ClientEffect ι)}
      (same : (before.setChannel conn channel).takeOutput now conn output = (next, first)) :
      next.session = before.session ∧ next.channels.length = before.channels.length := by
    have line := line_takeOutput (before.setChannel conn channel) now conn output
    rw [same] at line
    have session : next.session = before.session :=
      (congrArg Line.session line).trans (Line.session_heed _ _)
    have channels : next.channels = before.channels.set conn channel :=
      (congrArg Line.channels line).trans (Line.channels_heed _ _)
    exact ⟨session, by simp [channels]⟩
  obtain ⟨channel, mid, output, next, first, -, -, same, rest⟩ := stepPump_cases taken
  obtain ⟨session, length⟩ := handed same
  obtain ⟨rfl, -⟩ | ⟨last, more, second, -, same', -⟩ := rest
  · exact ⟨session, length⟩
  · obtain ⟨session', length'⟩ := handed same'
    exact ⟨session'.trans session, length'.trans length⟩

theorem joins_of_connected {unique : Nat → String}
    (taken : client.step now (.connected unique) = some (after, effects)) :
    client.session = .connecting ∧ after.channels.length = client.channels.length + 1 ∧
      (after.session = .attached client.channels.length ∨
        after.session = .handshaking client.channels.length (client.handshakeKey unique)) := by
  obtain ⟨connecting, starts⟩ := step_connected_eq_some_iff.1 taken
  have longer : client.joined.channels.length = client.channels.length + 1 := by
    simp [joined, setState]
  refine ⟨connecting, ?_⟩
  obtain fails | ⟨store, before, channel, msg, -, -, -, sent⟩ :=
    client.joined.startHandshake_cases now client.channels.length unique
  · obtain ⟨session, length⟩ := endHandshake_attaches client.joined now client.channels.length false
    rw [fails] at starts
    cases starts
    exact ⟨length.trans longer, .inl session⟩
  · obtain ⟨session, length⟩ := checkHandshake_stays
      (Client.setChannel { client.joined with store := store } client.channels.length channel) now
      client.channels.length (client.joined.handshakeKey unique)
    rw [← sent, starts] at session length
    refine ⟨?_, session⟩
    rw [length, ← longer]
    simp [setChannel]

theorem keeps_of_handles {id : ι} (handles : client.Handles id event after effects) :
    after.session = client.session ∧ after.channels.length = client.channels.length := by
  have still {last : Line} (same : after.line = last) (session : last.session = client.session)
      (length : last.channels.length = client.channels.length) :
      after.session = client.session ∧ after.channels.length = client.channels.length := by
    subst same
    exact ⟨session, length⟩
  -- The channels change at most by one that is closed or takes a request.
  obtain ⟨-, same | ⟨msg, -, passes⟩⟩ := passes_of_handles handles
  · exact still same rfl rfl
  · generalize line : after.line = last at passes
    cases passes with
    | same => exact still line rfl rfl
    | close current => exact still line (closeChannel_keeps ..).1 (closeChannel_keeps ..).2
    | write current found written => exact still line rfl List.length_set

theorem joins_or_keeps (taken : client.step now event = some (after, effects)) :
    (∃ unique, event = .connected unique) ∨ after.channels.length = client.channels.length ∧
      ∀ conn key, after.session = .handshaking conn key → client.session = .handshaking conn key := by
  have cancelled : client.cancelWait.channels = client.channels :=
    congrArg Line.channels (line_cancelWait client)
  cases takes_of_step taken with
  | @join unique => exact .inl ⟨unique, rfl⟩
  | @check other under _ _ session checks =>
    obtain ⟨next, length⟩ := checkHandshake_stays client now other under
    rw [checks] at next length
    refine .inr ⟨length, fun conn key waits => ?_⟩
    obtain attached | same := next
    · simp [waits] at attached
    · rw [session, ← same, waits]
  | @interrupt other under session =>
    obtain ⟨attached, length⟩ := endHandshake_attaches client.cancelWait now other false
    exact .inr ⟨by rw [length, cancelled], by simp [attached]⟩
  | lose | finish => exact .inr ⟨congrArg List.length cancelled, by simp⟩
  | @finishOn on asked unfinished current =>
    refine .inr ⟨?_, by simp⟩
    rw [← cancelled]
    exact (closeChannel_keeps client.cancelWait on).2
  | pump stepped =>
    obtain ⟨session, length⟩ := stepPump_keeps stepped
    exact .inr ⟨length, fun _ _ => session ▸ id⟩
  | call handles =>
    obtain ⟨session, length⟩ := keeps_of_handles handles
    exact .inr ⟨length, fun _ _ => session ▸ id⟩
  | attempt | fail | rest | leave => exact .inr ⟨rfl, by simp⟩
  | close | closeAtOnce | dropClose | settle | drop => exact .inr ⟨rfl, fun _ _ => id⟩

/-! ## Every run -/

variable {start : Client ι} {past : List (Moment ι)}

theorem Run.length_le (run : Run start past client) : start.channels.length ≤ client.channels.length := by
  induction run with
  | start => exact Nat.le_refl _
  | step run taken ih =>
    obtain ⟨unique, rfl⟩ | ⟨same, -⟩ := joins_or_keeps taken
    · have longer := (joins_of_connected taken).2.1
      omega
    · omega

theorem Run.connected_of_lt {config : ClientConfig} {codec : Codec}
    (run : Run (.new config codec) past client) (inside : conn < client.channels.length) :
    ∃ earlier moment later unique, past = earlier ++ moment :: later ∧
      moment.event = .connected unique ∧ conn = moment.before.channels.length := by
  induction run with
  | start => simp [new] at inside
  | step run taken ih =>
    rename_i past client after now event effects
    have grown {earlier later : List (Moment ι)} {moment : Moment ι}
        (split : past = earlier ++ moment :: later) :
        past ++ [⟨now, event, client, after, effects⟩] =
          earlier ++ moment :: (later ++ [⟨now, event, client, after, effects⟩]) := by
      rw [split, List.append_assoc, List.cons_append]
    by_cases before : conn < client.channels.length
    · obtain ⟨earlier, moment, later, unique, split, joins, newest⟩ := ih before
      exact ⟨earlier, moment, _, unique, grown split, joins, newest⟩
    · obtain ⟨unique, rfl⟩ | ⟨same, -⟩ := joins_or_keeps taken
      · have longer := (joins_of_connected taken).2.1
        exact ⟨past, _, [], unique, rfl, rfl, by dsimp only; omega⟩
      · omega

theorem Run.handshakes_iff {config : ClientConfig} {codec : Codec}
    (run : Run (.new config codec) past client) :
    Handshakes past conn key ↔ client.session = .handshaking conn key := by
  constructor
  · rintro ⟨earlier, moment, since, unique, rfl, -, -, -, goes⟩
    obtain ⟨init, last, ends⟩ : ∃ init last, moment :: since = init ++ [last] :=
      ⟨_, _, (List.dropLast_concat_getLast (List.cons_ne_nil moment since)).symm⟩
    rw [ends, ← List.append_assoc] at run
    obtain ⟨-, -, rest⟩ := run.of_append_cons
    rw [rest.eq_of_nil]
    exact goes last (by simp [ends])
  · intro waits
    induction run with
    | start => cases waits
    | step run taken ih =>
      rename_i past before after now event effects
      obtain ⟨unique, rfl⟩ | ⟨-, same⟩ := joins_or_keeps taken
      · obtain ⟨-, -, attached | session⟩ := joins_of_connected taken
        · simp [attached] at waits
        · rw [session] at waits
          cases waits
          exact ⟨past, _, [], unique, rfl, rfl, rfl, rfl, by simp [session]⟩
      · obtain ⟨earlier, moment, since, unique, rfl, joins, newest, named, goes⟩ := ih (same _ _ waits)
        refine ⟨earlier, moment, since ++ [_], unique, List.append_assoc .., joins, newest, named, ?_⟩
        intro later mem
        rw [← List.cons_append] at mem
        obtain old | new := List.mem_append.1 mem
        · exact goes later old
        · cases List.mem_singleton.1 new
          exact waits

end Client

end Iso8583
