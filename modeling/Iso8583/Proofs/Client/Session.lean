import Iso8583.Proofs.Client.Line

/-!
# The session and its channel agree

A channel takes requests exactly while the session waits for its handshake or is active, and then it is
open. At most one pump runs, and the states follow one another as they should.

A close that nobody can await is the exception: it sets the state of no session while the session task goes
on with its channel.
-/

namespace Iso8583

def SessionState.MayBecome (before after : SessionState) : Prop :=
  after = .disconnected ∨ before = .disconnected ∧ after = .connecting ∨
    before = .connecting ∧ after = .awaitingHandshakeAck ∨ before = .awaitingHandshakeAck ∧ after = .active

/-- Whether a session may reach a state through the states set, the last one first. If a close was over
before the session task had finished, whatever this sets next follows the state of no session. -/
inductive Changes (overtaken : Prop) : List SessionState → SessionState → Prop where
  | start : Changes overtaken [] .disconnected
  | set {states : List SessionState} {before after : SessionState}
      (changes : Changes overtaken states before)
      (may : before.MayBecome after ∨ overtaken ∧ before = .disconnected) :
      Changes overtaken (after :: states) after

theorem Changes.mono {overtaken later : Prop} (stays : overtaken → later) {states : List SessionState}
    {state : SessionState} (changes : Changes overtaken states state) : Changes later states state := by
  induction changes with
  | start => exact .start
  | set changes may ih => exact ih.set (may.imp_right fun h => ⟨stays h.1, h.2⟩)

def SessionTask.conn? : SessionTask → Option Nat
  | .handshaking conn _ => some conn
  | .attached conn => some conn
  | _ => none

namespace Line

/-- Whether a connection is up, in one of some states, or its end has been taken in. -/
def Attends (line : Line) (conn : Nat) (states : SessionState → Prop) : Prop :=
  ∃ channel, line.channels[conn]? = some channel ∧
    (channel.Running ∧ line.current = some conn ∧ states line.state ∨
      channel.Over ∧ line.current = none ∧ line.state = .disconnected)

/-- What goes with each thing that the session task waits for. After a close that was over too early the
state may be that of no session all the same. -/
def Suits (acked : Nat → Prop) (overtaken : Prop) (line : Line) : SessionTask → Prop
  | .idle => line.current = none ∧ line.state = .disconnected
  | .pausing => line.current = none ∧ line.state = .disconnected
  | .finished => line.current = none ∧ line.state = .disconnected
  | .connecting =>
    line.current = none ∧ (line.state = .connecting ∨ overtaken ∧ line.state = .disconnected)
  | .handshaking conn _ => line.Attends conn fun state =>
      state = .awaitingHandshakeAck ∨ overtaken ∧ state = .disconnected
  | .attached conn => line.Attends conn fun state =>
      state = .awaitingHandshakeAck ∨ state = .active ∧ acked conn ∨ overtaken ∧ state = .disconnected

/-- Each channel runs or is over, only the last one can run, and only while the session task waits on it
or has finished. -/
structure Coherent (acked : Nat → Prop) (overtaken : Prop) (line : Line) : Prop where
  channels : ∀ (conn : Nat) (channel : Channel Unit Unit), line.channels[conn]? = some channel →
    channel.Running ∧ conn + 1 = line.channels.length ∧
      (line.session.conn? = some conn ∨ line.session = .finished) ∨ channel.Over
  suits : line.Suits acked overtaken line.session
  changes : Changes overtaken line.states line.state

/-! ## Channels that are replaced -/

theorem getElem?_setChannel {line : Line} {conn : Nat} {channel : Channel Unit Unit}
    (found : line.channels[conn]? = some channel) (after : Channel Unit Unit) (other : Nat) :
    (line.setChannel conn after).channels[other]? =
      if other = conn then some after else line.channels[other]? := by
  have bound := (List.getElem?_eq_some_iff.1 found).1
  unfold setChannel
  dsimp only
  by_cases same : other = conn
  · rw [if_pos same, same]
    exact List.getElem?_set_self bound
  · rw [if_neg same]
    exact List.getElem?_set_ne (Ne.symm same)

theorem length_setChannel (line : Line) (conn : Nat) (after : Channel Unit Unit) :
    (line.setChannel conn after).channels.length = line.channels.length :=
  List.length_set

variable {acked : Nat → Prop} {overtaken : Prop} {line : Line} {conn : Nat}
  {channel after : Channel Unit Unit}

theorem Attends.mono {on : Nat} {states more : SessionState → Prop}
    (widens : ∀ state, states state → more state) (attends : line.Attends on states) :
    line.Attends on more := by
  obtain ⟨held, there, up⟩ := attends
  exact ⟨held, there, up.imp_left fun h => ⟨h.1, h.2.1, widens _ h.2.2⟩⟩

theorem Attends.setChannel {on : Nat} {states : SessionState → Prop} (attends : line.Attends on states)
    (found : line.channels[conn]? = some channel) (runs : channel.Running → after.Running)
    (ended : channel.Over → after.Over) : (line.setChannel conn after).Attends on states := by
  obtain ⟨held, there, up⟩ := attends
  unfold Attends
  rw [getElem?_setChannel found]
  split
  · rename_i same
    subst same
    cases there.symm.trans found
    refine ⟨after, rfl, ?_⟩
    rcases up with ⟨running, rest⟩ | ⟨gone, rest⟩
    · exact .inl ⟨runs running, rest⟩
    · exact .inr ⟨ended gone, rest⟩
  · exact ⟨held, there, up⟩

theorem Suits.setChannel {session : SessionTask} (suits : line.Suits acked overtaken session)
    (found : line.channels[conn]? = some channel) (runs : channel.Running → after.Running)
    (ended : channel.Over → after.Over) : (line.setChannel conn after).Suits acked overtaken session := by
  cases session with
  | handshaking on key =>
    have attends : line.Attends on fun state =>
        state = .awaitingHandshakeAck ∨ overtaken ∧ state = .disconnected := suits
    exact attends.setChannel found runs ended
  | attached on =>
    have attends : line.Attends on fun state =>
        state = .awaitingHandshakeAck ∨ state = .active ∧ acked on ∨
          overtaken ∧ state = .disconnected := suits
    exact attends.setChannel found runs ended
  | _ => exact suits

theorem Suits.cases {session : SessionTask} (suits : line.Suits acked overtaken session) :
    (∃ on, session.conn? = some on ∧ line.Attends on fun state =>
      state = .awaitingHandshakeAck ∨ state = .active ∧ acked on ∨ overtaken ∧ state = .disconnected) ∨
    session.conn? = none ∧ line.current = none ∧
      (line.state = .disconnected ∨ line.state = .connecting) := by
  cases session with
  | handshaking on key => exact .inl ⟨on, rfl, Attends.mono (fun _ => Or.imp_right .inr) suits⟩
  | attached on => exact .inl ⟨on, rfl, suits⟩
  | connecting => exact .inr ⟨rfl, suits.1, suits.2.elim .inr fun h => .inl h.2⟩
  | _ => exact .inr ⟨rfl, suits.1, .inl suits.2⟩

namespace Coherent

theorem suits_of (coherent : line.Coherent acked overtaken) {task : SessionTask} (session : line.session = task) :
    line.Suits acked overtaken task := by
  rw [← session]
  exact coherent.suits

theorem setChannel (coherent : line.Coherent acked overtaken) (found : line.channels[conn]? = some channel)
    (runs : channel.Running → after.Running) (ended : channel.Over → after.Over) :
    (line.setChannel conn after).Coherent acked overtaken := by
  refine ⟨fun other held there => ?_, ?_, coherent.changes⟩
  · rw [getElem?_setChannel found] at there
    rw [length_setChannel]
    split at there
    · rename_i same
      subst same
      cases there
      exact (coherent.channels other channel found).imp (fun h => ⟨runs h.1, h.2⟩) ended
    · exact coherent.channels other held there
  · exact Suits.setChannel coherent.suits found runs ended

theorem over_of_apart (coherent : line.Coherent acked overtaken) {on : Nat} {held : Channel Unit Unit}
    (apart : ¬ (line.session.conn? = some on ∨ line.session = .finished))
    (there : line.channels[on]? = some held) : held.Over := by
  obtain ⟨-, -, waits⟩ | ended := coherent.channels on held there
  · exact absurd waits apart
  · exact ended

theorem running_of_current (coherent : line.Coherent acked overtaken) (current : line.current = some conn) :
    ∃ held, line.channels[conn]? = some held ∧ held.Running ∧
      (line.state = .awaitingHandshakeAck ∨ line.state = .active ∧ acked conn ∨
        overtaken ∧ line.state = .disconnected) := by
  obtain ⟨on, -, held, there, ⟨running, now, state⟩ | ⟨-, gone, -⟩⟩ | ⟨-, gone, -⟩ := coherent.suits.cases
  · cases now.symm.trans current
    exact ⟨held, there, running, state⟩
  · cases gone.symm.trans current
  · cases gone.symm.trans current

theorem state_of_current (coherent : line.Coherent acked overtaken) (current : line.current = none) :
    line.state = .disconnected ∨ line.state = .connecting := by
  obtain ⟨on, -, held, there, ⟨-, now, -⟩ | ⟨-, -, state⟩⟩ | ⟨-, -, state⟩ := coherent.suits.cases
  · cases now.symm.trans current
  · exact .inl state
  · exact state

theorem current_of_up (coherent : line.Coherent acked overtaken)
    (up : line.state = .awaitingHandshakeAck ∨ line.state = .active) : ∃ on, line.current = some on := by
  cases current : line.current with
  | none =>
    have state := coherent.state_of_current current
    rcases up with up | up <;> rw [up] at state <;> rcases state with state | state <;> cases state
  | some on => exact ⟨on, rfl⟩

theorem acked_of_active (coherent : line.Coherent acked overtaken) (active : line.state = .active) :
    ∃ on, line.current = some on ∧ acked on := by
  obtain ⟨on, current⟩ := coherent.current_of_up (.inr active)
  obtain ⟨held, -, -, waits | ⟨-, acks⟩ | ⟨-, down⟩⟩ := coherent.running_of_current current
  · cases waits.symm.trans active
  · exact ⟨on, current, acks⟩
  · cases down.symm.trans active

theorem mono {more : Nat → Prop} {later : Prop} (coherent : line.Coherent acked overtaken)
    (grows : ∀ on, acked on → more on) (stays : overtaken → later) : line.Coherent more later := by
  refine ⟨coherent.channels, ?_, coherent.changes.mono stays⟩
  cases session : line.session with
  | connecting => exact (coherent.suits_of session).imp_right (Or.imp_right (And.imp_left stays))
  | handshaking on key =>
    exact Attends.mono (fun _ => Or.imp_right (And.imp_left stays)) (coherent.suits_of session)
  | attached on =>
    refine Attends.mono (fun state => Or.imp_right ?_) (coherent.suits_of session)
    exact Or.imp (And.imp_right (grows on)) (And.imp_left stays)
  | _ => exact coherent.suits_of session

end Coherent

/-! ## Moves -/

theorem running_boundChannel : Client.boundChannel.Running := ⟨rfl, rfl, rfl, rfl, rfl⟩

namespace Coherent

theorem turn_disconnected (coherent : line.Coherent acked overtaken) :
    Changes overtaken (SessionState.disconnected :: line.states) .disconnected :=
  coherent.changes.set (.inl (.inl rfl))

theorem attempt (coherent : line.Coherent acked overtaken) (idle : line.session = .idle) :
    ({ line with session := .connecting }.turn .connecting).Coherent acked overtaken := by
  have suits := coherent.suits_of idle
  refine ⟨fun on held there => .inr ?_, ⟨suits.1, .inl rfl⟩, ?_⟩
  · exact coherent.over_of_apart (by simp [idle, SessionTask.conn?]) there
  · exact coherent.changes.set (.inl (.inr (.inl ⟨suits.2, rfl⟩)))

theorem fail (coherent : line.Coherent acked overtaken) (connecting : line.session = .connecting) :
    ({ line.turn .disconnected with session := .pausing } : Line).Coherent acked overtaken := by
  have suits := coherent.suits_of connecting
  refine ⟨fun on held there => .inr ?_, ⟨suits.1, rfl⟩, coherent.turn_disconnected⟩
  exact coherent.over_of_apart (by simp [connecting, SessionTask.conn?]) there

theorem join (coherent : line.Coherent acked overtaken) (connecting : line.session = .connecting) (key : String) :
    ({ line with
      channels := line.channels ++ [Client.boundChannel]
      current := some line.channels.length
      session := .handshaking line.channels.length key }.turn .awaitingHandshakeAck).Coherent acked overtaken := by
  have suits := coherent.suits_of connecting
  have newest : (line.channels ++ [Client.boundChannel])[line.channels.length]? = some Client.boundChannel :=
    List.getElem?_concat_length ..
  refine ⟨fun on held there => ?_, ?_, ?_⟩
  · by_cases inside : on < line.channels.length
    · have before : line.channels[on]? = some held := (List.getElem?_append_left inside).symm.trans there
      exact .inr (coherent.over_of_apart (by simp [connecting, SessionTask.conn?]) before)
    · have bound := (List.getElem?_eq_some_iff.1 there).1
      have size : (line.channels ++ [Client.boundChannel]).length = line.channels.length + 1 := by simp
      obtain rfl : on = line.channels.length := by
        change on < (line.channels ++ [Client.boundChannel]).length at bound
        omega
      cases newest.symm.trans there
      exact .inl ⟨running_boundChannel, size.symm, .inl rfl⟩
  · exact ⟨_, newest, .inl ⟨running_boundChannel, rfl, .inl rfl⟩⟩
  · exact coherent.changes.set (suits.2.imp_left fun state => .inr (.inr (.inl ⟨state, rfl⟩)))

theorem activate (coherent : line.Coherent acked overtaken) {key : String}
    (handshaking : line.session = .handshaking conn key) (found : line.channels[conn]? = some channel)
    (unended : channel.isOpen = true) (acknowledged : acked conn) :
    ({ line with session := .attached conn }.turn .active).Coherent acked overtaken := by
  obtain ⟨held, there, up⟩ := coherent.suits_of handshaking
  cases there.symm.trans found
  obtain ⟨running, current, state⟩ | ⟨ended, -⟩ := up
  · refine ⟨fun on held there => ?_, ?_, ?_⟩
    · have channels := coherent.channels on held there
      rw [handshaking] at channels
      simpa [SessionTask.conn?, turn] using channels
    · exact ⟨channel, found, .inl ⟨running, current, .inr (.inl ⟨rfl, acknowledged⟩)⟩⟩
    · exact coherent.changes.set (state.imp_left fun state => .inr (.inr (.inr ⟨state, rfl⟩)))
  · unfold Channel.isOpen at unended
    rw [ended.status] at unended
    cases unended

theorem refuse (coherent : line.Coherent acked overtaken) {key : String}
    (handshaking : line.session = .handshaking conn key) :
    ({ line with session := .attached conn } : Line).Coherent acked overtaken := by
  refine ⟨fun on held there => ?_, ?_, coherent.changes⟩
  · have channels := coherent.channels on held there
    rw [handshaking] at channels
    simpa [SessionTask.conn?] using channels
  · exact Attends.mono (fun _ => Or.imp_right .inr) (coherent.suits_of handshaking)

theorem rest (coherent : line.Coherent acked overtaken) (pausing : line.session = .pausing) :
    ({ line with session := .idle } : Line).Coherent acked overtaken := by
  refine ⟨fun on held there => .inr ?_, coherent.suits_of pausing, coherent.changes⟩
  exact coherent.over_of_apart (by simp [pausing, SessionTask.conn?]) there

theorem leave (coherent : line.Coherent acked overtaken)
    (on : line.session = .attached conn ∨ ∃ key, line.session = .handshaking conn key)
    (found : line.channels[conn]? = some channel) (released : channel.released = true) :
    ({ line with session := .idle } : Line).Coherent acked overtaken := by
  have stopped : ¬ channel.Running := by
    intro running
    rw [running.released] at released
    cases released
  have waits : line.session.conn? = some conn ∧ line.session ≠ .finished := by
    obtain session | ⟨key, session⟩ := on <;> simp [session, SessionTask.conn?]
  refine ⟨fun other held there => .inr ?_, ?_, coherent.changes⟩
  · obtain ⟨running, -, here | here⟩ | ended := coherent.channels other held there
    · cases waits.1.symm.trans here
      cases there.symm.trans found
      exact absurd running stopped
    · exact absurd here waits.2
    · exact ended
  · obtain ⟨other, here, held, there, ⟨running, -⟩ | ⟨-, gone⟩⟩ | ⟨nowhere, -⟩ := coherent.suits.cases
    · cases waits.1.symm.trans here
      cases there.symm.trans found
      exact absurd running stopped
    · exact gone
    · cases waits.1.symm.trans nowhere

theorem stop (coherent : line.Coherent acked overtaken) (found : line.channels[conn]? = some channel)
    (running : channel.Running) (ended : after.Over) :
    ({ line.setChannel conn after with current := none }.turn .disconnected).Coherent acked overtaken := by
  have replaced : (line.setChannel conn after).channels[conn]? = some after := by
    rw [getElem?_setChannel found, if_pos rfl]
  refine ⟨fun other held there => ?_, ?_, coherent.turn_disconnected⟩
  · by_cases same : other = conn
    · subst same
      cases replaced.symm.trans there
      exact .inr ended
    · have before := getElem?_setChannel found after other
      rw [if_neg same] at before
      obtain h | h := coherent.channels other held (before.symm.trans there)
      · exact .inl ⟨h.1, h.2.1.trans (length_setChannel line conn after).symm, h.2.2⟩
      · exact .inr h
  · obtain ⟨-, -, waits⟩ | ended := coherent.channels conn channel found
    · change Suits acked overtaken _ line.session
      cases session : line.session with
      | handshaking on key =>
        obtain rfl : on = conn := by simpa [session, SessionTask.conn?] using waits
        exact ⟨after, replaced, .inr ⟨ended, rfl, rfl⟩⟩
      | attached on =>
        obtain rfl : on = conn := by simpa [session, SessionTask.conn?] using waits
        exact ⟨after, replaced, .inr ⟨ended, rfl, rfl⟩⟩
      | connecting => simp [session, SessionTask.conn?] at waits
      | _ => exact ⟨rfl, rfl⟩
    · exact absurd running ended.not_running

theorem pump (coherent : line.Coherent acked overtaken) {decode : Bytes → Except CodecError Message} {step : PumpStep}
    {output : PumpOutput Unit Unit} (found : line.channels[conn]? = some channel)
    (stepped : channel.step decode step = some (after, output)) :
    ((line.setChannel conn after).heed output.disconnected.isSome).Coherent acked overtaken := by
  obtain ⟨running, -⟩ | ended := coherent.channels conn channel found
  · obtain ⟨-, stops | goes, -⟩ := Channel.step_cases stepped
    · rw [stops.isSome_disconnected, running.onDisconnected]
      exact coherent.stop found running stops.over
    · rw [goes.disconnected]
      refine coherent.setChannel found (fun runs => runs.goesOn goes) ?_
      intro ended
      exact absurd running ended.not_running
  · rw [ended.step_eq_none] at stepped
    cases stepped

theorem finish (coherent : line.Coherent acked overtaken) :
    ({ { line with current := none }.turn .disconnected with
      session := .finished } : Line).Coherent acked overtaken := by
  refine ⟨fun on held there => ?_, ⟨rfl, rfl⟩, coherent.turn_disconnected⟩
  exact (coherent.channels on held there).imp_left fun h => ⟨h.1, h.2.1, .inr rfl⟩

theorem settle (coherent : line.Coherent acked overtaken) (due : line.session = .finished ∨ overtaken) :
    (line.turn .disconnected).Coherent acked overtaken := by
  refine ⟨coherent.channels, ?_, coherent.turn_disconnected⟩
  change Suits acked overtaken (line.turn .disconnected) line.session
  cases session : line.session with
  | connecting =>
    have early := due.resolve_left (by simp [session])
    exact ⟨(coherent.suits_of session).1, .inr ⟨early, rfl⟩⟩
  | handshaking on key =>
    have early := due.resolve_left (by simp [session])
    obtain ⟨held, there, up⟩ := coherent.suits_of session
    exact ⟨held, there, up.imp (fun h => ⟨h.1, h.2.1, .inr ⟨early, rfl⟩⟩) fun h => ⟨h.1, h.2.1, rfl⟩⟩
  | attached on =>
    have early := due.resolve_left (by simp [session])
    obtain ⟨held, there, up⟩ := coherent.suits_of session
    exact ⟨held, there, up.imp (fun h => ⟨h.1, h.2.1, .inr (.inr ⟨early, rfl⟩)⟩) fun h =>
      ⟨h.1, h.2.1, rfl⟩⟩
  | _ => exact ⟨(coherent.suits_of session).1, rfl⟩

end Coherent

theorem coherent_of_move {next : Line} (move : Move acked overtaken line next) (coherent : line.Coherent acked overtaken) :
    next.Coherent acked overtaken := by
  cases move with
  | attempt idle => exact coherent.attempt idle
  | fail connecting => exact coherent.fail connecting
  | join connecting key => exact coherent.join connecting key
  | write found written =>
    exact coherent.setChannel found (fun runs => runs.write written) fun ended => ended.write written
  | close found => exact coherent.setChannel found Channel.Running.close Channel.Over.close
  | activate handshaking found unended acknowledged =>
    exact coherent.activate handshaking found unended acknowledged
  | refuse handshaking => exact coherent.refuse handshaking
  | rest pausing => exact coherent.rest pausing
  | leave on found released => exact coherent.leave on found released
  | finish => exact coherent.finish
  | settle due => exact coherent.settle due
  | pump found stepped => exact coherent.pump found stepped

theorem coherent_of_moves {next : Line} (moves : Moves acked overtaken line next) (coherent : line.Coherent acked overtaken) :
    next.Coherent acked overtaken := by
  induction moves with
  | refl => exact coherent
  | tail moves move ih => exact coherent_of_move move ih

theorem Coherent.alone (coherent : line.Coherent acked overtaken) {first second : Nat}
    {this that : Channel Unit Unit} (here : line.channels[first]? = some this) (there : line.channels[second]? = some that)
    (runs : this.pump.isAlive = true) (also_runs : that.pump.isAlive = true) : first = second := by
  have last {on : Nat} {held : Channel Unit Unit} (found : line.channels[on]? = some held)
      (alive : held.pump.isAlive = true) : on + 1 = line.channels.length := by
    obtain ⟨-, last, -⟩ | ended := coherent.channels on held found
    · exact last
    · rw [ended.pump] at alive
      cases alive
  have left := last here runs
  have right := last there also_runs
  omega

end Line

/-! ## Every run -/

variable {ι : Type} [DecidableEq ι]

omit [DecidableEq ι] in
theorem Client.coherent_new (config : ClientConfig) (codec : Codec) (acked : Nat → Prop) (overtaken : Prop) :
    (Client.new config codec : Client ι).line.Coherent acked overtaken := by
  have fresh : (Client.new config codec : Client ι).line = ⟨[], none, .disconnected, [], .idle⟩ := rfl
  rw [fresh]
  refine ⟨fun conn channel there => ?_, ⟨rfl, rfl⟩, .start⟩
  rw [List.getElem?_nil] at there
  cases there

theorem Client.Run.coherent {config : ClientConfig} {codec : Codec} {past : List (Moment ι)}
    {client : Client ι} (run : Client.Run (.new config codec) past client) :
    client.line.Coherent (fun conn => ∃ moment ∈ past, moment.Activates conn)
      (∃ moment ∈ past, moment.overtakes = true) := by
  induction run with
  | start => exact Client.coherent_new config codec _ _
  | step run taken ih =>
    rename_i past client after now event effects
    have before : client.line.Coherent
        (fun conn => ∃ moment ∈ past ++ [⟨now, event, client, after, effects⟩], moment.Activates conn)
        (∃ moment ∈ past ++ [⟨now, event, client, after, effects⟩], moment.overtakes = true) :=
      ih.mono (fun conn ⟨moment, mem, activates⟩ => ⟨moment, List.mem_append_left _ mem, activates⟩)
        fun ⟨moment, mem, overtakes⟩ => ⟨moment, List.mem_append_left _ mem, overtakes⟩
    refine Line.coherent_of_moves ?_ before
    refine Relation.ReflTransGen.mono (fun line next move => ?_) _ _ (Client.moves_of_step taken)
    exact move.mono (fun conn activates => ⟨_, List.mem_concat_self, activates⟩)
      fun overtakes => ⟨_, List.mem_concat_self, overtakes⟩

end Iso8583
