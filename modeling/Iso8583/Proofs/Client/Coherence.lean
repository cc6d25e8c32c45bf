import Iso8583.Proofs.Client.Ledger

/-!
# The session and its channel, in every run

A close takes the handle of the session task before it awaits the task's end. One that is given up while it
awaits leaves the next close with nothing to await: it is over at once, and sets the state of no session
although the session task still holds its channel, or is about to make another one.
-/

namespace Iso8583

variable {ι : Type}

/-! ## Closes that are given up -/

/-- Whether a close is given up in this step before the session task has finished. -/
def Moment.GivesUpClose (moment : Moment ι) : Prop :=
  moment.event = .dropClose ∧ moment.after.session ≠ .finished

theorem Ledger.Posts.stays_finished {ledger after : Ledger} {event : ClientEvent ι}
    (posts : ledger.Posts event after) (finished : ledger.session = .finished) : after.session = .finished := by
  cases posts with
  | attempt idle => cases idle.symm.trans finished
  | fail connecting | join connecting | joinAtOnce connecting => cases connecting.symm.trans finished
  | rest pausing => cases pausing.symm.trans finished
  | attach handshaking => cases handshaking.symm.trans finished
  | leave on =>
    rw [finished] at on
    cases on
  | finish => rfl
  | _ => exact finished

variable [DecidableEq ι] {config : ClientConfig} {codec : Codec} {past : List (Moment ι)} {client : Client ι}

namespace Client

/-- A handle that is gone while the session task goes on was taken by a close that was given up. -/
theorem Run.givesUpClose_of_spent (run : Run (.new config codec) past client) (spent : client.handle = .spent)
    (unfinished : client.session ≠ .finished) : ∃ moment ∈ past, moment.GivesUpClose := by
  induction run with
  | start => cases spent
  | step run taken ih =>
    rename_i past client after now event effects
    have posts := posts_of_step run.coherent taken
    have before (still : client.handle = .spent) :
        ∃ moment ∈ past ++ [⟨now, event, client, after, effects⟩], moment.GivesUpClose := by
      obtain ⟨moment, mem, gives⟩ := ih still fun finished => unfinished (posts.stays_finished finished)
      exact ⟨moment, List.mem_append_left _ mem, gives⟩
    have last : after.ledger.handle = .spent := spent
    have goes : after.ledger.session ≠ .finished := unfinished
    generalize after.ledger = books at posts last goes
    cases posts with
    | dropClose => exact ⟨_, List.mem_concat_self, rfl, unfinished⟩
    | settle awaited finished => exact absurd finished goes
    | close | drop => cases last
    | _ => exact before last

theorem Run.givesUpClose_of_overtakes {earlier later : List (Moment ι)} {moment : Moment ι}
    (run : Run (.new config codec) (earlier ++ moment :: later) client) (overtakes : moment.overtakes = true) :
    ∃ gone ∈ earlier, gone.GivesUpClose := by
  obtain ⟨reached, -, -⟩ := run.of_append_cons
  unfold Moment.overtakes at overtakes
  split at overtakes
  · rename_i spent
    exact reached.givesUpClose_of_spent spent (of_decide_eq_true overtakes)
  · cases overtakes

end Client

/-! ## Every run -/

/-- While the session waits for its handshake or is active a channel takes requests. The converse holds
unless a close was over before the session task had finished, which takes a close that was given up before.
A channel that takes requests is open and refuses a message only if it has no frame. An active session has
had the handshake of its own connection acknowledged, at most one pump runs, and each state set was due or
follows that of no session after such a close. -/
theorem session_coherent (run : Client.Run (.new config codec) past client) :
    (client.state = .awaitingHandshakeAck ∨ client.state = .active → client.current.isSome = true) ∧
    (client.current.isSome = true →
      client.state = .awaitingHandshakeAck ∨ client.state = .active ∨
        client.state = .disconnected ∧ ∃ moment ∈ past, moment.overtakes = true) ∧
    (∀ conn, client.current = some conn → ∃ channel, client.channels[conn]? = some channel ∧
      channel.isOpen = true ∧ channel.outbox.isOpen = true ∧
      ∀ msg error, channel.write client.codec msg = .error error →
        (∃ cause, error = .codec cause) ∨ ∃ cause, error = .wire cause) ∧
    (client.state = .active → ∃ conn, client.current = some conn ∧
      ∃ moment ∈ past, moment.Activates conn) ∧
    (∀ (first second : Nat) (this that : Channel Unit Unit), client.channels[first]? = some this →
      client.channels[second]? = some that → this.pump.isAlive = true → that.pump.isAlive = true →
      first = second) ∧
    Changes (∃ moment ∈ past, moment.overtakes = true) client.states client.state ∧
    ∀ earlier moment later, past = earlier ++ moment :: later → moment.overtakes = true →
      ∃ gone ∈ earlier, gone.GivesUpClose := by
  have coherent := run.coherent
  refine ⟨fun up => Option.isSome_iff_exists.2 (coherent.current_of_up up), ?_, ?_,
    coherent.acked_of_active, ?_, coherent.changes, ?_⟩
  · intro held
    obtain ⟨conn, current⟩ := Option.isSome_iff_exists.1 held
    obtain ⟨channel, -, -, waits | active | ⟨early, down⟩⟩ := coherent.running_of_current current
    · exact .inl waits
    · exact .inr (.inl active.1)
    · exact .inr (.inr ⟨down, early⟩)
  · intro conn current
    obtain ⟨channel, found, running, -⟩ := coherent.running_of_current current
    refine ⟨channel, found, ?_, ?_, fun msg error refused => ?_⟩
    · exact decide_eq_true running.status
    · exact decide_eq_true running.outbox
    · exact Channel.frameOf_error (running.write_error refused)
  · intro first second this that here there runs also_runs
    exact coherent.alone here there runs also_runs
  · rintro earlier moment later rfl overtakes
    exact run.givesUpClose_of_overtakes overtakes

theorem session_coherent_in_exchange : ∃ past client,
    Client.Run (.new (.localNetwork "peer") .binary) past (client : Client Nat) ∧ client.state = .active ∧
      client.current.isSome = true ∧ (∃ conn, ∃ moment ∈ past, moment.Activates conn) ∧
      Changes (∃ moment ∈ past, moment.overtakes = true) client.states client.state := by
  obtain ⟨past, client, run, active⟩ := exists_run_of_replay (.new (.localNetwork "peer") .binary) exchange
    (fun _ client => client.state) .active (by decide +kernel)
  obtain ⟨holds, -, -, acknowledged, -, changes, -⟩ := session_coherent run
  obtain ⟨conn, -, activates⟩ := acknowledged active
  exact ⟨past, client, run, active, holds (.inr active), ⟨conn, activates⟩, changes⟩

/-- A close that is given up, another close, and then the reply to the handshake: no session is followed by
an active one, and in between the channel takes requests without a session. -/
theorem session_incoherent_after_close_given_up : ∃ past client,
    Client.Run (.new (.localNetwork "peer") .binary) past (client : Client Nat) ∧
      (∃ moment ∈ past, moment.after.state = .disconnected ∧ moment.after.current = some 0) ∧
      client.state = .active ∧ ¬ Changes False client.states client.state := by
  obtain ⟨past, client, run, seen⟩ := exists_run_of_replay (.new (.localNetwork "peer") .binary)
    ([(⟨0⟩, .attempt), (⟨1⟩, .connected fun _ => "h"), (⟨2⟩, .close), (⟨2⟩, .dropClose), (⟨2⟩, .close),
      (⟨3⟩, arrives (keyedMessage "2810" "h")), (⟨4⟩, .sessionSlept true)])
    (fun past client => (past.any fun moment =>
      moment.after.state = .disconnected ∧ moment.after.current = some 0, client.state, client.states))
    (true, .active, [.active, .disconnected, .awaitingHandshakeAck, .connecting]) (by decide +kernel)
  simp only [Prod.mk.injEq] at seen
  obtain ⟨held, active, states⟩ := seen
  obtain ⟨moment, mem, apart⟩ := List.any_eq_true.1 held
  refine ⟨past, client, run, ⟨moment, mem, of_decide_eq_true apart⟩, active, ?_⟩
  rw [active, states]
  intro changes
  cases changes with
  | set before may =>
    cases before
    simp [SessionState.MayBecome] at may

end Iso8583
