import Iso8583.Proofs.Client.Handshaking
import Iso8583.Proofs.Client.Ledger
import Mathlib.Algebra.Order.Field.Rat

/-!
# The connection counters balance

Every attempt to connect ends in a failure or in a session, unless it is still pending or was given up, and
every session ends in a disconnect.
-/

namespace Iso8583

/-! ## One entry -/

def SessionTask.abandonedBy {ι : Type} (session : SessionTask) : ClientEvent ι → Bool
  | .sessionShutDown => session = .connecting
  | _ => false

/-- The counters add up. `abandoned` says that an attempt was given up. -/
structure Ledger.Balanced (abandoned : Bool) (ledger : Ledger) : Prop where
  attempts : ledger.attempts = ledger.failures + ledger.established +
    if ledger.session = .connecting ∨ abandoned = true then 1 else 0
  established : ledger.established = ledger.disconnects + ledger.running
  handshakes : ledger.handshakes ≤ ledger.established
  /-- A handshake that goes on has not been counted. -/
  pending : ∀ conn key, ledger.session = .handshaking conn key → ledger.handshakes < ledger.established
  ended : abandoned = true → ledger.session = .finished

namespace Ledger.Balanced

variable {ι : Type} {abandoned : Bool} {ledger after : Ledger} {event : ClientEvent ι}

theorem of_unfinished (balanced : ledger.Balanced abandoned) (unfinished : ledger.session ≠ .finished) :
    abandoned = false := by
  rw [Bool.eq_false_iff]
  intro given_up
  exact unfinished (balanced.ended given_up)

theorem attempts_eq (balanced : ledger.Balanced abandoned) (unfinished : ledger.session ≠ .finished)
    (apart : ledger.session ≠ .connecting) : ledger.attempts = ledger.failures + ledger.established := by
  have attempts := balanced.attempts
  rw [if_neg (by simp [apart, balanced.of_unfinished unfinished])] at attempts
  exact attempts

theorem attempts_eq_succ (balanced : ledger.Balanced abandoned) (connecting : ledger.session = .connecting) :
    ledger.attempts = ledger.failures + ledger.established + 1 := by
  have attempts := balanced.attempts
  rwa [if_pos (.inl connecting)] at attempts

theorem posts (balanced : ledger.Balanced abandoned) (posts : ledger.Posts event after) :
    after.Balanced (abandoned || ledger.session.abandonedBy event) := by
  have established := balanced.established
  have handshakes := balanced.handshakes
  cases posts with
  | attempt idle =>
    have attempts := balanced.attempts_eq (by simp [idle]) (by simp [idle])
    have kept := balanced.of_unfinished (by simp [idle])
    constructor <;> simp [SessionTask.abandonedBy, kept] <;> omega
  | fail connecting =>
    have attempts := balanced.attempts_eq_succ connecting
    have kept := balanced.of_unfinished (by simp [connecting])
    constructor <;> simp [SessionTask.abandonedBy, kept] <;> omega
  | join connecting key =>
    have attempts := balanced.attempts_eq_succ connecting
    have kept := balanced.of_unfinished (by simp [connecting])
    constructor <;> simp [SessionTask.abandonedBy, kept] <;> omega
  | joinAtOnce connecting one =>
    have attempts := balanced.attempts_eq_succ connecting
    have kept := balanced.of_unfinished (by simp [connecting])
    constructor <;> simp [SessionTask.abandonedBy, kept] <;> omega
  | rest pausing =>
    have attempts := balanced.attempts_eq (by simp [pausing]) (by simp [pausing])
    have kept := balanced.of_unfinished (by simp [pausing])
    constructor <;> simp [SessionTask.abandonedBy, kept] <;> omega
  | wait handshaking =>
    change ledger.Balanced (abandoned || false)
    rwa [Bool.or_false]
  | attach handshaking one =>
    have attempts := balanced.attempts_eq (by simp [handshaking]) (by simp [handshaking])
    have kept := balanced.of_unfinished (by simp [handshaking])
    have room := balanced.pending _ _ handshaking
    constructor <;> simp [SessionTask.abandonedBy, kept] <;> omega
  | leave on =>
    have waits : ledger.session ≠ .finished ∧ ledger.session ≠ .connecting := by
      constructor <;> intro session <;> simp [session, SessionTask.conn?] at on
    have attempts := balanced.attempts_eq waits.1 waits.2
    have kept := balanced.of_unfinished waits.1
    constructor <;> simp [SessionTask.abandonedBy, kept] <;> omega
  | finish asked unfinished =>
    have attempts := balanced.attempts
    rw [balanced.of_unfinished unfinished] at attempts ⊢
    constructor <;> simp_all [SessionTask.abandonedBy]
  | pump =>
    change ledger.Balanced (abandoned || false)
    rwa [Bool.or_false]
  | stop one =>
    change Ledger.Balanced (abandoned || false) _
    rw [Bool.or_false]
    exact ⟨balanced.attempts, by dsimp only; omega, handshakes, balanced.pending, balanced.ended⟩
  | call about =>
    have none_given_up : ledger.session.abandonedBy event = false := by
      cases event <;> first | rfl | cases about
    rwa [none_given_up, Bool.or_false]
  | close | closeAtOnce | dropClose | settle | drop =>
    change Ledger.Balanced (abandoned || false) _
    rw [Bool.or_false]
    exact ⟨balanced.attempts, established, handshakes, balanced.pending, balanced.ended⟩

end Ledger.Balanced

/-! ## Every run -/

def Moment.abandons {ι : Type} (moment : Moment ι) : Bool :=
  moment.before.session.abandonedBy moment.event

variable {ι : Type} [DecidableEq ι]

namespace Client

variable {config : ClientConfig} {codec : Codec} {past : List (Moment ι)} {client : Client ι}

omit [DecidableEq ι] in
theorem balanced_new (config : ClientConfig) (codec : Codec) :
    (Client.new config codec : Client ι).ledger.Balanced false := by
  constructor <;> simp [ledger, new, runningIn]

theorem Run.balanced (run : Run (.new config codec) past client) :
    client.ledger.Balanced (past.any Moment.abandons) := by
  induction run with
  | start => exact balanced_new config codec
  | step run taken ih =>
    rw [List.any_append, List.any_cons, List.any_nil, Bool.or_false]
    exact ih.posts (posts_of_step run.coherent taken)

theorem Run.shut_of_shutdown (run : Run (.new config codec) past client) (asked : client.shutdown = true) :
    ∃ moment ∈ past, moment.event.shuts = true := by
  induction run with
  | start => cases asked
  | step run taken ih =>
    rename_i past client after now event effects
    have before (still : client.shutdown = true) :
        ∃ moment ∈ past ++ [⟨now, event, client, after, effects⟩], moment.event.shuts = true := by
      obtain ⟨moment, mem, shut⟩ := ih still
      exact ⟨moment, List.mem_append_left _ mem, shut⟩
    have posts := posts_of_step run.coherent taken
    have flag : after.ledger.shutdown = true := asked
    generalize after.ledger = books at posts flag
    cases posts with
    | close | closeAtOnce | drop => exact ⟨_, List.mem_concat_self, rfl⟩
    | _ => exact before flag

theorem Run.shut_of_abandons (run : Run (.new config codec) past client) {moment : Moment ι}
    (mem : moment ∈ past) (abandons : moment.abandons = true) :
    ∃ closing ∈ past, closing.event.shuts = true := by
  obtain ⟨earlier, later, rfl⟩ := List.append_of_mem mem
  obtain ⟨reached, taken, -⟩ := run.of_append_cons
  obtain ⟨now, event, before, after, effects⟩ := moment
  dsimp only at taken
  have asked : before.shutdown = true := by
    cases takes_of_step taken with
    | finish asked | finishOn asked => exact asked
    | call handles => cases handles <;> cases abandons
    | _ => cases abandons
  obtain ⟨closing, among, shut⟩ := reached.shut_of_shutdown asked
  exact ⟨closing, List.mem_append_left _ among, shut⟩

omit [DecidableEq ι] in
/-- Only the last connection can have a pump that runs. -/
theorem running_eq {acked : Nat → Prop} {overtaken : Prop} (coherent : client.line.Coherent acked overtaken) :
    client.ledger.running = if client.channels.any (·.pump.isAlive) then 1 else 0 := by
  have channels : client.line.channels = client.channels := rfl
  change runningIn client.channels = _
  obtain empty | ⟨older, last, split⟩ := List.eq_nil_or_concat client.channels
  · simp [empty, runningIn]
  rw [List.concat_eq_append] at split
  have ended : ∀ channel ∈ older, channel.pump.isAlive = false := by
    intro channel mem
    obtain ⟨conn, inside, found⟩ := List.getElem_of_mem mem
    have there : client.line.channels[conn]? = some channel := by
      rw [channels, split, List.getElem?_append_left inside, List.getElem?_eq_getElem inside, found]
    obtain ⟨-, newest, -⟩ | ends := coherent.channels conn channel there
    · rw [channels, split, List.length_append, List.length_singleton] at newest
      omega
    · rw [ends.pump]
      rfl
  have none_runs : older.countP (·.pump.isAlive) = 0 := by
    rw [List.countP_eq_zero]
    intro channel mem
    rw [ended channel mem]
    exact Bool.false_ne_true
  have none_any : older.any (·.pump.isAlive) = false := by
    rw [List.any_eq_false]
    intro channel mem
    rw [ended channel mem]
    exact Bool.false_ne_true
  rw [split, runningIn, List.countP_append, none_runs, List.any_append, none_any]
  cases alive : last.pump.isAlive <;> simp [alive]

end Client

/-- The part of the connection attempts that led to a session, exactly; zero if there were none. -/
def Metrics.successRatio (metrics : Metrics) : ℚ :=
  if metrics.connectionAttempts = 0 then 0
  else metrics.sessionsEstablished / metrics.connectionAttempts

theorem Metrics.successRatio_mem {metrics : Metrics}
    (le : metrics.sessionsEstablished ≤ metrics.connectionAttempts) :
    0 ≤ metrics.successRatio ∧ metrics.successRatio ≤ 1 := by
  unfold successRatio
  split
  · exact ⟨le_refl 0, zero_le_one⟩
  · constructor
    · exact div_nonneg (Nat.cast_nonneg _) (Nat.cast_nonneg _)
    · exact div_le_one_of_le₀ (Nat.cast_le.2 le) (Nat.cast_nonneg _)

/-- Each attempt has failed or led to a session, but for one that is pending or was given up because the
client was closed. Each session has been lost, but for the one whose pump runs. No session has had more than
one handshake. -/
theorem connection_counters_balance {config : ClientConfig} {codec : Codec} {past : List (Moment ι)}
    {client : Client ι} (run : Client.Run (.new config codec) past client) :
    client.metrics.connectionAttempts =
      client.metrics.connectionFailures + client.metrics.sessionsEstablished +
        (if client.session = .connecting ∨ past.any Moment.abandons = true then 1 else 0) ∧
    (∀ moment ∈ past, moment.abandons = true → ∃ closing ∈ past, closing.event.shuts = true) ∧
    client.metrics.sessionsEstablished =
      client.metrics.disconnects + (if client.channels.any (·.pump.isAlive) then 1 else 0) ∧
    client.metrics.handshakesCompleted ≤ client.metrics.sessionsEstablished ∧
    0 ≤ client.metrics.successRatio ∧ client.metrics.successRatio ≤ 1 := by
  have balanced := run.balanced
  have attempts := balanced.attempts
  have established := balanced.established
  rw [Client.running_eq run.coherent] at established
  refine ⟨attempts, fun moment mem => run.shut_of_abandons mem, established, balanced.handshakes, ?_⟩
  apply Metrics.successRatio_mem
  have le : client.ledger.established ≤ client.ledger.attempts := by omega
  exact le

/-- One attempt fails, one leads to a session that is lost, and one is given up. -/
theorem connection_counters_balance_after_closing : ∃ past client,
    Client.Run (.new (.localNetwork "peer") .binary) past (client : Client Nat) ∧
      client.session = .finished ∧ past.any Moment.abandons = true ∧
      client.metrics.connectionAttempts = 3 ∧ client.metrics.connectionFailures = 1 ∧
      client.metrics.sessionsEstablished = 1 ∧ client.metrics.disconnects = 1 ∧
      client.metrics.successRatio ≤ 1 := by
  obtain ⟨past, client, run, seen⟩ := exists_run_of_replay (.new (.localNetwork "peer") .binary)
    ([(⟨0⟩, .attempt), (⟨1⟩, .connectFailed), (⟨2⟩, .sessionSlept true), (⟨2⟩, .attempt),
      (⟨3⟩, .connected fun _ => "h"), (⟨4⟩, .pump 0 .endOfStream), (⟨4⟩, .connectionEnded),
      (⟨4⟩, .attempt), (⟨5⟩, .close), (⟨5⟩, .sessionShutDown)] : List (Duration × ClientEvent Nat))
    (fun past client => (client.session, past.any Moment.abandons, client.metrics.connectionAttempts,
      client.metrics.connectionFailures, client.channels.any (·.pump.isAlive)))
    (.finished, true, 3, 1, false) (by decide +kernel)
  simp only [Prod.mk.injEq] at seen
  obtain ⟨finished, abandoned, attempts, failures, stopped⟩ := seen
  obtain ⟨attempted, -, established, -, -, ratio⟩ := connection_counters_balance run
  rw [if_pos (.inr abandoned)] at attempted
  rw [stopped, if_neg (by simp)] at established
  exact ⟨past, client, run, finished, abandoned, attempts, failures, by omega, by omega, ratio⟩

end Iso8583
