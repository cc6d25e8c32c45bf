import Iso8583.Proofs.Client.Calls

/-!
# How long a call waits

When sleeps take exactly as long as they are asked to, a call that gives up has slept for as many whole
intervals as fit into the time it was given, and at least once. So it gives up early unless this time is a
multiple of the interval, or shorter than it.
-/

namespace Iso8583

/-! ## Budgets -/

/-- Whether the sleeps that a budget allows last for a given time. -/
def PollBudget.Covers (budget : PollBudget) (interval timeout : Duration) : Prop :=
  match budget with
  | .iterations count => timeout.nanos ≤ count * interval.nanos
  | .unbounded => True

instance (budget : PollBudget) (interval timeout : Duration) :
    Decidable (budget.Covers interval timeout) := by
  unfold PollBudget.Covers
  cases budget <;> infer_instance

theorem PollBudget.ofTimeout_eq {timeout interval : Duration}
    (fits : timeout.nanos / interval.nanos ≤ maxIterations) :
    ofTimeout timeout interval = .iterations (max (timeout.nanos / interval.nanos) 1) := by
  unfold ofTimeout
  rw [Nat.min_eq_left]
  unfold maxIterations UInt64.size at fits ⊢
  omega

/-- At least one interval, and as many as fit into a time, cover it exactly if they make it up or the
first one does. -/
theorem le_max_div_mul_iff {interval : Nat} (positive : 0 < interval) (time : Nat) :
    time ≤ max (time / interval) 1 * interval ↔ interval ∣ time ∨ time ≤ interval := by
  have whole : time / interval * interval + time % interval = time := Nat.div_add_mod' time interval
  rw [Nat.dvd_iff_mod_eq_zero]
  by_cases short : time / interval = 0
  · have below := Nat.mod_lt time positive
    rw [short, Nat.zero_mul, Nat.zero_add] at whole
    rw [short, Nat.max_eq_right (Nat.zero_le 1), Nat.one_mul]
    omega
  · have some := Nat.pos_of_ne_zero short
    have least : interval ≤ time / interval * interval := Nat.le_mul_of_pos_left _ some
    rw [Nat.max_eq_left some]
    generalize time / interval * interval = slept at whole least
    omega

theorem lt_max_div_mul_add {interval : Nat} (positive : 0 < interval) (time : Nat) :
    time < max (time / interval) 1 * interval + interval := by
  have most : time / interval * interval ≤ max (time / interval) 1 * interval :=
    Nat.mul_le_mul_right _ (Nat.le_max_left _ _)
  exact Nat.lt_of_lt_of_le (Nat.lt_div_mul_add positive) (Nat.add_le_add_right most interval)

theorem PollBudget.covers_ofTimeout_iff {timeout interval : Duration} (positive : 0 < interval.nanos)
    (fits : timeout.nanos / interval.nanos ≤ maxIterations) :
    (ofTimeout timeout interval).Covers interval timeout ↔
      interval.nanos ∣ timeout.nanos ∨ timeout.nanos ≤ interval.nanos := by
  rw [ofTimeout_eq fits]
  exact le_max_div_mul_iff positive timeout.nanos

theorem Poll.iterations_eq_of_isExhausted {poll : Poll} {count : Nat} (budget : poll.budget = .iterations count)
    (more : poll.isExhausted = false) (spent : poll.slept.isExhausted = true) :
    poll.iterations + 1 = count := by
  unfold isExhausted at more spent
  rw [show poll.slept.budget = poll.budget from rfl] at spent
  rw [budget] at more spent
  have above : ¬ count ≤ poll.iterations := of_decide_eq_false more
  have reached : count ≤ poll.iterations + 1 := of_decide_eq_true spent
  omega

/-! ## Sleeps -/

variable {ι : Type} [DecidableEq ι]

/-- When the sleep ends that a step lets a call take. -/
def Moment.wakes (moment : Moment ι) (id : ι) : Option Duration :=
  moment.effects.findSome? fun
    | .sleepCall caller time => if caller = id then some (moment.now + time) else none
    | _ => none

/-- When the sleep ends that a call has taken last. -/
def wakeOf (past : List (Moment ι)) (id : ι) : Option Duration :=
  past.reverse.findSome? (·.wakes id)

/-- Whether a step is not the end of a sleep, or the sleep has not failed and ends when it should. -/
def Moment.InTime (earlier : List (Moment ι)) (moment : Moment ι) : Prop :=
  match moment.event with
  | .callSlept id ok => ok = true ∧ wakeOf earlier id = some moment.now
  | _ => True

instance (earlier : List (Moment ι)) (moment : Moment ι) : Decidable (moment.InTime earlier) := by
  unfold Moment.InTime
  split <;> infer_instance

/-- Whether the sleeps of calls take exactly as long as they are asked to. -/
def Timely (past : List (Moment ι)) : Prop :=
  ∀ n (inside : n < past.length), past[n].InTime (past.take n)

instance (past : List (Moment ι)) : Decidable (Timely past) := by
  unfold Timely
  infer_instance

theorem wakeOf_concat (past : List (Moment ι)) (moment : Moment ι) (id : ι) :
    wakeOf (past ++ [moment]) id = (moment.wakes id).or (wakeOf past id) := by
  unfold wakeOf
  rw [List.reverse_concat, List.findSome?_cons]
  cases moment.wakes id <;> rfl

theorem Timely.inTime {earlier later : List (Moment ι)} {moment : Moment ι}
    (timely : Timely (earlier ++ moment :: later)) : moment.InTime earlier := by
  have now := timely earlier.length (by simp)
  rw [List.take_left] at now
  simpa using now

theorem Timely.of_append {earlier later : List (Moment ι)} (timely : Timely (earlier ++ later)) :
    Timely earlier := by
  intro n inside
  have now := timely n (by rw [List.length_append]; omega)
  rw [List.take_append_of_le_length (Nat.le_of_lt inside), List.getElem_append_left inside] at now
  exact now

theorem Moment.wakes_of_apart {moment : Moment ι} {id : ι}
    (apart : ∀ effect ∈ moment.effects, effect.call? ≠ some id) : moment.wakes id = none := by
  unfold Moment.wakes
  refine List.findSome?_eq_none_iff.2 fun effect mem => ?_
  have other := apart effect mem
  cases effect with
  | sleepCall caller time =>
    have different : caller ≠ id := fun same => other (congrArg some same)
    exact if_neg different
  | _ => rfl

/-! ## Waits -/

/-- Whether a call has waited for one thing ever since a given time. -/
def WaitsSince (past : List (Moment ι)) (id : ι) (aim : Option String) (begun : Duration) : Prop :=
  ∃ before start rest, past = before ++ start :: rest ∧ start.now = begun ∧
    aimIn start.before.calls id ≠ some aim ∧
    ∀ moment ∈ start :: rest, aimIn moment.after.calls id = some aim

theorem WaitsSince.concat {past : List (Moment ι)} {id : ι} {aim : Option String} {begun : Duration}
    (waits : WaitsSince past id aim begun) {moment : Moment ι}
    (still : aimIn moment.after.calls id = some aim) : WaitsSince (past ++ [moment]) id aim begun := by
  obtain ⟨before, start, rest, rfl, now, other, same⟩ := waits
  refine ⟨before, start, rest ++ [moment], by simp, now, other, ?_⟩
  rw [← List.cons_append]
  exact List.forall_mem_append.2 ⟨same, by simpa using still⟩

/-- A call in its sleep: since when it waits, and how its poll and the end of its sleep follow from
that. -/
structure Dozes (interval : Duration) (past : List (Moment ι)) (id : ι) (call : Call)
    (begun : Duration) : Prop where
  since : WaitsSince past id call.key? begun
  budget : call.poll.budget = .ofTimeout call.timeout interval
  more : call.poll.isExhausted = false
  wakes : wakeOf past id = some ⟨begun.nanos + (call.poll.iterations + 1) * interval.nanos⟩

section

variable {interval : Duration} {past : List (Moment ι)} {moment : Moment ι} {id : ι} {call : Call}
  {begun : Duration}

theorem aimIn_of_callIn {calls : List (ι × Call)} (held : callIn calls id = some call) :
    aimIn calls id = some call.key? := congrArg (Option.map Call.key?) held

theorem Moment.wakes_of_sleep (sleeps : moment.effects = [.sleepCall id interval]) :
    moment.wakes id = some (moment.now + interval) := by
  unfold Moment.wakes
  rw [sleeps]
  simp

theorem Dozes.begin (other : aimIn moment.before.calls id ≠ some call.key?)
    (held : callIn moment.after.calls id = some call)
    (poll : call.poll = ⟨interval, .ofTimeout call.timeout interval, 0⟩)
    (fresh : call.poll.isExhausted = false) (sleeps : moment.effects = [.sleepCall id interval]) :
    Dozes interval (past ++ [moment]) id call moment.now where
  since := ⟨past, moment, [], rfl, rfl, other, by simpa using aimIn_of_callIn held⟩
  budget := by rw [poll]
  more := fresh
  wakes := by
    rw [wakeOf_concat, Moment.wakes_of_sleep sleeps, poll, Nat.zero_add, Nat.one_mul]
    rfl

theorem Dozes.sleep (dozes : Dozes interval past id call begun) (awake : wakeOf past id = some moment.now)
    (held : callIn moment.after.calls id = some call.slept)
    (more : call.poll.slept.isExhausted = false) (sleeps : moment.effects = [.sleepCall id interval]) :
    Dozes interval (past ++ [moment]) id call.slept begun where
  since := by
    rw [call.key?_slept]
    exact dozes.since.concat (by rw [aimIn_of_callIn held, call.key?_slept])
  budget := by
    rw [call.poll_slept, call.timeout_slept]
    exact dozes.budget
  more := by
    rw [call.poll_slept]
    exact more
  wakes := by
    have now : moment.now = ⟨begun.nanos + (call.poll.iterations + 1) * interval.nanos⟩ :=
      Option.some.inj (awake.symm.trans dozes.wakes)
    rw [wakeOf_concat, Moment.wakes_of_sleep sleeps, now, call.poll_slept]
    have times : begun.nanos + (call.poll.iterations + 1 + 1) * interval.nanos =
        begun.nanos + (call.poll.iterations + 1) * interval.nanos + interval.nanos := by
      rw [Nat.succ_mul (call.poll.iterations + 1), Nat.add_assoc]
    exact congrArg (fun nanos => some (Duration.mk nanos)) times.symm

theorem Dozes.pass (dozes : Dozes interval past id call begun)
    (held : callIn moment.after.calls id = some call)
    (apart : ∀ effect ∈ moment.effects, effect.call? ≠ some id) :
    Dozes interval (past ++ [moment]) id call begun where
  since := dozes.since.concat (aimIn_of_callIn held)
  budget := dozes.budget
  more := dozes.more
  wakes := by
    rw [wakeOf_concat, Moment.wakes_of_apart apart]
    exact dozes.wakes

end

namespace Client

variable {config : ClientConfig} {codec : Codec} {client after : Client ι} {past : List (Moment ι)}
  {now : Duration} {event : ClientEvent ι} {effects : List (ClientEffect ι)} {id : ι}

/-- A call that sleeps at the end of a run has slept without a break since it began to wait. -/
theorem Run.dozes (run : Run (.new config codec) past client) (timely : Timely past) {call : Call}
    (held : callIn client.calls id = some call) : ∃ begun, Dozes config.pollInterval past id call begun := by
  induction run generalizing call with
  | start => cases held
  | step run taken ih =>
    rename_i past client after now event effects
    have settings : client.config = config := run.acts.keeps.1
    by_cases about : event.call? = some id
    · cases tends_of_handles (Client.handles_of_step about taken) with
      | @begins _ next _ other poll calls =>
        obtain rfl : next = call := Option.some.inj ((callIn_of_placed calls).symm.trans held)
        rw [← settings]
        have fresh := poll ▸ client.isExhausted_pollFor next.timeout
        exact ⟨now, .begin other held poll fresh rfl⟩
      | @sleeps before _ standing more calls =>
        obtain rfl : before.slept = call := Option.some.inj ((callIn_of_placed calls).symm.trans held)
        obtain ⟨begun, dozes⟩ := ih timely.of_append standing
        rw [← settings] at dozes ⊢
        exact ⟨begun, dozes.sleep timely.inTime.2 held more rfl⟩
      | expires _ _ calls => cases (callIn_of_dropped calls).symm.trans held
      | wakes _ calls => cases (callIn_of_dropped calls).symm.trans held
      | ends _ calls => cases (callIn_of_dropped calls).symm.trans held
      | leaves calls => cases (callIn_of_dropped calls).symm.trans held
    · obtain ⟨same, apart⟩ := step_of_call?_ne about taken
      obtain ⟨begun, dozes⟩ := ih timely.of_append (same.symm.trans held)
      exact ⟨begun, dozes.pass held apart⟩

end Client

/-! ## The end of a wait -/

/-- What a call has waited for, and the time it was given, when it ends because it has waited too long. -/
def CallResult.gaveUp? : CallResult → Option (Option String × Duration)
  | .failed (.responseTimeout key waited) => some (some key, waited)
  | .failed (.handshakeTimeout waited) => some (none, waited)
  | _ => none

theorem Call.gaveUp?_expired (call : Call) : call.expired.gaveUp? = some (call.key?, call.timeout) := by
  cases call <;> rfl

theorem CallResult.gaveUp?_eq_none {result : CallResult} (intime : result.isTimeout = false) :
    result.gaveUp? = none := by
  unfold isTimeout at intime
  unfold gaveUp?
  split at intime <;> simp_all

/-- The sleeps that a budget allows cover a time exactly if it is a multiple of the interval or no longer
than one. On a clock on which sleeps take exactly the interval, a call that gives up has waited without a
break for as long as these sleeps last: at least the time it was given only if they cover it, and less than
an interval too short if not. -/
theorem timed_wait_lasts {config : ClientConfig} {codec : Codec} {past : List (Moment ι)}
    {client : Client ι} (run : Client.Run (.new config codec) past client) (timely : Timely past)
    (positive : 0 < config.pollInterval.nanos) :
    (∀ timeout interval : Duration, 0 < interval.nanos → timeout.nanos / interval.nanos ≤ maxIterations →
      ((PollBudget.ofTimeout timeout interval).Covers interval timeout ↔
        interval.nanos ∣ timeout.nanos ∨ timeout.nanos ≤ interval.nanos)) ∧
    ∀ earlier moment later id result aim waited, past = earlier ++ moment :: later →
      .finish id result ∈ moment.effects → result.gaveUp? = some (aim, waited) →
      waited.nanos / config.pollInterval.nanos ≤ maxIterations →
      ∃ begun elapsed, WaitsSince earlier id aim begun ∧ moment.now.nanos = begun.nanos + elapsed ∧
        elapsed = max (waited.nanos / config.pollInterval.nanos) 1 * config.pollInterval.nanos ∧
        (waited.nanos ≤ elapsed ↔
          (PollBudget.ofTimeout waited config.pollInterval).Covers config.pollInterval waited) ∧
        waited.nanos < elapsed + config.pollInterval.nanos := by
  refine ⟨fun timeout interval positive fits => PollBudget.covers_ofTimeout_iff positive fits, ?_⟩
  rintro earlier ⟨now, event, held, after, effects⟩ later id result aim waited rfl finished gaveUp fits
  obtain ⟨before, taken, -⟩ := run.of_append_cons
  change held.step now event = some (after, effects) at taken
  change .finish id result ∈ effects at finished
  have inTime := timely.inTime
  have about : event.call? = some id :=
    Decidable.byContradiction fun apart => (Client.step_of_call?_ne apart taken).2 _ finished rfl
  cases Client.tends_of_handles (Client.handles_of_step about taken) with
  | begins | sleeps => simp at finished
  | leaves => cases finished
  | ends intime =>
    cases List.mem_singleton.1 finished
    cases (CallResult.gaveUp?_eq_none intime).symm.trans gaveUp
  | wakes => cases inTime.1
  | @expires call _ standing spent =>
    cases List.mem_singleton.1 finished
    obtain ⟨rfl, rfl⟩ := Prod.mk.inj (Option.some.inj (call.gaveUp?_expired.symm.trans gaveUp))
    obtain ⟨begun, dozes⟩ := before.dozes timely.of_append standing
    have budget := dozes.budget.trans (PollBudget.ofTimeout_eq fits)
    have sleeps := Poll.iterations_eq_of_isExhausted budget dozes.more spent
    have wakes : now = ⟨begun.nanos + (call.poll.iterations + 1) * config.pollInterval.nanos⟩ :=
      Option.some.inj (inTime.2.symm.trans dozes.wakes)
    refine ⟨begun, _, dozes.since, ?_, rfl, ?_, lt_max_div_mul_add positive _⟩
    · rw [wakes, sleeps]
    · rw [PollBudget.ofTimeout_eq fits]
      exact Iff.rfl

/-- A client that looks every 100 ms. -/
def tenthClient : Client Nat :=
  .new { ClientConfig.localNetwork "peer" with pollInterval := .ofMillis 100 } .binary

/-- A call that waits for a session which does not come, through some sleeps. -/
def vainWait (timeout : Duration) (sleeps : Nat) : List (Duration × ClientEvent Nat) :=
  (⟨0⟩, .awaitActive 7 timeout none) ::
    (List.range sleeps).map fun n => (.ofMillis ((n + 1) * 100), .callSlept 7 true)

theorem exists_wait (timeout : Duration) (sleeps : Nat) (last : Duration) (result : CallResult)
    (replayed : (tenthClient.replay (vainWait timeout sleeps)).map
      (fun run => (decide (Timely run.1), run.1.getLast?.map fun moment =>
        (moment.now, endedOf moment.effects))) = some (true, some (last, [.ended 7 result]))) :
    ∃ earlier moment client, Client.Run tenthClient (earlier ++ [moment]) client ∧
      Timely (earlier ++ [moment]) ∧ moment.now = last ∧ .finish 7 result ∈ moment.effects := by
  obtain ⟨past, client, run, seen⟩ := exists_run_of_replay tenthClient (vainWait timeout sleeps)
    (fun past _ => (decide (Timely past), past.getLast?.map fun moment =>
      (moment.now, endedOf moment.effects))) (true, some (last, [.ended 7 result])) replayed
  obtain ⟨timely, ended⟩ := Prod.mk.inj seen
  obtain ⟨moment, final, same⟩ := Option.map_eq_some_iff.1 ended
  obtain ⟨now, results⟩ := Prod.mk.inj same
  obtain ⟨earlier, rfl⟩ := List.getLast?_eq_some_iff.1 final
  refine ⟨earlier, moment, client, run, of_decide_eq_true timely, now, ?_⟩
  have mem : .ended 7 result ∈ endedOf moment.effects := by
    rw [results]
    exact List.mem_singleton.2 rfl
  obtain ⟨effect, asked, finishes⟩ := List.mem_filterMap.1 mem
  cases effect <;> cases finishes
  exact asked

theorem timed_wait_lasts_three_sleeps : ∃ earlier moment client,
    Client.Run tenthClient (earlier ++ [moment]) client ∧ Timely (earlier ++ [moment]) ∧
      .finish 7 (.failed (.handshakeTimeout (.ofMillis 300))) ∈ moment.effects ∧
      ∃ begun, WaitsSince earlier 7 none begun ∧
        (Duration.ofMillis 300).nanos + begun.nanos ≤ moment.now.nanos := by
  obtain ⟨earlier, moment, client, run, timely, now, finished⟩ := exists_wait (.ofMillis 300) 3
    (.ofMillis 300) (.failed (.handshakeTimeout (.ofMillis 300))) (by decide +kernel)
  obtain ⟨covers, lasts⟩ := timed_wait_lasts run timely (by decide)
  obtain ⟨begun, elapsed, waits, ends, -, enough, -⟩ :=
    lasts earlier moment [] 7 _ none (.ofMillis 300) rfl finished rfl (by decide)
  have whole := enough.2 ((covers _ _ (by decide) (by decide)).2 (.inl (by decide)))
  exact ⟨earlier, moment, client, run, timely, finished, begun, waits, by omega⟩

/-- The sleeps for 250 ms at 100 ms do not cover them, and a call that was given 250 ms gives up after
200 ms. -/
theorem timed_wait_ends_early :
    ¬ (PollBudget.ofTimeout (.ofMillis 250) (.ofMillis 100)).Covers (.ofMillis 100) (.ofMillis 250) ∧
    ∃ earlier moment client, Client.Run tenthClient (earlier ++ [moment]) client ∧
      Timely (earlier ++ [moment]) ∧ moment.now = .ofMillis 200 ∧
      .finish 7 (.failed (.handshakeTimeout (.ofMillis 250))) ∈ moment.effects :=
  ⟨by decide, exists_wait (.ofMillis 250) 2 (.ofMillis 200)
    (.failed (.handshakeTimeout (.ofMillis 250))) (by decide +kernel)⟩

end Iso8583
