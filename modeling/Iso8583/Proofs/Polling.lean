import Iso8583.Poll
import Mathlib.Data.Nat.Find

/-!
# How a poll ends

A poll may end with a value, with a sleep that fails, or with its budget. Each of the three is looked at in
its own place of a round, and the earliest decides: what the poll hands on, and what it has taken by then,
follow from the first check with a value, the first sleep that fails and the budget.
-/

namespace Iso8583

/-- The first number, counted from one, that has a property; nothing if no number has it. -/
def IsFirst (holds : Nat → Prop) : Option Nat → Prop
  | some first => 0 < first ∧ holds first ∧ ∀ number, 0 < number → number < first → ¬ holds number
  | none => ∀ number, 0 < number → ¬ holds number

namespace IsFirst

variable {holds : Nat → Prop} {first : Option Nat}

theorem eq_some (isFirst : IsFirst holds first) {count : Nat}
    (before : ∀ number, 0 < number → number ≤ count → ¬ holds number) (here : holds (count + 1)) :
    first = some (count + 1) := by
  cases first with
  | none => exact absurd here (isFirst _ count.succ_pos)
  | some first =>
    obtain ⟨positive, there, least⟩ := isFirst
    have notBefore : ¬ first ≤ count := fun le => before first positive le there
    have notBehind : ¬ count + 1 < first := fun lt => least _ count.succ_pos lt here
    congr 1
    omega

theorem lt_of_mem (isFirst : IsFirst holds first) {count : Nat}
    (before : ∀ number, 0 < number → number ≤ count → ¬ holds number) : ∀ number ∈ first, count < number := by
  rintro number ⟨⟩
  exact Nat.lt_of_not_le fun le => before number isFirst.1 le isFirst.2.1

end IsFirst

def PollBudget.Allows : PollBudget → Nat → Prop
  | .iterations count, sleeps => sleeps ≤ count
  | .unbounded, _ => True

theorem PollBudget.Allows.of_le {budget : PollBudget} {sleeps fewer : Nat} (allows : budget.Allows sleeps)
    (le : fewer ≤ sleeps) : budget.Allows fewer := by
  cases budget with
  | iterations count => exact Nat.le_trans le allows
  | unbounded => trivial

theorem PollBudget.allows_zero (budget : PollBudget) : budget.Allows 0 := by
  cases budget with
  | iterations count => exact Nat.zero_le count
  | unbounded => trivial

/-- That many sleeps are allowed, and they come before the first one that fails. -/
structure PollBudget.CanSleep (budget : PollBudget) (failing : Option Nat) (sleeps : Nat) : Prop where
  allowed : budget.Allows sleeps
  succeed : ∀ first ∈ failing, sleeps < first

theorem PollBudget.CanSleep.of_le {budget : PollBudget} {failing : Option Nat} {sleeps fewer : Nat}
    (can : budget.CanSleep failing sleeps) (le : fewer ≤ sleeps) : budget.CanSleep failing fewer where
  allowed := can.allowed.of_le le
  succeed first fails := Nat.lt_of_le_of_lt le (can.succeed first fails)

theorem Poll.isExhausted_iff (poll : Poll) :
    poll.isExhausted = true ↔ ¬ poll.budget.Allows (poll.iterations + 1) := by
  unfold isExhausted PollBudget.Allows
  cases poll.budget with
  | iterations count =>
    simp only [decide_eq_true_eq]
    omega
  | unbounded => simp

theorem Poll.afterCheck_of_allows {α : Type} {poll : Poll}
    (allows : poll.budget.Allows (poll.iterations + 1)) : poll.afterCheck (none : Option α) = .sleep :=
  if_neg fun exhausted => poll.isExhausted_iff.1 exhausted allows

theorem Poll.afterCheck_of_not_allows {α : Type} {poll : Poll}
    (forbidden : ¬ poll.budget.Allows (poll.iterations + 1)) :
    poll.afterCheck (none : Option α) = .expired poll.timeout :=
  if_pos (poll.isExhausted_iff.2 forbidden)

/-! ## One round -/

/-- A poll that has slept `slept` times, each time successfully. -/
def PollWork.after (interval : Duration) (budget : PollBudget) (slept : Nat) : PollWork where
  poll := ⟨interval, budget, slept⟩
  checks := slept
  sleeps := slept
  elapsed := ⟨slept * interval.nanos⟩

theorem PollWork.start_eq (interval : Duration) (budget : PollBudget) :
    PollWork.start interval budget = .after interval budget 0 := by
  simp [start, after]

namespace PollCourse

variable {α : Type} (course : PollCourse α) (interval : Duration) (budget : PollBudget)

/-- After `slept` sleeps there is no value yet, and one more sleep is allowed and succeeds. -/
structure GoesOn (slept : Nat) : Prop where
  nothing : course.check (slept + 1) = none
  allowed : budget.Allows (slept + 1)
  succeeds : course.fails (slept + 1) = false

/-- How a poll may end after `slept` sleeps that succeeded. -/
inductive EndsAfter (slept : Nat) : PollRun α → Prop where
  | ready (value : α) (found : course.check (slept + 1) = some value) :
    EndsAfter slept
      { PollWork.after interval budget slept with checks := slept + 1, outcome := .ok value }
  | spent (nothing : course.check (slept + 1) = none) (forbidden : ¬ budget.Allows (slept + 1)) :
    EndsAfter slept
      { PollWork.after interval budget slept with
        checks := slept + 1, outcome := .error ⟨slept, interval⟩ }
  | failed (nothing : course.check (slept + 1) = none) (allowed : budget.Allows (slept + 1))
      (fails : course.fails (slept + 1) = true) :
    EndsAfter slept
      { PollWork.after interval budget slept with
        checks := slept + 1, sleeps := slept + 1, outcome := .error ⟨slept, interval⟩ }

theorem goesOn_or_endsAfter (slept : Nat) :
    course.GoesOn budget slept ∨ ∃ run, course.EndsAfter interval budget slept run := by
  cases found : course.check (slept + 1) with
  | some value => exact .inr ⟨_, .ready value found⟩
  | none =>
    by_cases allowed : budget.Allows (slept + 1)
    · cases fails : course.fails (slept + 1) with
      | true => exact .inr ⟨_, .failed found allowed fails⟩
      | false => exact .inl ⟨found, allowed, fails⟩
    · exact .inr ⟨_, .spent found allowed⟩

variable {course budget} {slept : Nat}

theorem GoesOn.round_eq (on : course.GoesOn budget slept) :
    course.round (.after interval budget slept) = (.after interval budget (slept + 1), none) := by
  have sleeps : Poll.afterCheck ⟨interval, budget, slept⟩ (none : Option α) = .sleep :=
    Poll.afterCheck_of_allows on.allowed
  have elapsed : (⟨slept * interval.nanos⟩ + interval : Duration) = ⟨(slept + 1) * interval.nanos⟩ :=
    congrArg Duration.mk (Nat.succ_mul ..).symm
  simp [round, PollWork.after, on.nothing, sleeps, on.succeeds, Poll.slept, elapsed]

variable {interval}

theorem EndsAfter.round_eq {run : PollRun α} (ends : course.EndsAfter interval budget slept run) :
    course.round (.after interval budget slept) = (run.toPollWork, some run.outcome) := by
  cases ends with
  | ready value found => simp [round, PollWork.after, Poll.afterCheck, found]
  | spent nothing forbidden =>
    have expires : Poll.afterCheck ⟨interval, budget, slept⟩ (none : Option α) = .expired ⟨slept, interval⟩ :=
      Poll.afterCheck_of_not_allows forbidden
    simp [round, PollWork.after, nothing, expires]
  | failed nothing allowed fails =>
    have sleeps : Poll.afterCheck ⟨interval, budget, slept⟩ (none : Option α) = .sleep :=
      Poll.afterCheck_of_allows allowed
    simp [round, PollWork.after, nothing, sleeps, fails, Poll.timeout]

theorem EndsAfter.not_goesOn {run : PollRun α} (ends : course.EndsAfter interval budget slept run) :
    ¬ course.GoesOn budget slept := by
  intro on
  have ended := ends.round_eq
  rw [on.round_eq interval] at ended
  simp at ended

theorem EndsAfter.checks_eq {run : PollRun α} (ends : course.EndsAfter interval budget slept run) :
    run.checks = slept + 1 := by
  cases ends <;> rfl

/-! ## From round to round -/

/-- The poll ends, and this is its run. -/
def Ends (course : PollCourse α) (interval : Duration) (budget : PollBudget) (run : PollRun α) : Prop :=
  ∃ rounds, course.run rounds (.start interval budget) = some run

theorem run_add (interval : Duration) {slept : Nat} (on : ∀ earlier < slept, course.GoesOn budget earlier)
    (rounds : Nat) :
    course.run (slept + rounds) (.start interval budget) =
      course.run rounds (.after interval budget slept) := by
  induction slept generalizing rounds with
  | zero => rw [Nat.zero_add, PollWork.start_eq]
  | succ slept ih =>
    have before := ih (fun earlier lt => on earlier (Nat.lt_succ_of_lt lt)) (rounds + 1)
    have here := (on slept (Nat.lt_succ_self slept)).round_eq interval
    rw [Nat.add_assoc, Nat.add_comm 1 rounds, before, run, here]

theorem EndsAfter.run_eq {run : PollRun α} (ends : course.EndsAfter interval budget slept run)
    (on : ∀ earlier < slept, course.GoesOn budget earlier) (rounds : Nat) :
    course.run rounds (.start interval budget) = if rounds < run.checks then none else some run := by
  rw [ends.checks_eq]
  split
  · rename_i few
    have le : rounds ≤ slept := Nat.lt_succ_iff.1 few
    exact run_add interval (fun earlier lt => on earlier (Nat.lt_of_lt_of_le lt le)) 0
  · rename_i enough
    obtain ⟨more, rfl⟩ : ∃ more, rounds = slept + (more + 1) := ⟨rounds - slept - 1, by omega⟩
    rw [run_add interval on, PollCourse.run, ends.round_eq]

theorem exists_endsAfter (interval : Duration) (stops : ¬ ∀ slept, course.GoesOn budget slept) :
    ∃ slept run, course.EndsAfter interval budget slept run ∧
      ∀ earlier < slept, course.GoesOn budget earlier := by
  classical
  rw [not_forall] at stops
  obtain on | ⟨run, ends⟩ := goesOn_or_endsAfter course interval budget (Nat.find stops)
  · exact absurd on (Nat.find_spec stops)
  · exact ⟨_, run, ends, fun earlier lt => not_not.1 (Nat.find_min stops lt)⟩

theorem ends_iff {run : PollRun α} :
    course.Ends interval budget run ↔
      ∃ slept, course.EndsAfter interval budget slept run ∧
        ∀ earlier < slept, course.GoesOn budget earlier := by
  constructor
  · rintro ⟨rounds, done⟩
    have stops : ¬ ∀ slept, course.GoesOn budget slept := by
      intro never
      have running := run_add interval (fun earlier (_ : earlier < rounds) => never earlier) 0
      rw [Nat.add_zero, done] at running
      cases running
    obtain ⟨slept, first, ends, on⟩ := exists_endsAfter interval stops
    have same := ends.run_eq on rounds
    rw [done] at same
    split at same
    · cases same
    · cases same
      exact ⟨slept, ends, on⟩
  · rintro ⟨slept, ends, on⟩
    refine ⟨slept + 1, ?_⟩
    rw [ends.run_eq on, ends.checks_eq, if_neg (Nat.lt_irrefl _)]

theorem Ends.run_eq {run : PollRun α} (ends : course.Ends interval budget run) (rounds : Nat) :
    course.run rounds (.start interval budget) = if rounds < run.checks then none else some run := by
  obtain ⟨slept, ends, on⟩ := ends_iff.1 ends
  exact ends.run_eq on rounds

end PollCourse

/-! ## On a task of its own -/

namespace PollTask

variable {α : Type} {course : PollCourse α}

theorem advanceAll_of_isOver {task : PollTask α} (ended : task.isOver = true) (rounds : Nat) :
    task.advanceAll course rounds = task := by
  induction rounds with
  | zero => rfl
  | succ rounds ih => rw [advanceAll, advance, if_pos ended, ih]

theorem results_advanceAll {task : PollTask α} (running : task.isOver = false) (rounds : Nat) :
    (task.advanceAll course rounds).results =
      task.results ++ ((course.run rounds task.work).map (·.outcome)).toList := by
  induction rounds generalizing task with
  | zero => simp [advanceAll, PollCourse.run]
  | succ rounds ih =>
    rw [advanceAll, advance, PollCourse.run, if_neg (by simp [running])]
    obtain ⟨work, outcome?⟩ := course.round task.work
    cases outcome? with
    | none => exact ih running
    | some outcome => simp [advanceAll_of_isOver]

end PollTask

/-! ## Where a poll ends -/

/-- What a poll has taken: checks, sleeps, and the time of the sleeps that succeeded. -/
structure PollWork.Took (work : PollWork) (interval : Duration) (checks sleeps succeeded : Nat) : Prop where
  checks_eq : work.checks = checks
  sleeps_eq : work.sleeps = sleeps
  elapsed_eq : work.elapsed = ⟨succeeded * interval.nanos⟩

namespace PollCourse

variable {α : Type} {course : PollCourse α} {interval : Duration} {budget : PollBudget}
  {ready failing : Option Nat} {slept : Nat}

section Reached

variable (on : ∀ earlier < slept, course.GoesOn budget earlier)
include on

theorem allows_of_goesOn : budget.Allows slept := by
  cases slept with
  | zero => exact budget.allows_zero
  | succ slept => exact (on slept slept.lt_succ_self).allowed

theorem not_isSome_of_goesOn : ∀ number, 0 < number → number ≤ slept → ¬ (course.check number).isSome := by
  intro number positive le found
  obtain ⟨earlier, rfl⟩ := Nat.exists_eq_add_one.2 positive
  simp [(on earlier le).nothing] at found

theorem not_fails_of_goesOn : ∀ number, 0 < number → number ≤ slept → ¬ course.fails number = true := by
  intro number positive le fails
  obtain ⟨earlier, rfl⟩ := Nat.exists_eq_add_one.2 positive
  simp [(on earlier le).succeeds] at fails

end Reached

theorem goesOn_of_none (first_value : IsFirst (fun number => (course.check number).isSome) none)
    (first_failure : IsFirst (fun number => course.fails number = true) none) :
    course.GoesOn .unbounded slept where
  nothing := by simpa using first_value (slept + 1) slept.succ_pos
  allowed := trivial
  succeeds := by simpa using first_failure (slept + 1) slept.succ_pos

theorem exists_ends_iff (first_value : IsFirst (fun number => (course.check number).isSome) ready)
    (first_failure : IsFirst (fun number => course.fails number = true) failing) :
    (∃ run, course.Ends interval budget run) ↔
      (∃ count, budget = .iterations count) ∨ ready.isSome ∨ failing.isSome := by
  constructor
  · rintro ⟨run, ends⟩
    obtain ⟨slept, ends, -⟩ := ends_iff.1 ends
    cases budget with
    | iterations count => exact .inl ⟨count, rfl⟩
    | unbounded =>
      refine .inr ?_
      by_contra neither
      simp only [not_or, Option.not_isSome_iff_eq_none] at neither
      obtain ⟨rfl, rfl⟩ := neither
      exact ends.not_goesOn (goesOn_of_none first_value first_failure)
  · intro cause
    have stops : ¬ ∀ slept, course.GoesOn budget slept := by
      intro never
      obtain ⟨count, rfl⟩ | found | fails := cause
      · exact Nat.not_succ_le_self count (never count).allowed
      · obtain ⟨first, rfl⟩ := Option.isSome_iff_exists.1 found
        exact not_isSome_of_goesOn (fun earlier _ => never earlier) first first_value.1 (Nat.le_refl _)
          first_value.2.1
      · obtain ⟨first, rfl⟩ := Option.isSome_iff_exists.1 fails
        exact not_fails_of_goesOn (fun earlier _ => never earlier) first first_failure.1 (Nat.le_refl _)
          first_failure.2.1
    obtain ⟨slept, run, ends, on⟩ := exists_endsAfter interval stops
    exact ⟨run, ends_iff.2 ⟨slept, ends, on⟩⟩

end PollCourse

namespace PollTask

variable {α : Type} {course : PollCourse α} {interval : Duration} {budget : PollBudget}

theorem results_of_ends {run : PollRun α} (ends : course.Ends interval budget run) (rounds : Nat) :
    ((spawn interval budget).advanceAll course rounds).results =
      if rounds < run.checks then [] else [run.outcome] := by
  rw [results_advanceAll rfl, spawn, ends.run_eq]
  split <;> rfl

theorem results_of_endless (endless : ¬ ∃ run, course.Ends interval budget run) (rounds : Nat) :
    ((spawn interval budget).advanceAll course rounds).results = [] := by
  rw [results_advanceAll rfl, spawn]
  cases ended : course.run rounds (.start interval budget) with
  | none => rfl
  | some run => exact absurd ⟨run, rounds, ended⟩ endless

end PollTask

/-! ## A scripted poll -/

theorem isFirst_any (from? : Option Nat) :
    IsFirst (fun number => from?.any (· ≤ number) = true) (from?.map (max · 1)) := by
  cases from? with
  | none => simp [IsFirst]
  | some first =>
    simp only [Option.map_some, IsFirst, Option.any_some, decide_eq_true_eq]
    refine ⟨by omega, by omega, ?_⟩
    intro number positive before
    omega

namespace PollScript

variable (script : PollScript) {interval : Duration} {budget : PollBudget}

theorem isFirst_check :
    IsFirst (fun number => (script.course.check number).isSome = true) (script.readyAt.map (max · 1)) := by
  simpa [course] using isFirst_any script.readyAt

theorem isFirst_fails :
    IsFirst (fun number => script.course.fails number = true) (script.failAt.map (max · 1)) :=
  isFirst_any script.failAt

theorem not_goesOn_of_mem_limits {limit : Nat} (mem : limit ∈ script.limits budget) :
    ¬ script.course.GoesOn budget limit := by
  intro on
  simp only [limits, List.mem_append, Option.mem_toList] at mem
  obtain (ready | fails) | bound := mem
  · simpa [course, ready] using on.nothing
  · simpa [course, fails] using on.succeeds
  · cases budget with
    | iterations count =>
      cases bound
      exact Nat.not_succ_le_self limit on.allowed
    | unbounded => cases bound

theorem goesOn_of_limits_eq_nil (free : script.limits budget = []) (slept : Nat) :
    script.course.GoesOn budget slept := by
  simp only [limits, List.append_eq_nil_iff, Option.toList_eq_nil_iff] at free
  obtain ⟨⟨never_ready, never_fails⟩, no_bound⟩ := free
  cases budget with
  | iterations count => cases no_bound
  | unbounded => exact ⟨by simp [course, never_ready], trivial, by simp [course, never_fails]⟩

theorem checks_le_rounds {run : PollRun Nat} (ends : script.course.Ends interval budget run) :
    run.checks ≤ script.rounds budget := by
  obtain ⟨slept, ends, on⟩ := PollCourse.ends_iff.1 ends
  rw [ends.checks_eq, rounds]
  cases first : (script.limits budget).min? with
  | none =>
    have on := script.goesOn_of_limits_eq_nil (List.min?_eq_none_iff.1 first) slept
    exact absurd on ends.not_goesOn
  | some limit =>
    have stops := script.not_goesOn_of_mem_limits (List.min?_mem first)
    exact Nat.succ_le_succ (Nat.le_of_not_lt fun lt => stops (on limit lt))

/-- The rounds that a script is given are enough: the poll is run to its end if it has one. -/
theorem await_eq_some_iff {run : PollRun Nat} :
    script.await interval budget = some run ↔ script.course.Ends interval budget run := by
  constructor
  · intro done
    exact ⟨_, done⟩
  · intro ends
    rw [await, ends.run_eq, if_neg (Nat.not_lt.2 (script.checks_le_rounds ends))]

end PollScript

/-! ## The exact end -/

theorem PollCourse.not_canSleep_of_ready {α : Type} {course : PollCourse α} {budget : PollBudget}
    {ready failing : Option Nat} {slept : Nat}
    (first_value : IsFirst (fun number => (course.check number).isSome) ready)
    (on : ∀ earlier < slept, course.GoesOn budget earlier) (nothing : course.check (slept + 1) = none)
    (stuck : ¬ budget.CanSleep failing (slept + 1)) : ∀ r ∈ ready, ¬ budget.CanSleep failing (r - 1) := by
  have no_value : ∀ number, 0 < number → number ≤ slept + 1 → ¬ (course.check number).isSome := by
    intro number positive le
    obtain rfl | lt := Nat.eq_or_lt_of_le le
    · simp [nothing]
    · exact not_isSome_of_goesOn on number positive (Nat.lt_succ_iff.1 lt)
  intro r here can
  have late := first_value.lt_of_mem no_value r here
  exact stuck (can.of_le (by omega))

/-- A poll ends when it has a bound, or when some check has a value or some sleep fails, and it ends where the
first of these comes. It yields the value of the first check that has one exactly if the sleeps before that
check are allowed and none of them fails. Else it ends with the first failing sleep, where that one is
allowed, and with its budget where not. A task of its own hands on the same outcome once, in the round in
which the poll ends. -/
theorem polling_is_exact {α : Type} (course : PollCourse α) (interval : Duration) (budget : PollBudget)
    {ready failing : Option Nat} (first_value : IsFirst (fun number => (course.check number).isSome) ready)
    (first_failure : IsFirst (fun number => course.fails number = true) failing) :
    ((∃ run, course.Ends interval budget run) ↔
      (∃ count, budget = .iterations count) ∨ ready.isSome ∨ failing.isSome) ∧
    (∀ run, course.Ends interval budget run →
      (∀ value, run.outcome = .ok value ↔
        ∃ r ∈ ready, course.check r = some value ∧ budget.CanSleep failing (r - 1)) ∧
      ((∃ value, run.outcome = .ok value) → ∀ r ∈ ready, run.Took interval r (r - 1) (r - 1)) ∧
      ((∀ value, run.outcome ≠ .ok value) →
        (∀ f ∈ failing, budget.Allows f →
          run.outcome = .error ⟨f - 1, interval⟩ ∧ run.Took interval f f (f - 1)) ∧
        ((∀ f ∈ failing, ¬ budget.Allows f) → ∃ count, budget = .iterations count ∧
          run.outcome = .error ⟨count, interval⟩ ∧ run.Took interval (count + 1) count count)) ∧
      ∀ rounds, ((PollTask.spawn interval budget).advanceAll course rounds).results =
        if rounds < run.checks then [] else [run.outcome]) ∧
    ((¬ ∃ run, course.Ends interval budget run) → ∀ rounds,
      ((PollTask.spawn interval budget).advanceAll course rounds).results = []) := by
  refine ⟨PollCourse.exists_ends_iff first_value first_failure, ?_, PollTask.results_of_endless⟩
  intro run ended
  obtain ⟨slept, ends, on⟩ := PollCourse.ends_iff.1 ended
  have allowed := PollCourse.allows_of_goesOn on
  have no_failure := PollCourse.not_fails_of_goesOn on
  have succeed : ∀ f ∈ failing, slept < f := first_failure.lt_of_mem no_failure
  have handed := PollTask.results_of_ends ended
  cases ends with
  | ready value found =>
    obtain rfl : ready = some (slept + 1) :=
      first_value.eq_some (PollCourse.not_isSome_of_goesOn on) (by simp [found])
    have can : budget.CanSleep failing slept := ⟨allowed, succeed⟩
    refine ⟨?_, ?_, ?_, handed⟩
    · simp [found, can]
    · rintro - r ⟨⟩
      exact ⟨rfl, rfl, rfl⟩
    · intro no_value
      exact absurd rfl (no_value value)
  | spent nothing forbidden =>
    have stuck : ¬ budget.CanSleep failing (slept + 1) := fun can => forbidden can.allowed
    have late := PollCourse.not_canSleep_of_ready first_value on nothing stuck
    refine ⟨?_, ?_, fun _ => ⟨?_, fun _ => ?_⟩, handed⟩
    · intro value
      refine ⟨by simp, ?_⟩
      rintro ⟨r, here, -, can⟩
      exact absurd can (late r here)
    · simp
    · intro f here more
      exact absurd (more.of_le (succeed f here)) forbidden
    · cases budget with
      | unbounded => exact absurd trivial forbidden
      | iterations count =>
        have enough : ¬ slept + 1 ≤ count := forbidden
        have room : slept ≤ count := allowed
        obtain rfl : slept = count := by omega
        exact ⟨slept, rfl, rfl, rfl, rfl, rfl⟩
  | failed nothing more fails =>
    obtain rfl : failing = some (slept + 1) := first_failure.eq_some no_failure fails
    have stuck : ¬ budget.CanSleep (some (slept + 1)) (slept + 1) :=
      fun can => Nat.lt_irrefl _ (can.succeed _ rfl)
    have late := PollCourse.not_canSleep_of_ready first_value on nothing stuck
    refine ⟨?_, ?_, fun _ => ⟨?_, fun none_allowed => ?_⟩, handed⟩
    · intro value
      refine ⟨by simp, ?_⟩
      rintro ⟨r, here, -, can⟩
      exact absurd can (late r here)
    · simp
    · rintro f ⟨⟩ -
      exact ⟨rfl, rfl, rfl, rfl⟩
    · exact absurd more (none_allowed _ rfl)

/-- The value comes with the last check that the budget of two sleeps allows, and just before the first sleep
that fails. -/
theorem polling_is_exact_at_the_last_check :
    let course := (PollScript.mk (some 3) (some 3)).course
    IsFirst (fun number => (course.check number).isSome) (some 3) ∧
    IsFirst (fun number => course.fails number = true) (some 3) ∧
    ∃ run, course.Ends ⟨5⟩ (.iterations 2) run ∧ run.outcome = .ok 3 ∧ run.Took ⟨5⟩ 3 2 2 ∧
      ((PollTask.spawn ⟨5⟩ (.iterations 2)).advanceAll course 7).results = [.ok 3] := by
  intro course
  have first_value : IsFirst (fun number => (course.check number).isSome) (some 3) :=
    PollScript.isFirst_check _
  have first_failure : IsFirst (fun number => course.fails number = true) (some 3) :=
    PollScript.isFirst_fails _
  obtain ⟨ends, exact_run, -⟩ := polling_is_exact course ⟨5⟩ (.iterations 2) first_value first_failure
  obtain ⟨run, ended⟩ := ends.2 (.inl ⟨2, rfl⟩)
  obtain ⟨yields, takes, -, handed⟩ := exact_run run ended
  have value : run.outcome = .ok 3 :=
    (yields 3).2 ⟨3, rfl, by decide, Nat.le_refl 2, fun first here => by cases here; decide⟩
  have took := takes ⟨3, value⟩ 3 rfl
  refine ⟨first_value, first_failure, run, ended, value, took, ?_⟩
  rw [handed, took.checks_eq, value]
  rfl

end Iso8583
