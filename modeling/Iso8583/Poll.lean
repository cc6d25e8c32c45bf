import Iso8583.Duration

/-!
# Polling

A condition is checked, and checked again after each sleep of a fixed interval, until it yields a
value, the budget of sleeps is used up, or a sleep fails.
-/

namespace Iso8583

/-- How many sleeps a poll may take. -/
inductive PollBudget where
  | iterations (count : Nat)
  | unbounded
  deriving DecidableEq, Repr

def PollBudget.bound? : PollBudget → Option Nat
  | .iterations count => some count
  | .unbounded => none

/-- The largest number of sleeps that a budget can name. -/
def maxIterations : Nat := UInt64.size - 1

/-- The whole intervals in a timeout, but at least one. -/
def PollBudget.ofTimeout (timeout interval : Duration) : PollBudget :=
  .iterations (min (max (timeout.nanos / interval.nanos) 1) maxIterations)

/-- The end of a poll whose condition was not met. -/
structure PollTimeout where
  iterations : Nat
  interval : Duration
  deriving DecidableEq, Repr

def PollTimeout.message (timeout : PollTimeout) : String :=
  "condition not met after " ++ toString timeout.iterations ++ " polls at " ++ timeout.interval.text

/-! ## One poll -/

/-- A poll that goes on. -/
structure Poll where
  interval : Duration
  budget : PollBudget
  iterations : Nat := 0
  deriving DecidableEq, Repr

/-- What follows a check. -/
inductive PollStep (α : Type) where
  | ready (value : α)
  | expired (timeout : PollTimeout)
  | sleep
  deriving DecidableEq, Repr

namespace Poll

def timeout (poll : Poll) : PollTimeout := ⟨poll.iterations, poll.interval⟩

def isExhausted (poll : Poll) : Bool :=
  match poll.budget with
  | .iterations count => count ≤ poll.iterations
  | .unbounded => false

def afterCheck {α : Type} (poll : Poll) : Option α → PollStep α
  | some value => .ready value
  | none => if poll.isExhausted then .expired poll.timeout else .sleep

def slept (poll : Poll) : Poll := { poll with iterations := poll.iterations + 1 }

end Poll

/-! ## A poll from its start to its end -/

/-- What a poll meets: what each check yields, and which sleeps fail, both counted from one. -/
structure PollCourse (α : Type) where
  check : Nat → Option α
  fails : Nat → Bool

/-- A poll under way, with what it has taken so far. -/
structure PollWork where
  poll : Poll
  checks : Nat := 0
  sleeps : Nat := 0
  elapsed : Duration := ⟨0⟩
  deriving DecidableEq

/-- A poll that has ended, with what it took. -/
structure PollRun (α : Type) extends PollWork where
  outcome : Except PollTimeout α

def PollWork.start (interval : Duration) (budget : PollBudget) : PollWork :=
  { poll := ⟨interval, budget, 0⟩ }

namespace PollCourse

variable {α : Type}

/-- One round: a check and, unless the poll ends with it, a sleep. A sleep that fails takes no time and
ends the poll. -/
def round (course : PollCourse α) (work : PollWork) : PollWork × Option (Except PollTimeout α) :=
  let work := { work with checks := work.checks + 1 }
  match work.poll.afterCheck (course.check work.checks) with
  | .ready value => (work, some (.ok value))
  | .expired timeout => (work, some (.error timeout))
  | .sleep =>
    let work := { work with sleeps := work.sleeps + 1 }
    if course.fails work.sleeps then (work, some (.error work.poll.timeout))
    else ({ work with poll := work.poll.slept, elapsed := work.elapsed + work.poll.interval }, none)

/-- Runs a poll for at most `rounds` more rounds; nothing if it has not ended then. -/
def run (course : PollCourse α) : (rounds : Nat) → PollWork → Option (PollRun α)
  | 0, _ => none
  | rounds + 1, work =>
    match course.round work with
    | (work, some outcome) => some { work with outcome := outcome }
    | (work, none) => run course rounds work

end PollCourse

/-! ## A poll on a task of its own -/

/-- A task that polls, hands the outcome on, and is over then. -/
structure PollTask (α : Type) where
  work : PollWork
  isOver : Bool := false
  /-- What was handed on so far. -/
  results : List (Except PollTimeout α) := []

namespace PollTask

variable {α : Type}

def spawn (interval : Duration) (budget : PollBudget) : PollTask α :=
  { work := .start interval budget }

/-- Lets the task go on for one round. -/
def advance (course : PollCourse α) (task : PollTask α) : PollTask α :=
  if task.isOver then task
  else match course.round task.work with
    | (work, some outcome) =>
      { work := work, isOver := true, results := task.results ++ [outcome] }
    | (work, none) => { task with work := work }

/-- Lets the task go on for `rounds` rounds. -/
def advanceAll (course : PollCourse α) : (rounds : Nat) → PollTask α → PollTask α
  | 0, task => task
  | rounds + 1, task => advanceAll course rounds (task.advance course)

end PollTask

/-! ## A poll against a script -/

/-- When the condition first yields a value, and which sleep is the first to fail, both counted
from one. -/
structure PollScript where
  readyAt : Option Nat
  failAt : Option Nat
  deriving DecidableEq, Repr

namespace PollScript

/-- From the first time on, each check yields its number and each sleep fails. -/
def course (script : PollScript) : PollCourse Nat where
  check number := if script.readyAt.any (· ≤ number) then some number else none
  fails number := script.failAt.any (· ≤ number)

/-- The numbers of sleeps that a poll does not get beyond. -/
def limits (script : PollScript) (budget : PollBudget) : List Nat :=
  script.readyAt.toList ++ script.failAt.toList ++ budget.bound?.toList

/-- A number of rounds after which a poll has ended, if it ends at all. -/
def rounds (script : PollScript) (budget : PollBudget) : Nat :=
  match (script.limits budget).min? with
  | some limit => limit + 1
  | none => 0

/-- Runs a poll to its end; nothing if it has none. -/
def await (script : PollScript) (interval : Duration) (budget : PollBudget) : Option (PollRun Nat) :=
  script.course.run (script.rounds budget) (.start interval budget)

/-- Runs a poll to its end on a task of its own. -/
def spawn (script : PollScript) (interval : Duration) (budget : PollBudget) : PollTask Nat :=
  (PollTask.spawn interval budget).advanceAll script.course (script.rounds budget)

end PollScript

end Iso8583
