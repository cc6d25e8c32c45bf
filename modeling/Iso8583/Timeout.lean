import Iso8583.Duration

/-!
# Work within a time limit
-/

namespace Iso8583

/-- The failure of work that took too long. -/
inductive TimeError where
  | elapsed
  deriving DecidableEq, Repr

def TimeError.message : TimeError → String
  | .elapsed => "operation timed out"

/-- The outcome of work that needs a given time, or never ends, under a limit, and when it is known.
Work that ends exactly at the limit counts as done. -/
def withTimeout {α : Type} (limit : Duration) (work : Option Duration) (result : α) :
    Except TimeError α × Duration :=
  match work with
  | some time => if time ≤ limit then (.ok result, time) else (.error .elapsed, limit)
  | none => (.error .elapsed, limit)

end Iso8583
