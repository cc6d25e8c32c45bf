/-!
# Why JSON is refused
-/

namespace Iso8583.Json

/-- The first problem that reading from left to right meets. -/
inductive Problem where
  /-- The text is not JSON. -/
  | malformed
  /-- The text ends before the value does. -/
  | unfinished
  /-- The value is JSON of another shape. -/
  | mismatch
  deriving DecidableEq, Repr

def Problem.message : Problem → String
  | .malformed => "malformed JSON"
  | .unfinished => "JSON ends early"
  | .mismatch => "JSON of another shape"

end Iso8583.Json
