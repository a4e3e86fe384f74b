/-!
# Faults of JSON texts

A text that cannot be read has one of three kinds of fault, found at the first
place from the left where it shows.
-/

namespace CubeQuery.Json

/-- Why a text could not be read. -/
inductive Fault where
  /-- The text is JSON up to a value that has another type than the one wanted. -/
  | mistyped
  /-- The text is not JSON. -/
  | malformed
  /-- The text ends too early. -/
  | truncated
deriving DecidableEq, Repr

end CubeQuery.Json
