/-!
# Runs of code points

A set of characters is written down as a list of runs of code points, in which
the points follow each other at a fixed distance.
-/

namespace CubeQuery.Text

/-- The code points `first`, `first + step`, … up to `last`. -/
structure Run where
  first : Nat
  last : Nat
  step : Nat
deriving DecidableEq, Repr

/-- Whether a code point is in the run. -/
def Run.holds (run : Run) (n : Nat) : Bool :=
  run.first ≤ n && n ≤ run.last && (n - run.first) % run.step == 0

/-- Whether a code point is in one of the runs. -/
def inRuns (runs : List Run) (n : Nat) : Bool := runs.any (·.holds n)

end CubeQuery.Text
