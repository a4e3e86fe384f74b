import CubeQuery.Text.Case
import CubeQuery.Text.Distance

/-!
# Suggestions for misspelled names

The name of a table that is nearest to a typed text, when it is near enough to
be offered.
-/

namespace CubeQuery.Suggestion

/-- The greatest distance at which a name is offered (`MAX_SUGGESTION_DISTANCE`). -/
def reach : Nat := 3

/-- A name at this distance can be offered. -/
def isNear (distance : Nat) : Bool := 0 < distance && distance ≤ reach

/-- The first of the nearest names among those that can be offered. -/
def nearest (distanceTo : String → Nat) : List String → Option String
  | [] => none
  | name :: rest =>
    if isNear (distanceTo name) then
      match nearest distanceTo rest with
      | some other => if distanceTo other < distanceTo name then some other else some name
      | none => some name
    else nearest distanceTo rest

/-- The distance of a name to a typed text, without regard to case. -/
def distanceFrom (typed name : String) : Nat :=
  Text.distance (Text.lowercase typed) (Text.lowercase name)

/-- The name to offer for a typed text (`closest`). A tie goes to the earlier name. -/
def closest (typed : String) (names : List String) : Option String :=
  nearest (distanceFrom typed) names

end CubeQuery.Suggestion
