import CubeQuery.FilterError
import CubeQuery.Predicate.Basic
import CubeQuery.Suggestion

/-!
# Categories of cubes

A cube keeps its category in one of two places. Curated cubes set a flag and
have the category in the field of its class, other cubes have it in the legacy
field. A filter on a category therefore asks for one of two conditions.
-/

namespace CubeQuery

/-- The class of a category, which decides the field that holds it (`CategoryClass`). -/
inductive CategoryClass where
  | override
  | leading
deriving DecidableEq, Repr

namespace CategoryClass

/-- The field of curated cubes that holds a category of the class (`field`). -/
def field : CategoryClass → String
  | override => "categoryOverride"
  | leading => "categoryPrefixes"

/-- The name of the class for people. -/
def name : CategoryClass → String
  | override => "Override"
  | leading => "Prefix"

end CategoryClass

namespace Category

/-- The flag that a curated cube sets (`OVERRIDE_FLAG_FIELD`). -/
def flagField : String := "overrideCategory"

/-- The field that holds the category of other cubes (`LEGACY_TYPE_FIELD`). -/
def legacyField : String := "type"

/-- The categories of a cube as a whole (`OVERRIDE_CATEGORIES`). -/
def overrideNames : List String :=
  ["Vintage", "Legacy+", "Legacy", "Modern", "Pioneer", "Historic", "Standard", "Set"]

/-- The categories that stand before another one (`PREFIX_CATEGORIES`). -/
def leadingNames : List String :=
  ["Powered", "Unpowered", "Pauper", "Peasant", "Budget", "Silver-bordered", "Commander",
    "Battle Box", "Multiplayer", "Judge Tower"]

/-- Every category, in the order in which names are offered. -/
def allNames : List String := overrideNames ++ leadingNames

/-- Whether a name is listed, without regard to the case of ASCII letters. -/
def isListed (names : List String) (value : String) : Bool :=
  names.any fun name => Text.sameIgnoringAsciiCase name value

/-- The class of a category (`classify_category`). -/
def classify (value : String) : Option CategoryClass :=
  if isListed overrideNames value then some .override
  else if isListed leadingNames value then some .leading
  else none

/-- The condition for a category of a class, with the value as it was typed. -/
def condition (cls : CategoryClass) (value : String) : Predicate :=
  .or
    (.and (.leaf (.equals flagField (.flag true))) (.leaf (.contains cls.field value)))
    (.and (.leaf (.equals flagField (.flag false))) (.leaf (.contains legacyField value)))

/-- The condition for a category (`resolve_category`). -/
def resolve (value : String) : Except FilterError Predicate :=
  match classify value with
  | some cls => .ok (condition cls value)
  | none => .error (.unknownCategory value (Suggestion.closest value allNames))

end Category

end CubeQuery
