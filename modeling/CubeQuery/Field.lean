import CubeQuery.Clause.Basic
import CubeQuery.Text.Case

/-!
# The table of fields

The fields that a clause can name, the operators that each takes, and the fields
of the catalog that stand behind them.
-/

namespace CubeQuery

/-- How the value of a field is understood (`FieldKind`). -/
inductive FieldKind where
  /-- A text that the catalog's text contains, without regard to case. -/
  | text
  /-- An integer. -/
  | number
  /-- The name of a category. -/
  | category
  /-- The name of a card, which the card index turns into cubes. -/
  | card
deriving DecidableEq, Repr

/-- The name of a kind for people (`as_str`). -/
def FieldKind.name : FieldKind → String
  | text => "string"
  | number => "number"
  | category => "category"
  | card => "card lookup"

/-- A field that a clause can name (`FieldSpec`). -/
structure Field where
  name : String
  kind : FieldKind
  /-- The catalog fields that a filter on this field can constrain. -/
  targets : List String
  operators : List Operator
  /-- The name under which the use of this field is recorded. Categories record the
      catalog fields instead. -/
  usage : String
  description : String
deriving DecidableEq, Repr

namespace Field

/-- Whether the field takes the operator (`supports`). -/
def supports (field : Field) (operator : Operator) : Bool := field.operators.contains operator

/-- The catalog field of a simple comparison (`primary_output`). -/
def target (field : Field) : String := field.targets.headD field.name

/-- The operators' characters in table order (`operator_list`). -/
def operatorSymbols (field : Field) : String := String.ofList (field.operators.map (·.symbol))

/-- The name of a cube's owner. -/
def owner : Field :=
  ⟨"owner", .text, ["owner_name"], [.equal], "owner_name", "Owner name contains the value"⟩

/-- The name of a cube. -/
def cubeName : Field :=
  ⟨"name", .text, ["name"], [.equal], "name", "Cube name contains the value"⟩

/-- The number of decks. -/
def decks : Field :=
  ⟨"decks", .number, ["numDecks"], [.equal, .greater, .less], "numDecks",
    "Number of decks built from the cube"⟩

/-- The number of cards. -/
def cards : Field :=
  ⟨"cards", .number, ["card_count"], [.equal, .greater, .less], "card_count",
    "Number of cards in the cube"⟩

/-- The category of a cube. -/
def category : Field :=
  ⟨"category", .category, ["categoryPrefixes", "categoryOverride", "type"], [.equal],
    "category", "Cube category (override or prefix category)"⟩

/-- A card in a cube. -/
def card : Field :=
  ⟨"card", .card, ["_id"], [.equal], "card", "Cube contains the named card"⟩

/-- Every field, in table order (`all`). -/
def all : List Field := [owner, cubeName, decks, cards, category, card]

/-- The field with a name, without regard to the case of ASCII letters (`lookup`). -/
def ofName? (name : String) : Option Field :=
  all.find? fun field => Text.sameIgnoringAsciiCase field.name name

end Field

end CubeQuery
