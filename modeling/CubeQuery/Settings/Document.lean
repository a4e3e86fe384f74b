import CubeQuery.Settings.Basic
import CubeQuery.Toml.Reader
import CubeQuery.Toml.Written

/-!
# Settings documents

The settings are kept in a TOML document. Reading passes over keys that it does
not know. The version of the document has to be a number, but any version is
read as the present one.
-/

namespace CubeQuery.Settings

/-! ## Reading -/

/-- Whether the value of `version` can be a version: a number of 32 bits without a sign. -/
def isVersion : Toml → Bool
  | .int n => 0 ≤ n && n < 4294967296
  | _ => false

/-- The value of an optional member, which has to be of the right type if it is there. -/
def member? {α : Type} (members : Toml.Members) (key : String) (ofValue : Toml → Option α) :
    Option (Option α) :=
  match members.lookup key with
  | none => some none
  | some value => (ofValue value).map some

/-- The text of a value that is one. -/
def textOf? : Toml → Option String
  | .text s => some s
  | _ => none

/-- The truth value of a value that is one. -/
def flagOf? : Toml → Option Bool
  | .flag b => some b
  | _ => none

/-- The colour setting in the value of `output`. A list gives its members by position, and a
    date has no members that are known. -/
def colourOf? : Toml → Option (Option Bool)
  | .table _ members => member? members "color" flagOf?
  | .list (first :: _) => (flagOf? first).map some
  | .moment => some none
  | _ => none

/-- The settings of a table. -/
def ofTable? (members : Toml.Members) : Option Settings := do
  let _ ← member? members "version" fun v => if isVersion v then some () else none
  let cardIndex ← member? members "card_index" textOf?
  let colour ← member? members "output" colourOf?
  some ⟨cardIndex, colour.join⟩

/-- The settings of a document. -/
def read? (document : String) : Option Settings := (Toml.read document).bind ofTable?

/-! ## Writing -/

/-- The word for a truth value. -/
def wordOfFlag (b : Bool) : String := if b then "true" else "false"

/-- A line with a key and a value. -/
def pairLine (key value : String) : String := key ++ " = " ++ value ++ "\n"

/-- The document in which the settings are kept. -/
def written (settings : Settings) : String :=
  pairLine "version" "1" ++
    (match settings.cardIndex with
      | some path => pairLine "card_index" (Toml.writtenText path)
      | none => "") ++
    "\n[output]\n" ++
    (match settings.colour with
      | some b => pairLine "color" (wordOfFlag b)
      | none => "")

/-- The document that is written for a start (`DEFAULT_CONFIG`). It sets nothing. -/
def template : String :=
  "# cubefilter configuration\n" ++
  "\n" ++
  "# Config schema version (do not modify)\n" ++
  "version = 1\n" ++
  "\n" ++
  "# Card index used by card: filters (can also use --cards or CUBEFILTER_CARDS)\n" ++
  "# card_index = \"/path/to/card_index.json\"\n" ++
  "\n" ++
  "# Output preferences\n" ++
  "[output]\n" ++
  "# color = true              # Enable colors\n"

end CubeQuery.Settings
