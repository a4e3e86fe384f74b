import CubeQuery.Text.Case

/-!
# Settings

The settings of the program, and the change of one of them from the texts of a
key and a value.
-/

namespace CubeQuery

/-- The settings (`Config`). One that is not set is `none`. -/
structure Settings where
  /-- The path of the card index. -/
  cardIndex : Option String
  /-- Whether pages are printed with colours. -/
  colour : Option Bool
deriving DecidableEq, Repr

namespace Settings

/-- The settings with nothing set. -/
def unset : Settings := ⟨none, none⟩

instance : Inhabited Settings := ⟨unset⟩

/-- The truth value that a word stands for, in any case (`parse_bool`). -/
def flagOfWord? (word : String) : Option Bool :=
  let word := Text.lowercase word
  if ["true", "yes", "1", "on"].contains word then some true
  else if ["false", "no", "0", "off"].contains word then some false
  else none

/-- Why a setting could not be changed. -/
inductive Refusal where
  | unknownKey (key : String)
  | notFlag (value : String)
deriving DecidableEq, Repr

/-- The message for people. -/
def Refusal.message : Refusal → String
  | unknownKey key =>
    "Unknown config key '" ++ key ++ "'. Valid keys: card_index, output.color"
  | notFlag value =>
    "Invalid boolean value '" ++ value ++ "'. Use true/false, yes/no, 1/0, or on/off"

/-- The settings with another value for a key (`apply_setting`). -/
def set (settings : Settings) (key value : String) : Except Refusal Settings :=
  if key = "card_index" then .ok ⟨some value, settings.colour⟩
  else if key = "output.color" then
    match flagOfWord? value with
    | some b => .ok ⟨settings.cardIndex, some b⟩
    | none => .error (.notFlag value)
  else .error (.unknownKey key)

end Settings

end CubeQuery
