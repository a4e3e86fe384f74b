import CubeQuery.Category
import CubeQuery.Field
import CubeQuery.Files.Path
import CubeQuery.Text.Quoted

/-!
# Events of a run

What the program can tell about its work while it runs. An event has an origin,
the part of the program that tells it, and a message.
-/

namespace CubeQuery

/-- The group of commands that chose a card index. -/
inductive IndexUser where
  | compile
  | index
deriving DecidableEq, Repr

/-- Something that happened in a run. -/
inductive Event where
  | noSettings (path : Path)
  | loadedSettings (path : Path)
  | usingIndex (user : IndexUser) (path : Path)
  | noIndex (path : Path)
  | loadedIndex (cards : Nat) (path : Path)
  | savedIndex (cards : Nat) (path : Path)
  | compiling (clause : String)
  | resolvedField (field : Field)
  | classified (value : String) (cls : CategoryClass)
  | foundCard (card : String) (cubes : Nat)
deriving DecidableEq, Repr

namespace Event

/-- The part of the program that tells the event. -/
def origin : Event → String
  | noSettings _ => "cubefilter::commands::config"
  | loadedSettings _ => "cubefilter::commands::config"
  | usingIndex .compile _ => "cubefilter::commands::compile"
  | usingIndex .index _ => "cubefilter::commands::index"
  | noIndex _ => "cube_filter::card_index"
  | loadedIndex .. => "cube_filter::card_index"
  | savedIndex .. => "cube_filter::card_index"
  | compiling _ => "cube_filter::filter::compiler"
  | resolvedField _ => "cube_filter::filter::compiler"
  | classified .. => "cube_filter::filter::category"
  | foundCard .. => "cube_filter::filter::compiler"

/-- The message for people. -/
def message : Event → String
  | noSettings path => "no config file at " ++ path.text ++ ", using defaults"
  | loadedSettings path => "loaded config from " ++ path.text
  | usingIndex _ path => "using card index " ++ path.text
  | noIndex path => "no card index at " ++ path.text ++ ", using empty index"
  | loadedIndex cards path =>
    "loaded card index with " ++ toString cards ++ " cards from " ++ path.text
  | savedIndex cards path => "saved card index with " ++ toString cards ++ " cards to " ++ path.text
  | compiling clause => "compiling filter clause " ++ Text.quoted clause
  | resolvedField field =>
    "field '" ++ field.name ++ "' resolved to " ++ field.kind.name ++ " field"
  | classified value cls => "category '" ++ value ++ "' classified as " ++ cls.name
  | foundCard card cubes => "card '" ++ card ++ "' found in " ++ toString cubes ++ " cubes"

end Event

/-- A monad in which events can be told. -/
class Journal (m : Type → Type) where
  note : Event → m Unit

end CubeQuery
