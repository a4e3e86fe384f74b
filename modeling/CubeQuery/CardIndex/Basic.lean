import CubeQuery.Text.Blank
import CubeQuery.Text.Case
import CubeQuery.Text.Keyed
import CubeQuery.Text.Set

/-!
# The card index

A card index says which cubes contain a card. Cards are known by a normal form
of their name, so that case and blanks around a name do not matter. A card that
is in no cube has no entry.
-/

namespace CubeQuery

/-- The form of a card's name under which it is indexed: trimmed and in lower case
    (`normalize_card_name`). -/
def normalName (name : String) : String :=
  String.ofList (Text.lower (Text.trim name.toList))

/-- The cubes of each card, by the normal form of its name in ascending order
    (`InMemoryCardIndex`). -/
structure CardIndex where
  entries : List (String × TextSet)
deriving DecidableEq

namespace CardIndex

/-- The index without cards (`new`). -/
def empty : CardIndex := ⟨[]⟩

instance : Inhabited CardIndex := ⟨empty⟩

/-- The cubes of a card, if it is indexed (`cubes_for`). -/
def cubes? (index : CardIndex) (card : String) : Option TextSet :=
  Keyed.find? (normalName card) index.entries

/-- The cubes of a card (`find_cubes_containing_card`). A card that is not indexed is in none. -/
def cubes (index : CardIndex) (card : String) : TextSet := (index.cubes? card).getD .empty

/-- The number of cards (`len`). -/
def size (index : CardIndex) : Nat := index.entries.length

/-- Whether no card is indexed (`is_empty`). -/
def isEmpty (index : CardIndex) : Bool := index.entries.isEmpty

/-- Records that a cube contains a card (`insert`). The flag says whether this is new. -/
def insert (index : CardIndex) (card cube : String) : Bool × CardIndex :=
  let known := index.cubes card
  (!known.contains cube, ⟨Keyed.put (normalName card) (known.insert cube) index.entries⟩)

/-- Takes a cube from a card, and the card from the index with its last cube (`remove`). The flag
    says whether the cube was recorded. -/
def remove (index : CardIndex) (card cube : String) : Bool × CardIndex :=
  match index.cubes? card with
  | none => (false, index)
  | some known =>
    let left := known.erase cube
    (known.contains cube,
      if left.isEmpty then ⟨Keyed.erase (normalName card) index.entries⟩
      else ⟨Keyed.put (normalName card) left index.entries⟩)

/-- Takes a card from the index, with the cubes that it had (`remove_card`). -/
def removeCard (index : CardIndex) (card : String) : Option TextSet × CardIndex :=
  (index.cubes? card, ⟨Keyed.erase (normalName card) index.entries⟩)

/-- Records several cubes of a card, with the number of those that are new. -/
def insertAll (index : CardIndex) (card : String) (cubes : List String) : Nat × CardIndex :=
  cubes.foldl
    (fun (count, index) cube =>
      let (isNew, index) := index.insert card cube
      (count + isNew.toNat, index))
    (0, index)

/-- Takes several cubes from a card, with the number of those that were recorded. -/
def removeAll (index : CardIndex) (card : String) (cubes : List String) : Nat × CardIndex :=
  cubes.foldl
    (fun (count, index) cube =>
      let (wasThere, index) := index.remove card cube
      (count + wasThere.toNat, index))
    (0, index)

/-- The index with several cubes of a card (`with_card`). -/
def withCard (index : CardIndex) (card : String) (cubes : List String) : CardIndex :=
  (index.insertAll card cubes).2

/-- Adds cubes to an entry under the normal form of a name. No cubes change nothing. -/
def absorb (index : CardIndex) (name : String) (cubes : TextSet) : CardIndex :=
  if cubes.isEmpty then index
  else ⟨Keyed.put (normalName name) ((index.cubes name).union cubes) index.entries⟩

/-- The index of entries under any names (`normalize`). Entries of one card are joined, and
    entries without cubes are left out. -/
def ofNamed (entries : List (String × TextSet)) : CardIndex :=
  entries.foldl (fun index (name, cubes) => index.absorb name cubes) empty

/-- The index of a list of entries, where a later entry replaces an earlier one of
    exactly the same name. -/
def ofListed (listed : List (String × List String)) : CardIndex :=
  ofNamed (listed.foldl (fun acc (name, cubes) => Keyed.put name (TextSet.ofList cubes) acc) [])

end CardIndex

end CubeQuery
