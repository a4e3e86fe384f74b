import CubeQuery.Event
import CubeQuery.Files.Tree

/-!
# Runs in a model world

A world is a tree of files and the events that have been told. Programs over
`FileAccess` and `Journal` run in it without effects outside.
-/

namespace CubeQuery

/-- The state of a model run. -/
structure World where
  files : FileTree
  /-- The events, the oldest first. -/
  events : List Event

instance : Inhabited World := ⟨⟨.empty, []⟩⟩

/-- A program that runs in a world. -/
abbrev Simulation := StateM World

namespace Simulation

/-- Applies an operation on files that can fail. A failure changes nothing. -/
def change (operation : FileTree → Except FileError FileTree) :
    Simulation (Except FileError Unit) := fun world =>
  match operation world.files with
  | .ok files => (.ok (), ⟨files, world.events⟩)
  | .error e => (.error e, world)

instance : FileAccess Simulation where
  isPresent path := fun world => (world.files.isPresent path, world)
  isDirectory path := fun world => (world.files.isDirectory path, world)
  readBytes path := fun world => (world.files.readBytes path, world)
  writeBytes path content := change (·.writeBytes path content)
  makeDirectory path := change (·.makeDirectory path)
  rename source target := change (·.rename source target)

instance : Journal Simulation where
  note event := fun world => ((), ⟨world.files, world.events ++ [event]⟩)

end Simulation

end CubeQuery
