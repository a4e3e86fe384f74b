import CubeQuery.CardIndex.Document
import CubeQuery.Event
import CubeQuery.Files.Access
import CubeQuery.Wording

/-!
# Kept card indexes

A store keeps a card index in a file. A save writes a second file first and
then gives it the name of the store, so that the store's file holds either the
old index or the new one.
-/

namespace CubeQuery

/-- Why a store could not answer (`CardIndexError`). -/
inductive StoreError where
  /-- It is not known where to keep data. -/
  | noDataDirectory
  | unreadable (path : Path) (cause : FileError)
  | unwritable (path : Path) (cause : FileError)
  /-- The directory of the store could not be made. -/
  | noDirectory (path : Path) (cause : FileError)
  | badDocument (fault : Json.Fault)
deriving DecidableEq, Repr

/-- The message for people. -/
def StoreError.message [Wording] : StoreError → String
  | noDataDirectory => "failed to determine data directory: no valid home directory found"
  | unreadable path cause => "failed to read card index '" ++ path.text ++ "': " ++ cause.message
  | unwritable path cause => "failed to write card index '" ++ path.text ++ "': " ++ cause.message
  | noDirectory path cause =>
    "failed to create data directory '" ++ path.text ++ "': " ++ cause.message
  | badDocument fault => "JSON error: " ++ Wording.ofIndex fault

/-- A place for a card index (`CardIndexStore`). -/
structure Store where
  path : Path
deriving DecidableEq, Repr

namespace Store

/-- The directory for data below a home directory. A directory that is set explicitly
    counts only if it is absolute. -/
def dataDirectory (home : Path) (explicit : Option Path) : Path :=
  match explicit with
  | some path => if path.isAbsolute then path else (home.join ".local").join "share"
  | none => (home.join ".local").join "share"

/-- The store that is used when none is named (`default_path`). -/
def standard (home : Path) (explicit : Option Path) : Store :=
  ⟨((dataDirectory home explicit).join "cubefilter").join "card_index.json"⟩

/-- The path that a save writes first. -/
def scratchPath (store : Store) : Path := store.path.withExtension "tmp"

variable {m : Type → Type} [Monad m] [FileAccess m]

/-- Whether there is something at the store's path (`exists`). -/
def isPresent (store : Store) : m Bool := FileAccess.isPresent store.path

/-- Loads the index, with an event when that succeeds (`load`). -/
def load [Journal m] (store : Store) : m (Except StoreError CardIndex) := do
  match ← FileAccess.readText store.path with
  | .error cause => pure (.error (.unreadable store.path cause))
  | .ok text =>
    match CardIndex.read text with
    | .error fault => pure (.error (.badDocument fault))
    | .ok index => do
      Journal.note (.loadedIndex index.size store.path)
      pure (.ok index)

/-- Loads the index (`load_or_default`). A store without a file holds the empty index. -/
def loadOrEmpty [Journal m] (store : Store) : m (Except StoreError CardIndex) := do
  match ← store.load with
  | .error (.unreadable _ .notFound) => do
    Journal.note (.noIndex store.path)
    pure (.ok .empty)
  | result => pure result

/-- Makes the directory that holds the store's file. -/
def makeRoom (store : Store) : m (Except StoreError Unit) := do
  match store.path.parent? with
  | none => pure (.ok ())
  | some directory =>
    match ← FileAccess.makeDirectories directory with
    | .ok () => pure (.ok ())
    | .error cause => pure (.error (.noDirectory directory cause))

/-- Writes a text beside the store's file and puts it in the file's place. -/
def replace (store : Store) (text : String) : m (Except StoreError Unit) := do
  match ← FileAccess.writeText store.scratchPath text with
  | .error cause => pure (.error (.unwritable store.scratchPath cause))
  | .ok () =>
    match ← FileAccess.rename store.scratchPath store.path with
    | .error cause => pure (.error (.unwritable store.path cause))
    | .ok () => pure (.ok ())

/-- Saves the index (`save`). -/
def save [Journal m] (store : Store) (index : CardIndex) : m (Except StoreError Unit) := do
  match ← store.makeRoom with
  | .error e => pure (.error e)
  | .ok () =>
    match ← store.replace index.written with
    | .error e => pure (.error e)
    | .ok () => do
      Journal.note (.savedIndex index.size store.path)
      pure (.ok ())

/-- The cubes of a card (`find_cubes_containing_card`). The file is read anew for every card. -/
def find [Journal m] (store : Store) (card : String) : m (Except StoreError TextSet) := do
  match ← store.loadOrEmpty with
  | .error e => pure (.error e)
  | .ok index => pure (.ok (index.cubes card))

end Store

end CubeQuery
