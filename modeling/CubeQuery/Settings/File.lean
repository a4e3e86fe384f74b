import CubeQuery.Environment
import CubeQuery.Event
import CubeQuery.Files.Access
import CubeQuery.Settings.Document
import CubeQuery.Wording

/-!
# The settings file

Loading and saving the settings. A file that is missing leaves everything unset.
-/

namespace CubeQuery

/-- Why the settings could not be used. -/
inductive SettingsError where
  /-- It is not known where the settings are. -/
  | noPlace
  | unreadable (cause : FileError)
  | malformed
  | noDirectory (cause : FileError)
  | unwritable (cause : FileError)
  | notCreated (cause : FileError)
  | refused (refusal : Settings.Refusal)
deriving DecidableEq, Repr

/-- The message for people. -/
def SettingsError.message [Wording] : SettingsError → String
  | noPlace => "Could not determine config directory"
  | unreadable cause => "Failed to read config: " ++ cause.message
  | malformed => "Failed to parse config: " ++ Wording.ofSettings
  | noDirectory cause => "Failed to create config directory: " ++ cause.message
  | unwritable cause => "Failed to write config: " ++ cause.message
  | notCreated cause => "Failed to create config file: " ++ cause.message
  | refused refusal => refusal.message

namespace Settings

variable {m : Type → Type} [Monad m] [FileAccess m]

/-- Loads the settings from a file (`load_config`). -/
def loadFrom [Journal m] (path : Path) : m (Except SettingsError Settings) := do
  if ← FileAccess.isPresent path then
    match ← FileAccess.readText path with
    | .error cause => pure (.error (.unreadable cause))
    | .ok document =>
      match read? document with
      | none => pure (.error .malformed)
      | some settings => do
        Journal.note (.loadedSettings path)
        pure (.ok settings)
  else do
    Journal.note (.noSettings path)
    pure (.ok unset)

/-- Makes the directory that holds a settings file. -/
def makeRoom (path : Path) : m (Except SettingsError Unit) := do
  match path.parent? with
  | none => pure (.ok ())
  | some directory =>
    match ← FileAccess.makeDirectories directory with
    | .ok () => pure (.ok ())
    | .error cause => pure (.error (.noDirectory cause))

/-- Writes a document to a settings file, with a reason of its own if that fails. -/
def writeTo (path : Path) (document : String) (reason : FileError → SettingsError) :
    m (Except SettingsError Unit) := do
  match ← makeRoom path with
  | .error e => pure (.error e)
  | .ok () =>
    match ← FileAccess.writeText path document with
    | .ok () => pure (.ok ())
    | .error cause => pure (.error (reason cause))

/-- Saves the settings to a file (`save_config`). -/
def saveTo (path : Path) (settings : Settings) : m (Except SettingsError Unit) :=
  writeTo path settings.written .unwritable

/-- Writes a document for a start to a file, unless something is there (`execute_init`). The flag
    says whether it was written. -/
def createAt (path : Path) : m (Except SettingsError Bool) := do
  if ← FileAccess.isPresent path then pure (.ok false)
  else
    match ← writeTo path template .notCreated with
    | .ok () => pure (.ok true)
    | .error e => pure (.error e)

end Settings

end CubeQuery
