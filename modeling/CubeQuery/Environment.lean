import CubeQuery.Files.Path

/-!
# The environment of a run

The variables of the environment that the program looks at, and the paths that
follow from them.
-/

namespace CubeQuery

/-- The variables that the program looks at. A variable that is not set is `none`. -/
structure Environment where
  /-- The home directory. -/
  home : Option String
  /-- The file of the settings. -/
  settingsFile : Option String
  /-- The directory for the settings of programs. -/
  configHome : Option String
  /-- The directory for the data of programs. -/
  dataHome : Option String
  /-- The file of the card index. -/
  cards : Option String
  /-- The specification of what is logged. -/
  logging : Option String
  /-- Whether the log is coloured. -/
  logStyle : Option String
  /-- A wish for no colours. -/
  noColour : Option String
  /-- A wish for colours everywhere. -/
  forceColour : Option String
deriving DecidableEq, Repr

namespace Environment

/-- The home directory, if it is known. -/
def homeDirectory? (env : Environment) : Option Path :=
  (env.home.filter (!·.isEmpty)).map Path.mk

/-- The file of the settings in a directory for settings. -/
def settingsIn (directory : Path) : Path := (directory.join "cubefilter").join "config.toml"

/-- The file of the settings: the one that is named, or else the one in the directory for
    settings that is named, or else the one below the home directory (`get_config_path`). -/
def settingsPath? (env : Environment) : Option Path :=
  match env.settingsFile, env.configHome with
  | some file, _ => some ⟨file⟩
  | none, some directory => some (settingsIn ⟨directory⟩)
  | none, none => env.homeDirectory?.map fun home => settingsIn (home.join ".config")

/-- Whether a variable is set to something. -/
def isGiven (value : Option String) : Bool := value.any (!·.isEmpty)

/-- Whether the log is coloured. Unless its style is set, it is when colours are wished for
    and not declined. -/
def hasColouredLog (env : Environment) : Bool :=
  match env.logStyle with
  | some "always" => true
  | some "never" => false
  | _ => !isGiven env.noColour && isGiven env.forceColour

end Environment

end CubeQuery
