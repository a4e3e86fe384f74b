import CubeQuery.CommandLine.Run

/-!
# The program

The outer layer of the program: the environment, the files and the streams of
the system.

Where a definition stands for a function of `cubefilter` or of its library
`cube_filter`, its docstring ends a sentence with the function's name in
parentheses.
-/

namespace CubeQuery

/-- Why the system refused a file operation. -/
def FileError.ofSystem (e : IO.Error) : FileError :=
  match e with
  | .noFileOrDirectory .. => .notFound
  | .alreadyExists .. => .alreadyExists
  | .inappropriateType _ code _ => if code = 21 then .isDirectory else .notDirectory
  | .resourceBusy .. => .busy
  | e => .system e.toString

/-- A program that runs in the system, with the filter for its log. -/
abbrev Live := ReaderT LogFilter IO

namespace Live

/-- Tries an operation of the system. -/
def attempt {α : Type} (action : IO α) : Live (Except FileError α) := fun _ => do
  try
    return .ok (← action)
  catch e =>
    return .error (FileError.ofSystem e)

/-- Whether a name leads to something, be it readable or not. -/
def leadsSomewhere (name : String) : Live Bool := do
  match ← attempt (IO.FS.realPath name) with
  | .ok _ => return true
  | .error _ => return false

instance : FileAccess Live where
  isPresent path := leadsSomewhere path.text
  -- a slash at its end makes a name that of a directory
  isDirectory path :=
    if path.text.isEmpty then pure false else leadsSomewhere (path.text ++ "/")
  readBytes path := attempt (IO.FS.readBinFile path.text)
  writeBytes path content := attempt (IO.FS.writeBinFile path.text content)
  makeDirectory path := attempt (IO.FS.createDir path.text)
  rename source target := attempt (IO.FS.rename source.text target.text)

instance : Journal Live where
  note event := fun log => do
    if log.shows event then IO.eprint (log.lineOf event)

end Live

/-- The environment of the process. -/
def Environment.ofProcess : IO Environment := do
  return ⟨← IO.getEnv "HOME", ← IO.getEnv "CUBEFILTER_CONFIG", ← IO.getEnv "XDG_CONFIG_HOME",
    ← IO.getEnv "XDG_DATA_HOME", ← IO.getEnv "CUBEFILTER_CARDS", ← IO.getEnv "RUST_LOG",
    ← IO.getEnv "RUST_LOG_STYLE", ← IO.getEnv "NO_COLOR", ← IO.getEnv "CLICOLOR_FORCE"⟩

/-- Prints an output and gives its exit code. -/
def Output.print (output : Output) : IO UInt32 := do
  IO.print output.stdout
  IO.eprint output.stderr
  return output.exitCode.toUInt32

/-- Runs the program in the system. -/
def runLive (arguments : List String) : IO UInt32 := do
  let env ← Environment.ofProcess
  match Invocation.ofArguments env arguments with
  | .error stop => stop.output.print
  | .ok invocation => do
    let log := LogFilter.ofRun env invocation.presentation
    IO.eprint log.warnings
    let outcome ← (perform env invocation.request : Live Outcome).run log
    (outcome.output invocation.presentation).print

end CubeQuery

/-- Runs the program. -/
def main (arguments : List String) : IO UInt32 := CubeQuery.runLive arguments
