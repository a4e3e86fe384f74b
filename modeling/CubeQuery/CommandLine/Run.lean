import CubeQuery.CommandLine.Log
import CubeQuery.CommandLine.Report
import CubeQuery.World

/-!
# Runs of the program

A run reads the arguments, carries out the command and prints the outcome. Here
it takes place in a model world, where all of it is a function of the arguments,
the environment and the files.
-/

namespace CubeQuery

/-- Runs the program in a world with these files: what it prints, and the files afterwards
    (`main`). -/
def simulate [Wording] (env : Environment) (arguments : List String) (files : FileTree) :
    Output × FileTree :=
  match Invocation.ofArguments env arguments with
  | .error stop => (stop.output, files)
  | .ok invocation =>
    let (outcome, world) := (perform env invocation.request : Simulation Outcome) ⟨files, []⟩
    let log := LogFilter.ofRun env invocation.presentation
    let output := outcome.output invocation.presentation
    (⟨output.exitCode, output.stdout, log.warnings ++ log.lines world.events ++ output.stderr⟩,
      world.files)

end CubeQuery
