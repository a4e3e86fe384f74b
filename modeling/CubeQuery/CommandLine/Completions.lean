import CubeQuery.CommandLine.Arguments

/-!
# Completions for shells

Short scripts that make a shell complete the names of the commands, in place of
the longer ones of `write_completions`.
-/

namespace CubeQuery

/-- The names of the commands, with spaces between them. -/
def commandNames : String := "compile fields categories index config completions help"

/-- The script that makes a shell complete the names of the commands. -/
def Shell.script : Shell → String
  | bash => "complete -W '" ++ commandNames ++ "' cubefilter\n"
  | zsh => "#compdef cubefilter\n_arguments '1: :(" ++ commandNames ++ ")'\n"
  | fish => "complete -c cubefilter -f -n __fish_use_subcommand -a '" ++ commandNames ++ "'\n"
  | powershell =>
    "Register-ArgumentCompleter -Native -CommandName cubefilter -ScriptBlock \x7b '" ++
      commandNames ++ "'.Split(' ') \x7d\n"

end CubeQuery
