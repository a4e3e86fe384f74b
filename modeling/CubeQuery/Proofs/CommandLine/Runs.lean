import CubeQuery.CommandLine.Run
import CubeQuery.Proofs.Store.Saving

/-!
# Runs with a store

A `Run` is a run of the program that gets as far as its command: the arguments
are accepted, the settings load, and they lead to a store.

* `Run.endsWith_of_yields`: the run ends with what its command yields.
* `yields_withStore`, `yields_withIndex`: commands on the store and on its index.
-/

namespace CubeQuery

open Simulation (Yields LooksOnly)

/-- A run whose arguments are accepted and whose settings load, and the store that they
    lead to. -/
structure Run where
  env : Environment
  arguments : List String
  /-- The files that the run starts on. -/
  files : FileTree
  invocation : Invocation
  settings : Settings
  store : Store
  accepted : Invocation.ofArguments env arguments = .ok invocation
  configured : ∃ path, env.settingsPath? = some path ∧
    ((Settings.loadFrom path : Simulation _) ⟨files, []⟩).1 = .ok settings
  chosen : chooseStore env settings invocation.request.cards = .ok store

theorem looksOnly_loadFrom (path : Path) : LooksOnly (Settings.loadFrom path) := by
  refine .bind (FileAccess.looksOnly_isPresent path) fun isPresent => ?_
  split
  · refine .bind (FileAccess.looksOnly_readText path) fun result => ?_
    split
    · exact .pure _
    · split
      · exact .pure _
      · exact .bind (.note _) fun _ => .pure _
  · exact .bind (.note _) fun _ => .pure _

namespace Run

variable [Wording]

/-- The command that the run carries out. -/
def command (run : Run) : Command := run.invocation.request.command

/-- What the run prints, and the files that it leaves. -/
def ending (run : Run) : Output × FileTree := simulate run.env run.arguments run.files

/-- The run prints what is to be printed for a result, with a log before the errors, and leaves
    some files. -/
def EndsWith (run : Run) (result : Except Failure Reply) (files : FileTree) : Prop :=
  let output := Outcome.output run.invocation.presentation
    ⟨run.settings.colour.getD true, result⟩
  ∃ log, run.ending = (⟨output.exitCode, output.stdout, log ++ output.stderr⟩, files)

theorem EndsWith.files_eq {run : Run} {result : Except Failure Reply} {files : FileTree}
    (h : run.EndsWith result files) : run.ending.2 = files := by
  obtain ⟨log, h⟩ := h
  rw [h]

theorem EndsWith.exitCode_of_ok {run : Run} {reply : Reply} {files : FileTree}
    (h : run.EndsWith (.ok reply) files) : run.ending.1.exitCode = 0 := by
  obtain ⟨log, h⟩ := h
  rw [h]
  rfl

theorem EndsWith.exitCode_of_error {run : Run} {failure : Failure} {files : FileTree}
    (h : run.EndsWith (.error failure) files) : run.ending.1.exitCode = failure.exitCode := by
  obtain ⟨log, h⟩ := h
  rw [h]
  show (failure.output run.invocation.presentation).exitCode = failure.exitCode
  unfold Failure.output
  split_ifs
  · cases failure <;> rfl
  · rfl

theorem yields_perform (run : Run) {result : Except Failure Reply} {files : FileTree}
    (h : Yields (performWith run.env run.settings run.invocation.request) run.files result files) :
    Yields (perform run.env run.invocation.request) run.files
      ⟨run.settings.colour.getD true, result⟩ files := by
  obtain ⟨path, hpath, hload⟩ := run.configured
  have hloaded := (looksOnly_loadFrom path).yields ⟨run.files, []⟩
  rw [hload] at hloaded
  refine Yields.bind (a := .ok run.settings) (?_ : Yields _ run.files _ run.files) ?_
  · rw [withSettingsPath, hpath]
    exact hloaded.bind (.pure _)
  · exact Yields.bind (a := result) h (.pure _)

/-- A run ends with what its command yields. -/
theorem endsWith_of_yields {run : Run} {command : Command} (hcommand : run.command = command)
    {result : Except Failure Reply} {files : FileTree}
    (h : Yields (performWith run.env run.settings ⟨command, run.invocation.request.cards⟩)
      run.files result files) :
    run.EndsWith result files := by
  subst hcommand
  obtain ⟨events, hrun⟩ := run.yields_perform h []
  refine ⟨(LogFilter.ofRun run.env run.invocation.presentation).warnings ++
    (LogFilter.ofRun run.env run.invocation.presentation).lines events, ?_⟩
  rw [ending, simulate, run.accepted]
  simp only [hrun]

end Run

/-! ## Commands on a store -/

theorem yields_withStore {α : Type} {env : Environment} {settings : Settings}
    {cards : Option Path} {user : IndexUser} {action : Store → Simulation (Except Failure α)}
    {store : Store} {files files' : FileTree} {result : Except Failure α}
    (hstore : chooseStore env settings cards = .ok store)
    (h : Yields (action store) files result files') :
    Yields (withStore env settings cards user action) files result files' := by
  rw [withStore, hstore]
  exact (Yields.note _).bind h

theorem yields_withIndex {α : Type} {action : CardIndex → Simulation (Except Failure α)}
    {store : Store} {index : CardIndex} {files files' : FileTree} {result : Except Failure α}
    (hload : Yields store.loadOrEmpty files (.ok index) files)
    (h : Yields (action index) files result files') :
    Yields (withIndex store action) files result files' :=
  hload.bind h

theorem yields_noteAll (events : List Event) (files : FileTree) :
    Yields (noteAll events) files () files := by
  induction events with
  | nil => exact .pure ()
  | cons event events ih => exact (Yields.note event).bind ih

end CubeQuery
