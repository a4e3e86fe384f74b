import CubeQuery.Proofs.CommandLine.Frame
import CubeQuery.Proofs.Settings.Flags
import CubeQuery.Proofs.Settings.Saving

/-!
# Setting keys in several runs

Runs of the program set keys of the settings, each on the files that the one
before left. After any number of runs, each setting is the one that was set
last, or the first one, whatever characters the values have.

* `Settable`: the keys and values that are accepted.
* `Holds.step`: what one run does to the settings that load.
* `Persisted`: what is there after some runs. `SetRuns.persisted`: it is so after any number.
* `settings_persist`: what loads after any number of runs, and how each of them ended.
-/

namespace CubeQuery

open Simulation (Yields)

/-! ## Runs that set a key -/

/-- A run that asks to set a key of the settings in a file. -/
structure SetRun (path : Path) where
  env : Environment
  arguments : List String
  /-- The files that the run starts on. -/
  files : FileTree
  invocation : Invocation
  key : String
  value : String
  place : env.settingsPath? = some path
  accepted : Invocation.ofArguments env arguments = .ok invocation
  asks : invocation.request.command = .changeSetting key value

/-- The path of the card index can be any text, and a colour is a word for a truth value. No
    other key can be set. -/
def Settable (key value : String) : Prop :=
  key = "card_index" ∨ key = "output.color" ∧ (Settings.truthOf? value).isSome = true

/-- Settings with the value of one key set, and the other as it was. -/
def Settings.WithValue (held : Settings) (key value : String) (held' : Settings) : Prop :=
  key = "card_index" ∧ held' = ⟨some value, held.colour⟩ ∨
    key = "output.color" ∧ ∃ b, truthOf? value = some b ∧ held' = ⟨held.cardIndex, some b⟩

theorem Settings.set_of_settable {key value : String} (h : Settable key value)
    (held : Settings) :
    ∃ held', held.set key value = .ok held' ∧ held.WithValue key value held' := by
  rcases h with rfl | ⟨rfl, hsome⟩
  · exact ⟨_, rfl, .inl ⟨rfl, rfl⟩⟩
  · obtain ⟨b, hb⟩ := Option.isSome_iff_exists.mp hsome
    refine ⟨⟨held.cardIndex, some b⟩, ?_, .inr ⟨rfl, b, hb, rfl⟩⟩
    rw [set, if_neg (by decide), if_pos rfl, flagOfWord?_eq_truthOf?, hb]

theorem Settings.set_of_not_settable {key value : String} (h : ¬ Settable key value)
    (held : Settings) : ∃ refusal, held.set key value = .error refusal := by
  obtain ⟨hindex, hcolour⟩ := not_or.mp h
  rw [set, if_neg hindex]
  split_ifs with hkey
  · have hnone : truthOf? value = none := by simpa [hkey] using hcolour
    rw [flagOfWord?_eq_truthOf?, hnone]
    exact ⟨_, rfl⟩
  · exact ⟨_, rfl⟩

namespace SetRun

variable [Wording] {path : Path}

/-- What the run prints, and the files that it leaves. -/
def ending (run : SetRun path) : Output × FileTree := simulate run.env run.arguments run.files

/-- The run ends without a failure. -/
def succeeds (run : SetRun path) : Bool := run.ending.1.exitCode == 0

/-- The path of the card index that the run has set. -/
def cardIndex? (run : SetRun path) : Option String :=
  if run.succeeds = true ∧ run.key = "card_index" then some run.value else none

/-- The colour that the run has set. -/
def colour? (run : SetRun path) : Option Bool :=
  if run.succeeds = true ∧ run.key = "output.color" then Settings.truthOf? run.value else none

/-- The settings after the run. -/
def apply (run : SetRun path) (held : Settings) : Settings :=
  ⟨run.cardIndex?.or held.cardIndex, run.colour?.or held.colour⟩

theorem apply_of_not_succeeds {run : SetRun path} (h : run.succeeds = false) (held : Settings) :
    run.apply held = held := by
  simp [apply, cardIndex?, colour?, h]

theorem apply_of_succeeds {run : SetRun path} (h : run.succeeds = true) {held held' : Settings}
    (hheld' : held.WithValue run.key run.value held') : run.apply held = held' := by
  rcases hheld' with ⟨hkey, rfl⟩ | ⟨hkey, b, hb, rfl⟩
  · simp [apply, cardIndex?, colour?, h, hkey]
  · simp [apply, cardIndex?, colour?, h, hkey, hb]

end SetRun

/-! ## One run -/

/-- The file holds settings, and settings can be saved to it. -/
structure Holds (path : Path) (files : FileTree) (held : Settings) : Prop where
  loads : Yields (Settings.loadFrom path) files (.ok held) files
  saves : Settings.CanSave path files

theorem holds_of_loadFrom {path : Path} {files : FileTree} {held : Settings}
    (hload : ((Settings.loadFrom path : Simulation _) ⟨files, []⟩).1 = .ok held)
    (hsave : Settings.CanSave path files) : Holds path files held := by
  have hloads := (looksOnly_loadFrom path).yields ⟨files, []⟩
  rw [hload] at hloads
  exact ⟨hloads, hsave⟩

namespace Holds

variable [Wording] {path : Path} {run : SetRun path} {held held' : Settings}

theorem ending_of_yields (h : Holds path run.files held) {result : Except Failure Reply}
    {files : FileTree}
    (hchange : Yields (changeSetting path held run.key run.value) run.files result files) :
    run.ending.1.exitCode = resultCode result ∧ run.ending.2 = files := by
  have hsettings : LoadsSettings run.env run.files held := ⟨path, run.place, h.loads.fst⟩
  have hperform : Yields (performWith run.env held run.invocation.request) run.files result
      files := by
    rw [performWith, run.asks]
    exact yields_withSettingsPath run.place hchange
  obtain ⟨hcode, hfiles⟩ := simulate_of_accepted run.files run.accepted
  obtain ⟨hresult, hperformed⟩ := resultOf_of_yields hsettings hperform
  rw [hresult] at hcode
  exact ⟨hcode, hfiles.trans hperformed⟩

/-- A key that is accepted is saved with its value. -/
theorem ending_of_set (h : Holds path run.files held)
    (hset : held.set run.key run.value = .ok held') :
    run.succeeds = true ∧ Holds path run.ending.2 held' ∧
      run.ending.2.readBytes path = .ok held'.written.toUTF8 := by
  obtain ⟨files, hsave, hcan, hread⟩ := h.saves.save held'
  have hchange : Yields (changeSetting path held run.key run.value) run.files
      (.ok (.settingChanged run.key run.value path)) files := by
    rw [changeSetting, hset]
    exact hsave.bind (.pure _)
  obtain ⟨hcode, hfiles⟩ := h.ending_of_yields hchange
  rw [hfiles]
  exact ⟨beq_iff_eq.mpr hcode, ⟨Settings.yields_loadFrom hread, hcan⟩, hread⟩

/-- A key that is refused leaves the files as they are. -/
theorem ending_of_refused (h : Holds path run.files held) {refusal : Settings.Refusal}
    (hset : held.set run.key run.value = .error refusal) :
    run.ending.1.exitCode = 5 ∧ run.ending.2 = run.files := by
  have hchange : Yields (changeSetting path held run.key run.value) run.files
      (.error (.settings (.refused refusal))) run.files := by
    rw [changeSetting, hset]
    exact .pure _
  exact h.ending_of_yields hchange

/-- One run: it succeeds iff its key and value are accepted, and sets only its key. -/
theorem step (h : Holds path run.files held) :
    Holds path run.ending.2 (run.apply held) ∧
      (run.succeeds = true ↔ Settable run.key run.value) ∧
      (run.succeeds = true →
        run.ending.2.readBytes path = .ok (run.apply held).written.toUTF8) ∧
      (run.succeeds = false → run.ending.1.exitCode = 5 ∧ run.ending.2 = run.files) := by
  by_cases hsettable : Settable run.key run.value
  · obtain ⟨held', hset, hheld'⟩ := Settings.set_of_settable hsettable held
    obtain ⟨hsucceeds, hholds, hread⟩ := h.ending_of_set hset
    rw [SetRun.apply_of_succeeds hsucceeds hheld']
    exact ⟨hholds, iff_of_true hsucceeds hsettable, fun _ => hread, by simp [hsucceeds]⟩
  · obtain ⟨refusal, hset⟩ := Settings.set_of_not_settable hsettable held
    obtain ⟨hcode, hfiles⟩ := h.ending_of_refused hset
    have hfails : run.succeeds = false := by simp [SetRun.succeeds, hcode]
    rw [SetRun.apply_of_not_succeeds hfails, hfiles]
    exact ⟨h, iff_of_false (by simp [hfails]) hsettable, by simp [hfails], fun _ => ⟨hcode, rfl⟩⟩

end Holds

/-! ## Any number of runs -/

/-- Runs that set keys, each on the files that the one before left, and the files in the end. -/
inductive SetRuns [Wording] (path : Path) (start : FileTree) : List (SetRun path) → FileTree → Prop
  | nil : SetRuns path start [] start
  | snoc {runs : List (SetRun path)} (run : SetRun path) :
    SetRuns path start runs run.files → SetRuns path start (runs ++ [run]) run.ending.2

/-- How a run ends: it succeeds iff its key and value are accepted, else it leaves the files as
    they were, and it never changes the setting of another key. -/
structure SetRun.Settled [Wording] {path : Path} (run : SetRun path) : Prop where
  succeeds_iff : run.succeeds = true ↔ Settable run.key run.value
  refused : run.succeeds = false → run.ending.1.exitCode = 5 ∧ run.ending.2 = run.files
  others : ∃ held held',
    ((Settings.loadFrom path : Simulation _) ⟨run.files, []⟩).1 = .ok held ∧
      ((Settings.loadFrom path : Simulation _) ⟨run.ending.2, []⟩).1 = .ok held' ∧
      (run.key ≠ "card_index" → held'.cardIndex = held.cardIndex) ∧
      (run.key ≠ "output.color" → held'.colour = held.colour)

theorem Holds.settled [Wording] {path : Path} {run : SetRun path} {held : Settings}
    (h : Holds path run.files held) : run.Settled := by
  obtain ⟨hholds, hiff, -, hrefused⟩ := h.step
  refine ⟨hiff, hrefused, held, run.apply held, h.loads.fst, hholds.loads.fst, ?_, ?_⟩
  · intro hkey
    simp [SetRun.apply, SetRun.cardIndex?, hkey]
  · intro hkey
    simp [SetRun.apply, SetRun.colour?, hkey]

/-- What is there after some runs: the file holds the settings that were set last, or else the
    first ones. -/
structure Persisted [Wording] (path : Path) (first : Settings) (runs : List (SetRun path))
    (files : FileTree) (held : Settings) : Prop where
  loads : ((Settings.loadFrom path : Simulation _) ⟨files, []⟩).1 = .ok held
  cardIndex : held.cardIndex = (runs.filterMap SetRun.cardIndex?).getLast?.or first.cardIndex
  colour : held.colour = (runs.filterMap SetRun.colour?).getLast?.or first.colour
  /-- The settings are shown with the present version. -/
  shown : ∃ members, held.document = .object members ∧ ("version", .int 1) ∈ members
  /-- After a run that succeeded, the file holds the document of the settings, with the present
      version. -/
  written : (∃ run ∈ runs, run.succeeds = true) →
    files.readBytes path = .ok held.written.toUTF8 ∧
      ∃ table, Toml.read held.written = some table ∧ table.lookup "version" = some (.int 1)
  each : ∀ run ∈ runs, run.Settled

theorem getLast?_filterMap_snoc {α β : Type} (f : α → Option β) (xs : List α) (x : α) :
    ((xs ++ [x]).filterMap f).getLast? = (f x).or (xs.filterMap f).getLast? := by
  rw [List.filterMap_append]
  cases h : f x <;> simp [h]

theorem persisted_nil [Wording] {path : Path} {files : FileTree} {first : Settings}
    (h : Holds path files first) : Persisted path first [] files first where
  loads := h.loads.fst
  cardIndex := rfl
  colour := rfl
  shown := ⟨_, rfl, by simp⟩
  written := by simp
  each := by simp

theorem Persisted.snoc [Wording] {path : Path} {first held : Settings} {runs : List (SetRun path)}
    {run : SetRun path} (h : Persisted path first runs run.files held)
    (hholds : Holds path run.files held) :
    Persisted path first (runs ++ [run]) run.ending.2 (run.apply held) := by
  obtain ⟨hholds', -, hwritten, hrefused⟩ := hholds.step
  constructor
  case loads => exact hholds'.loads.fst
  case cardIndex =>
    rw [getLast?_filterMap_snoc, Option.or_assoc, ← h.cardIndex]
    rfl
  case colour =>
    rw [getLast?_filterMap_snoc, Option.or_assoc, ← h.colour]
    rfl
  case shown => exact ⟨_, rfl, by simp⟩
  case written =>
    rintro ⟨run', hrun', hsucceeds⟩
    refine ⟨?_, _, Settings.read_written _, rfl⟩
    cases hlast : run.succeeds with
    | true => exact hwritten hlast
    | false =>
      -- the last run has changed nothing, so another one has succeeded before
      rw [SetRun.apply_of_not_succeeds hlast, (hrefused hlast).2]
      rcases List.mem_append.mp hrun' with hbefore | hsame
      · exact (h.written ⟨run', hbefore, hsucceeds⟩).1
      · rw [List.mem_singleton.mp hsame, hlast] at hsucceeds
        cases hsucceeds
  case each =>
    intro run' hrun'
    rcases List.mem_append.mp hrun' with hbefore | hsame
    · exact h.each run' hbefore
    · rw [List.mem_singleton.mp hsame]
      exact hholds.settled

theorem SetRuns.persisted [Wording] {path : Path} {start files : FileTree} {first : Settings}
    {runs : List (SetRun path)} (hstart : Holds path start first)
    (h : SetRuns path start runs files) :
    ∃ held, Holds path files held ∧ Persisted path first runs files held := by
  induction h with
  | nil => exact ⟨first, hstart, persisted_nil hstart⟩
  | snoc run _ ih =>
    obtain ⟨held, hholds, hpersisted⟩ := ih
    exact ⟨run.apply held, hholds.step.1, hpersisted.snoc hholds⟩

/-- **Settings persist.** Let the settings load from a file, or let there be none, and let all
    settings be saved to it. After any number of runs that set keys, the settings load that were
    set last, as they were given, and each run succeeded iff its key and its value are
    accepted. -/
theorem settings_persist [Wording] {path : Path} {start files : FileTree} {first : Settings}
    {runs : List (SetRun path)}
    (hload : ((Settings.loadFrom path : Simulation _) ⟨start, []⟩).1 = .ok first)
    (hsave : ∀ settings, ((Settings.saveTo path settings : Simulation _) ⟨start, []⟩).1 = .ok ())
    (hruns : SetRuns path start runs files) :
    ∃ held, Persisted path first runs files held := by
  obtain ⟨held, -, hpersisted⟩ := hruns.persisted (holds_of_loadFrom hload hsave)
  exact ⟨held, hpersisted⟩

/-- A path with quotes of both kinds, a backslash, line ends and controls is set, then the
    colour, and then a word is refused. -/
theorem settings_persist_of_three_runs :
    let index := "a\"\"\"b'''\\\n\r\t\x01\x7f\""
    ∃ (runs : List (SetRun ⟨"config.toml"⟩)) (files : FileTree),
      SetRuns ⟨"config.toml"⟩ .empty runs files ∧
      runs.map (fun run => (run.key, run.value, run.ending.1.exitCode)) =
        [("card_index", index, 0), ("output.color", "yEs", 0), ("output.color", "ye", 5)] ∧
      ((Settings.loadFrom ⟨"config.toml"⟩ : Simulation _) ⟨files, []⟩).1 =
        .ok ⟨some index, some true⟩ := by
  intro index
  let env : Environment :=
    ⟨none, some "config.toml", none, none, none, none, none, none, none⟩
  let run (files : FileTree) (key value : String)
      (haccepted : Invocation.ofArguments env ["config", "set", key, value] =
        .ok ⟨⟨.changeSetting key value, none⟩, ⟨false, false, false, false⟩⟩) :
      SetRun ⟨"config.toml"⟩ :=
    ⟨env, _, files, _, key, value, rfl, haccepted, rfl⟩
  let run₁ := run .empty "card_index" "a\"\"\"b'''\\\n\r\t\x01\x7f\"" rfl
  let run₂ := run run₁.ending.2 "output.color" "yEs" rfl
  let run₃ := run run₂.ending.2 "output.color" "ye" rfl
  have hruns : SetRuns ⟨"config.toml"⟩ .empty [run₁, run₂, run₃] run₃.ending.2 :=
    .snoc run₃ (.snoc run₂ (.snoc run₁ .nil))
  have hload : ((Settings.loadFrom ⟨"config.toml"⟩ : Simulation _) ⟨.empty, []⟩).1 =
      .ok Settings.unset := rfl
  obtain ⟨held, h⟩ := settings_persist hload (fun _ => rfl) hruns
  have h₁ : run₁.succeeds = true := (h.each run₁ (by simp)).succeeds_iff.mpr (.inl rfl)
  have h₂ : run₂.succeeds = true :=
    (h.each run₂ (by simp)).succeeds_iff.mpr (.inr ⟨rfl, by decide⟩)
  have h₃ : run₃.succeeds = false := by
    rw [Bool.eq_false_iff, Ne, (h.each run₃ (by simp)).succeeds_iff]
    rintro (hkey | ⟨-, hword⟩)
    · exact absurd hkey (by decide)
    · exact absurd hword (by decide)
  have hcode : ∀ run : SetRun ⟨"config.toml"⟩, run.succeeds = true →
      run.ending.1.exitCode = 0 := fun run hrun => beq_iff_eq.mp hrun
  refine ⟨_, _, hruns, ?_, ?_⟩
  · simp only [List.map_cons, List.map_nil, hcode run₁ h₁, hcode run₂ h₂,
      ((h.each run₃ (by simp)).refused h₃).1]
    rfl
  · have hindex : held.cardIndex = some index := by
      rw [h.cardIndex]
      simp [SetRun.cardIndex?, h₁, h₂, h₃, run₁, run₂, run₃, run, index]
    have hcolour : held.colour = some true := by
      have hyes : Settings.truthOf? "yEs" = some true := by decide
      rw [h.colour]
      simp [SetRun.colour?, h₁, h₂, h₃, run₁, run₂, run₃, run, hyes]
    rw [h.loads, ← hindex, ← hcolour]

end CubeQuery
