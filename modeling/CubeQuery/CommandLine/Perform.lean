import CubeQuery.CommandLine.Arguments
import CubeQuery.Filter
import CubeQuery.Settings.File
import CubeQuery.Store

/-!
# Carrying out commands

A command is carried out in any monad with file operations, and ends with a
reply or a failure. How the outcome is shown has no part in this.
-/

namespace CubeQuery

/-- What a command answers. -/
inductive Reply where
  | compiled (filter : Filter)
  | fields
  | categories
  | cards (index : CardIndex)
  | card (name : String) (cubes : TextSet)
  /-- Cubes were added to a card, which now has `cubes`. -/
  | added (card : String) (count : Nat) (cubes : Option TextSet)
  | removed (card : String) (count : Nat)
  | settings (path : Path) (isPresent : Bool) (settings : Settings)
  | settingsPath (path : Path) (isPresent : Bool)
  | settingsCreated (path : Path) (isNew : Bool)
  | settingChanged (key value : String) (path : Path)
  | completions (shell : Shell)

/-- Why a command failed (`CommandError`). -/
inductive Failure where
  | filter (cause : FilterError)
  | store (cause : StoreError)
  /-- Nothing was there to remove from a card. -/
  | notFound (card : String)
  | settings (cause : SettingsError)
deriving DecidableEq, Repr

namespace Failure

/-- The message for people. -/
def message [Wording] : Failure → String
  | filter cause => "filter error: " ++ cause.message
  | store cause => "card index error: " ++ cause.message
  | notFound card => "card '" ++ card ++ "' has no matching entries in the index"
  | settings cause => "configuration error: " ++ cause.message

/-- The code for programs (`error_code`). -/
def code : Failure → String
  | filter cause => cause.code
  | store _ => "CARD_INDEX_ERROR"
  | notFound _ => "NOT_FOUND"
  | settings _ => "CONFIG_ERROR"

/-- The exit code of the program (`exit_status`). -/
def exitCode : Failure → Nat
  | filter _ => 1
  | notFound _ => 1
  | store _ => 5
  | settings _ => 5

end Failure

/-- The store of a run: the one that is asked for, or else the one in the settings, or else the
    standard one (`card_index_store`). -/
def chooseStore (env : Environment) (settings : Settings) (cards : Option Path) :
    Except StoreError Store :=
  match cards, settings.cardIndex, env.homeDirectory? with
  | some path, _, _ => .ok ⟨path⟩
  | none, some path, _ => .ok ⟨⟨path⟩⟩
  | none, none, some home => .ok (Store.standard home (env.dataHome.map Path.mk))
  | none, none, none => .error .noDataDirectory

/-- The events in planning a clause, in order. -/
def planEvents (text : String) : List Event :=
  .compiling text ::
    match Clause.tokenize text with
    | .error _ => []
    | .ok clause =>
      match Filter.resolveField clause with
      | .error _ => []
      | .ok field =>
        .resolvedField field ::
          match field.kind, Category.classify clause.value with
          | .category, some cls => [.classified clause.value cls]
          | _, _ => []

variable {m : Type → Type} [Monad m] [FileAccess m] [Journal m]

/-- Tells several events. -/
def noteAll : List Event → m Unit
  | [] => pure ()
  | event :: events => do
    Journal.note event
    noteAll events

/-- The cubes of a card in a store, with an event when they are found. -/
def findNoting [Wording] (store : Store) (card : String) : m (Except String TextSet) := do
  match ← store.find card with
  | .error e => pure (.error e.message)
  | .ok cubes => do
    Journal.note (.foundCard card cubes.size)
    pure (.ok cubes)

/-- Runs something with the chosen store (`store`). -/
def withStore {α : Type} (env : Environment) (settings : Settings) (cards : Option Path)
    (user : IndexUser) (action : Store → m (Except Failure α)) : m (Except Failure α) := do
  match chooseStore env settings cards with
  | .error e => pure (.error (.store e))
  | .ok store => do
    Journal.note (.usingIndex user store.path)
    action store

/-- Runs something with the index of a store. -/
def withIndex {α : Type} (store : Store) (action : CardIndex → m (Except Failure α)) :
    m (Except Failure α) := do
  match ← store.loadOrEmpty with
  | .error e => pure (.error (.store e))
  | .ok index => action index

/-- Saves an index, and then gives a reply. -/
def saveThen (store : Store) (index : CardIndex) (reply : Reply) : m (Except Failure Reply) := do
  match ← store.save index with
  | .error e => pure (.error (.store e))
  | .ok () => pure (.ok reply)

/-- Compiles a clause with a store (`execute`). -/
def compileWith [Wording] (store : Store) (clause : String) : m (Except Failure Reply) := do
  noteAll (planEvents clause)
  match ← Filter.compile (findNoting store) clause with
  | .ok filter => pure (.ok (.compiled filter))
  | .error e => pure (.error (.filter e))

/-- Adds cubes to a card (`execute_add`). -/
def addCubes (store : Store) (card : String) (cubes : List String) : m (Except Failure Reply) :=
  withIndex store fun index =>
    let (count, index') := index.insertAll card cubes
    let key := normalName card
    saveThen store index' (.added key count (index'.cubes? key))

/-- Takes cubes from an index: those of a list, or all cubes of a card when the list is
    empty. The number of cubes that were taken comes with the index. -/
def takeCubes (index : CardIndex) (key : String) (cubes : List String) : Nat × CardIndex :=
  if cubes.isEmpty then
    let (taken, index') := index.removeCard key
    ((taken.map TextSet.size).getD 0, index')
  else index.removeAll key cubes

/-- Removes cubes from a card (`execute_remove`). When there is nothing to remove, nothing is
    saved. -/
def removeCubes (store : Store) (card : String) (cubes : List String) :
    m (Except Failure Reply) :=
  withIndex store fun index =>
    let key := normalName card
    let (count, index') := takeCubes index key cubes
    if count = 0 then pure (.error (.notFound key))
    else saveThen store index' (.removed key count)

/-- Runs something with the path of the settings. -/
def withSettingsPath {α : Type} (env : Environment) (action : Path → m (Except Failure α)) :
    m (Except Failure α) :=
  match env.settingsPath? with
  | none => pure (.error (.settings .noPlace))
  | some path => action path

/-- Changes a setting and saves the settings (`execute_set`). -/
def changeSetting (path : Path) (settings : Settings) (key value : String) :
    m (Except Failure Reply) := do
  match settings.set key value with
  | .error refusal => pure (.error (.settings (.refused refusal)))
  | .ok settings' =>
    match ← Settings.saveTo path settings' with
    | .error e => pure (.error (.settings e))
    | .ok () => pure (.ok (.settingChanged key value path))

/-- Writes settings for a start (`execute_init`). -/
def createSettings (path : Path) : m (Except Failure Reply) := do
  match ← Settings.createAt path with
  | .error e => pure (.error (.settings e))
  | .ok isNew => pure (.ok (.settingsCreated path isNew))

/-- Carries out a request with settings that have been loaded. -/
def performWith [Wording] (env : Environment) (settings : Settings) (request : Request) :
    m (Except Failure Reply) :=
  match request.command with
  | .compile clause =>
    withStore env settings request.cards .compile fun store => compileWith store clause
  | .fields => pure (.ok .fields)
  | .categories => pure (.ok .categories)
  | .listCards =>
    withStore env settings request.cards .index fun store =>
      withIndex store fun index => pure (.ok (.cards index))
  | .showCard card =>
    withStore env settings request.cards .index fun store =>
      withIndex store fun index =>
        pure (.ok (.card (normalName card) (index.cubes (normalName card))))
  | .addCubes card cubes =>
    withStore env settings request.cards .index fun store => addCubes store card cubes
  | .removeCubes card cubes =>
    withStore env settings request.cards .index fun store => removeCubes store card cubes
  | .showSettings =>
    withSettingsPath env fun path => do
      let isPresent ← FileAccess.isPresent path
      pure (.ok (.settings path isPresent settings))
  | .showSettingsPath =>
    withSettingsPath env fun path => do
      let isPresent ← FileAccess.isPresent path
      pure (.ok (.settingsPath path isPresent))
  | .createSettings => withSettingsPath env createSettings
  | .changeSetting key value =>
    withSettingsPath env fun path => changeSetting path settings key value
  | .completions shell => pure (.ok (.completions shell))

/-- What comes of a request. -/
structure Outcome where
  /-- Whether the settings ask for colours. -/
  colour : Bool
  result : Except Failure Reply

/-- Carries out a request (`run`). The settings are loaded first, whatever the command is. -/
def perform [Wording] (env : Environment) (request : Request) : m Outcome := do
  let loaded ← withSettingsPath env fun path => do
    match ← Settings.loadFrom path with
    | .error e => pure (.error (.settings e))
    | .ok settings => pure (.ok settings)
  match loaded with
  | .error failure => pure ⟨true, .error failure⟩
  | .ok settings => do
    let result ← performWith env settings request
    pure ⟨settings.colour.getD true, result⟩

end CubeQuery
