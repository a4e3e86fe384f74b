import CubeQuery.Proofs.CommandLine.Frame
import CubeQuery.Proofs.Files.Twins
import CubeQuery.Proofs.Settings.Distinct
import CubeQuery.Proofs.Settings.Saving

/-!
# Presentation and effects

How an outcome is shown has no part in what a run does. That holds of the flags
of a run, and of the colour setting: two runs whose settings differ in the colour
alone end with one exit code and do the same to the files.

* `pairs_loadOrEmpty`: an index is loaded alike, and never from the settings file.
* `pairs_performWith`: every command does the same on trees that differ in one content.
* `presentation_spares_effects`: flags and colours have no part in effects.
-/

namespace CubeQuery

open FileTree (Twins)
open Simulation (Agree Pairs)

variable {place : FileTree.Place} {text text' : String}

/-- Two trees that differ at most in the text of one file. -/
abbrev TextTwins (place : FileTree.Place) (text text' : String) : FileTree → FileTree → Prop :=
  Twins place text.toUTF8 text'.toUTF8

/-! ## Saving -/

namespace Store

theorem agree_makeRoom (store : Store) :
    Agree (TextTwins place text text') store.makeRoom store.makeRoom := by
  rw [makeRoom]
  split
  · exact .pure _
  · refine (Simulation.agree_makeInnermost _).bind fun result => ?_
    split <;> exact Agree.pure _

/-- What is written first is the same in both trees, so it is moved alike. -/
theorem agree_replace (store : Store) (new : String) :
    Agree (TextTwins place text text') (store.replace new) (store.replace new) := by
  refine (Simulation.pairs_writeText store.scratchPath new).bind fun result result' => .assume ?_
  rintro rfl
  cases result' with
  | error cause => exact .pure fun _ _ h => ⟨rfl, h.1⟩
  | ok done =>
    refine ((Simulation.pairs_rename store.scratchPath store.path).mono
      fun tree tree' h => ⟨h.1, h.2 rfl⟩).bind fun result result' => .assume ?_
    rintro rfl
    cases result' <;> exact .pure fun _ _ htwins => ⟨rfl, htwins⟩

theorem agree_save (store : Store) (index : CardIndex) :
    Agree (TextTwins place text text') (store.save index) (store.save index) := by
  refine (agree_makeRoom store).bind fun result => ?_
  split
  · exact Agree.pure _
  · refine (agree_replace store index.written).bind fun result' => ?_
    split
    · exact Agree.pure _
    · exact (Agree.note _ _).bind fun _ => Agree.pure _

end Store

/-! ## Loading -/

/-- The results are the same, or failures for perhaps different reasons. -/
def Alike {ε α : Type} (result result' : Except ε α) : Prop :=
  result' = result ∨ ∃ e e', result = .error e ∧ result' = .error e'

/-- The text is not the document of an index. -/
def IsNoIndex (text : String) : Prop := ∀ index, CardIndex.read text ≠ .ok index

theorem isNoIndex_of_read? {settings : Settings} (h : Settings.read? text = some settings) :
    IsNoIndex text := by
  intro index hindex
  rw [Settings.read?_eq_none_of_read hindex] at h
  cases h

/-- A text is read alike, unless it is the one in which the trees differ. -/
theorem pairs_readText (path : Path) :
    Pairs (TextTwins place text text') (FileAccess.readText path) (FileAccess.readText path)
      fun result result' tree tree' =>
        (result' = result ∨ result = .ok text ∧ result' = .ok text') ∧
          TextTwins place text text' tree tree' := by
  have hbytes : Pairs (TextTwins place text text') (FileAccess.readBytes path)
      (FileAccess.readBytes path) fun result result' tree tree' =>
        (result' = result ∨ result = .ok text.toUTF8 ∧ result' = .ok text'.toUTF8) ∧
          TextTwins place text text' tree tree' :=
    fun _ _ htwins => ⟨htwins.readBytes path, htwins⟩
  refine hbytes.bind fun result result' => .assume ?_
  rintro (rfl | ⟨rfl, rfl⟩)
  · cases result' with
    | error e => exact .pure fun _ _ htwins => ⟨.inl rfl, htwins⟩
    | ok bytes =>
      dsimp only
      split <;> exact .pure fun _ _ htwins => ⟨.inl rfl, htwins⟩
  · simp only [FileAccess.fromUTF8?_toUTF8]
    exact .pure fun _ _ htwins => ⟨.inr ⟨rfl, rfl⟩, htwins⟩

namespace Store

/-- An index is loaded alike. From the file in which the trees differ, none is loaded. -/
theorem pairs_load (store : Store) (htext : IsNoIndex text) (htext' : IsNoIndex text') :
    Pairs (TextTwins place text text') store.load store.load fun result result' tree tree' =>
      (result' = result ∨ ∃ fault fault',
        result = .error (.badDocument fault) ∧ result' = .error (.badDocument fault')) ∧
        TextTwins place text text' tree tree' := by
  have hfault : ∀ {document : String}, IsNoIndex document →
      ∃ fault, CardIndex.read document = .error fault := by
    intro document h
    cases hread : CardIndex.read document with
    | error fault => exact ⟨fault, rfl⟩
    | ok index => exact absurd hread (h index)
  obtain ⟨fault, hread⟩ := hfault htext
  obtain ⟨fault', hread'⟩ := hfault htext'
  refine (pairs_readText store.path).bind fun result result' => .assume ?_
  rintro (rfl | ⟨rfl, rfl⟩)
  · cases result' with
    | error cause => exact .pure fun _ _ htwins => ⟨.inl rfl, htwins⟩
    | ok document =>
      dsimp only
      split
      · exact .pure fun _ _ htwins => ⟨.inl rfl, htwins⟩
      · refine (Agree.note _ _).bind fun _ => ?_
        exact .pure fun _ _ htwins => ⟨.inl rfl, htwins⟩
  · simp only [hread, hread']
    exact .pure fun _ _ htwins => ⟨.inr ⟨fault, fault', rfl, rfl⟩, htwins⟩

theorem pairs_loadOrEmpty (store : Store) (htext : IsNoIndex text) (htext' : IsNoIndex text') :
    Pairs (TextTwins place text text') store.loadOrEmpty store.loadOrEmpty
      fun result result' tree tree' =>
        Alike result result' ∧ TextTwins place text text' tree tree' := by
  refine (pairs_load store htext htext').bind fun result result' => .assume ?_
  rintro (rfl | ⟨fault, fault', rfl, rfl⟩)
  · split
    · refine (Agree.note _ _).bind fun _ => ?_
      exact .pure fun _ _ htwins => ⟨.inl rfl, htwins⟩
    · exact .pure fun _ _ htwins => ⟨.inl rfl, htwins⟩
  · exact .pure fun _ _ htwins => ⟨.inr ⟨_, _, rfl, rfl⟩, htwins⟩

end Store

/-! ## Commands -/

/-- The results have one exit code, and the trees differ at most in one text. -/
def EndAlike (place : FileTree.Place) (text text' : String) (result result' : Except Failure Reply)
    (tree tree' : FileTree) : Prop :=
  resultCode result' = resultCode result ∧ TextTwins place text text' tree tree'

theorem endAlike_of_agree {x x' : Simulation (Except Failure Reply)}
    (h : Agree (TextTwins place text text') x x') :
    Pairs (TextTwins place text text') x x' (EndAlike place text text') := by
  intro world world' htwins
  obtain ⟨hsame, htwins'⟩ := h world world' htwins
  exact ⟨congrArg resultCode hsame, htwins'⟩

theorem pairs_findNoting [Wording] (store : Store) (card : String) (htext : IsNoIndex text)
    (htext' : IsNoIndex text') :
    Pairs (TextTwins place text text') (findNoting store card) (findNoting store card)
      fun result result' tree tree' =>
        Alike result result' ∧ TextTwins place text text' tree tree' := by
  have hfind : Pairs (TextTwins place text text') (store.find card) (store.find card)
      fun result result' tree tree' =>
        Alike result result' ∧ TextTwins place text text' tree tree' := by
    refine (store.pairs_loadOrEmpty htext htext').bind fun result result' => .assume ?_
    rintro (rfl | ⟨e, e', rfl, rfl⟩)
    · cases result' <;> exact .pure fun _ _ htwins => ⟨.inl rfl, htwins⟩
    · exact .pure fun _ _ htwins => ⟨.inr ⟨e, e', rfl, rfl⟩, htwins⟩
  refine hfind.bind fun result result' => .assume ?_
  rintro (rfl | ⟨e, e', rfl, rfl⟩)
  · cases result' with
    | error e => exact .pure fun _ _ htwins => ⟨.inl rfl, htwins⟩
    | ok cubes =>
      refine (Agree.note _ _).bind fun _ => ?_
      exact .pure fun _ _ htwins => ⟨.inl rfl, htwins⟩
  · exact .pure fun _ _ htwins => ⟨.inr ⟨_, _, rfl, rfl⟩, htwins⟩

theorem agree_noteAll {P : FileTree → FileTree → Prop} (events : List Event) :
    Agree P (noteAll events) (noteAll events) := by
  induction events with
  | nil => exact .pure ()
  | cons event events ih => exact (Agree.note event event).bind fun _ => ih

theorem pairs_compileWith [Wording] (store : Store) (clause : String) (htext : IsNoIndex text)
    (htext' : IsNoIndex text') :
    Pairs (TextTwins place text text') (compileWith store clause) (compileWith store clause)
      (EndAlike place text text') := by
  have hcompile : Pairs (TextTwins place text text') (Filter.compile (findNoting store) clause)
      (Filter.compile (findNoting store) clause) fun result result' tree tree' =>
        Alike result result' ∧ TextTwins place text text' tree tree' := by
    rw [Filter.compile]
    split
    · exact .pure fun _ _ htwins => ⟨.inl rfl, htwins⟩
    · exact .pure fun _ _ htwins => ⟨.inl rfl, htwins⟩
    · next card _ =>
      refine (pairs_findNoting store card htext htext').bind fun result result' => .assume ?_
      rintro (rfl | ⟨e, e', rfl, rfl⟩)
      · cases result' <;> exact .pure fun _ _ htwins => ⟨.inl rfl, htwins⟩
      · exact .pure fun _ _ htwins => ⟨.inr ⟨_, _, rfl, rfl⟩, htwins⟩
  refine (agree_noteAll _).bind fun _ => hcompile.bind fun result result' => .assume ?_
  rintro (rfl | ⟨e, e', rfl, rfl⟩)
  · cases result' <;> exact .pure fun _ _ htwins => ⟨rfl, htwins⟩
  · exact .pure fun _ _ htwins => ⟨rfl, htwins⟩

theorem pairs_withIndex {action : CardIndex → Simulation (Except Failure Reply)} (store : Store)
    (htext : IsNoIndex text) (htext' : IsNoIndex text')
    (h : ∀ index, Pairs (TextTwins place text text') (action index) (action index)
      (EndAlike place text text')) :
    Pairs (TextTwins place text text') (withIndex store action) (withIndex store action)
      (EndAlike place text text') := by
  refine (store.pairs_loadOrEmpty htext htext').bind fun result result' => .assume ?_
  rintro (rfl | ⟨e, e', rfl, rfl⟩)
  · cases result' with
    | error e => exact .pure fun _ _ htwins => ⟨rfl, htwins⟩
    | ok index => exact h index
  · exact .pure fun _ _ htwins => ⟨rfl, htwins⟩

theorem pairs_saveThen (store : Store) (index : CardIndex) (reply : Reply) :
    Pairs (TextTwins place text text') (saveThen store index reply) (saveThen store index reply)
      (EndAlike place text text') := by
  refine (store.agree_save index).bind fun result => ?_
  cases result <;> exact .pure fun _ _ htwins => ⟨rfl, htwins⟩

theorem pairs_withStore {action : Store → Simulation (Except Failure Reply)} {env : Environment}
    {settings settings' : Settings} (hindex : settings'.cardIndex = settings.cardIndex)
    (cards : Option Path) (user : IndexUser)
    (h : ∀ store, Pairs (TextTwins place text text') (action store) (action store)
      (EndAlike place text text')) :
    Pairs (TextTwins place text text') (withStore env settings cards user action)
      (withStore env settings' cards user action) (EndAlike place text text') := by
  have hstore : chooseStore env settings' cards = chooseStore env settings cards := by
    unfold chooseStore
    rw [hindex]
  rw [withStore, withStore, hstore]
  split
  · exact .pure fun _ _ htwins => ⟨rfl, htwins⟩
  · exact (Agree.note _ _).bind fun _ => h _

theorem pairs_withSettingsPath {P : FileTree → FileTree → Prop}
    {Q : Except Failure Reply → Except Failure Reply → FileTree → FileTree → Prop}
    {action action' : Path → Simulation (Except Failure Reply)} (env : Environment)
    (hnone : ∀ tree tree', P tree tree' →
      Q (.error (.settings .noPlace)) (.error (.settings .noPlace)) tree tree')
    (h : ∀ path, Pairs P (action path) (action' path) Q) :
    Pairs P (withSettingsPath env action) (withSettingsPath env action') Q := by
  rw [withSettingsPath, withSettingsPath]
  split
  · exact .pure hnone
  · exact h _

theorem agree_makeRoom_settings (path : Path) :
    Agree (TextTwins place text text') (Settings.makeRoom path) (Settings.makeRoom path) := by
  rw [Settings.makeRoom]
  split
  · exact .pure _
  · refine (Simulation.agree_makeInnermost _).bind fun result => ?_
    split <;> exact Agree.pure _

theorem agree_createSettings (path : Path) :
    Agree (TextTwins place text text') (createSettings path) (createSettings path) := by
  have hwrite : Agree (TextTwins place text text')
      (Settings.writeTo path Settings.template .notCreated)
      (Settings.writeTo path Settings.template .notCreated) := by
    refine (agree_makeRoom_settings path).bind fun result => ?_
    split
    · exact Agree.pure _
    · refine (Simulation.agree_writeText path _).bind fun result' => ?_
      split <;> exact Agree.pure _
  have hcreate : Agree (TextTwins place text text') (Settings.createAt path)
      (Settings.createAt path) := by
    refine (Simulation.agree_isPresent path).bind fun isPresent => ?_
    split
    · exact Agree.pure _
    · refine hwrite.bind fun result => ?_
      split <;> exact Agree.pure _
  refine hcreate.bind fun result => ?_
  split <;> exact Agree.pure _

/-- Whether a setting can be changed does not depend on the settings. -/
theorem set_alike (settings settings' : Settings) (key value : String) :
    (∃ refusal, settings.set key value = .error refusal ∧
      settings'.set key value = .error refusal) ∨
    ∃ changed changed', settings.set key value = .ok changed ∧
      settings'.set key value = .ok changed' := by
  unfold Settings.set
  split_ifs
  · exact .inr ⟨_, _, rfl, rfl⟩
  · cases Settings.flagOfWord? value with
    | none => exact .inl ⟨_, rfl, rfl⟩
    | some flag => exact .inr ⟨_, _, rfl, rfl⟩
  · exact .inl ⟨_, rfl, rfl⟩

theorem pairs_changeSetting (path : Path) (settings settings' : Settings) (key value : String) :
    Pairs (TextTwins place text text') (changeSetting path settings key value)
      (changeSetting path settings' key value)
      fun result result' _ _ => resultCode result' = resultCode result := by
  rw [changeSetting, changeSetting]
  rcases set_alike settings settings' key value with
    ⟨refusal, hset, hset'⟩ | ⟨changed, changed', hset, hset'⟩
  · rw [hset, hset']
    exact .pure fun _ _ _ => rfl
  · rw [hset, hset']
    have hsave : Pairs (TextTwins place text text') (Settings.saveTo path changed)
        (Settings.saveTo path changed') fun result result' _ _ => result' = result := by
      refine (agree_makeRoom_settings path).bind fun result => ?_
      split
      · exact .pure fun _ _ _ => rfl
      · refine (Simulation.pairs_writeTexts path _ _).bind fun result' result'' => ?_
        intro world world' hsame
        cases hsame
        cases result' <;> rfl
    refine hsave.bind fun result result' world world' hsame => ?_
    cases hsame
    cases result <;> rfl

/-- A command that does not change settings ends alike with settings that differ in the
    colour. -/
theorem pairs_performWith [Wording] (env : Environment) {settings settings' : Settings}
    {request : Request} (hindex : settings'.cardIndex = settings.cardIndex)
    (hcommand : ∀ key value, request.command ≠ .changeSetting key value)
    (htext : IsNoIndex text) (htext' : IsNoIndex text') :
    Pairs (TextTwins place text text') (performWith env settings request)
      (performWith env settings' request) (EndAlike place text text') := by
  have hpure : ∀ reply : Reply, Pairs (TextTwins place text text')
      (pure (.ok reply) : Simulation (Except Failure Reply)) (pure (.ok reply))
      (EndAlike place text text') :=
    fun reply => .pure fun _ _ htwins => ⟨rfl, htwins⟩
  have hlists : ∀ reply : CardIndex → Reply, Pairs (TextTwins place text text')
      (withStore env settings request.cards .index fun store =>
        withIndex store fun index => pure (.ok (reply index)))
      (withStore env settings' request.cards .index fun store =>
        withIndex store fun index => pure (.ok (reply index)))
      (EndAlike place text text') :=
    fun reply => pairs_withStore hindex _ _ fun store =>
      pairs_withIndex store htext htext' fun index => hpure (reply index)
  have hshows : ∀ reply reply' : Path → Bool → Reply, Pairs (TextTwins place text text')
      (withSettingsPath env fun path => do
        let isPresent ← FileAccess.isPresent path
        pure (.ok (reply path isPresent)))
      (withSettingsPath env fun path => do
        let isPresent ← FileAccess.isPresent path
        pure (.ok (reply' path isPresent)))
      (EndAlike place text text') :=
    fun reply reply' => pairs_withSettingsPath env (fun _ _ htwins => ⟨rfl, htwins⟩) fun path =>
      (Simulation.agree_isPresent path).bind fun _ => .pure fun _ _ htwins => ⟨rfl, htwins⟩
  rw [performWith, performWith]
  cases hrequest : request.command with
  | compile clause =>
    exact pairs_withStore hindex _ _ fun store => pairs_compileWith store clause htext htext'
  | fields => exact hpure _
  | categories => exact hpure _
  | listCards => exact hlists .cards
  | showCard card =>
    exact hlists fun index => .card (normalName card) (index.cubes (normalName card))
  | addCubes card cubes =>
    exact pairs_withStore hindex _ _ fun store =>
      pairs_withIndex store htext htext' fun index => pairs_saveThen store _ _
  | removeCubes card cubes =>
    refine pairs_withStore hindex _ _ fun store =>
      pairs_withIndex store htext htext' fun index => ?_
    dsimp only
    split_ifs
    · exact .pure fun _ _ htwins => ⟨rfl, htwins⟩
    · exact pairs_saveThen store _ _
  | showSettings => exact hshows (.settings · · settings) (.settings · · settings')
  | showSettingsPath => exact hshows .settingsPath .settingsPath
  | createSettings =>
    exact pairs_withSettingsPath env (fun _ _ htwins => ⟨rfl, htwins⟩) fun path =>
      endAlike_of_agree (agree_createSettings path)
  | changeSetting key value => exact absurd hrequest (hcommand key value)
  | completions shell => exact hpure _

/-! ## Runs -/

/-- Two trees in which the settings differ at most in the colour: at the place of the settings
    file there are two documents, and all else is equal. -/
structure DifferInColour (path : Path) (place : FileTree.Place) (text text' : String)
    (files files' : FileTree) : Prop where
  located : files.locate path = .ok place
  file : files.node? place = some (.file text.toUTF8)
  file' : files'.node? place = some (.file text'.toUTF8)
  others : ∀ q, q ≠ place → files'.node? q = files.node? q
  settings : ∃ cardIndex colour colour', Settings.read? text = some ⟨cardIndex, colour⟩ ∧
    Settings.read? text' = some ⟨cardIndex, colour'⟩

namespace DifferInColour

variable {env : Environment} {path : Path} {files files' : FileTree}

theorem twins (h : DifferInColour path place text text' files files') :
    TextTwins place text text' files files' := by
  intro q
  by_cases hq : q = place
  · subst hq
    exact .inr ⟨rfl, h.file, h.file'⟩
  · exact .inl (h.others q hq)

/-- Both trees load their settings, which have one card index, and neither document is one of an
    index. -/
theorem loads (h : DifferInColour path place text text' files files')
    (hpath : env.settingsPath? = some path) :
    ∃ settings settings', settings'.cardIndex = settings.cardIndex ∧
      LoadsSettings env files settings ∧ LoadsSettings env files' settings' ∧
      IsNoIndex text ∧ IsNoIndex text' := by
  obtain ⟨cardIndex, colour, colour', hread, hread'⟩ := h.settings
  have hfile : files.readBytes path = .ok text.toUTF8 := by
    rw [FileTree.readBytes, h.located]
    simp only [h.file]
  have hfile' : files'.readBytes path = .ok text'.toUTF8 := by
    rw [FileTree.readBytes, h.twins.sameShape.locate, h.located]
    simp only [h.file']
  exact ⟨⟨cardIndex, colour⟩, ⟨cardIndex, colour'⟩, rfl,
    ⟨path, hpath, (Settings.yields_loadFrom_of_read hfile hread).fst⟩,
    ⟨path, hpath, (Settings.yields_loadFrom_of_read hfile' hread').fst⟩,
    isNoIndex_of_read? hread, isNoIndex_of_read? hread'⟩

/-- A request ends with one exit code, and if it does not change settings, then it does the same
    to both trees. -/
theorem ends [Wording] (h : DifferInColour path place text text' files files')
    (hpath : env.settingsPath? = some path) (request : Request) :
    resultCode (resultOf env request files') = resultCode (resultOf env request files) ∧
      ((∀ key value, request.command ≠ .changeSetting key value) →
        TextTwins place text text'
          ((perform env request : Simulation Outcome) ⟨files, []⟩).2.files
          ((perform env request : Simulation Outcome) ⟨files', []⟩).2.files) := by
  obtain ⟨settings, settings', hindex, hloads, hloads', htext, htext'⟩ := h.loads hpath
  obtain ⟨world, rfl, hrun⟩ := perform_of_loadsSettings hloads request
  obtain ⟨world', rfl, hrun'⟩ := perform_of_loadsSettings hloads' request
  rw [resultOf, resultOf, hrun, hrun']
  by_cases hcommand : ∀ key value, request.command ≠ .changeSetting key value
  · obtain ⟨hcode, htwins⟩ :=
      pairs_performWith env hindex hcommand htext htext' world world' h.twins
    exact ⟨hcode, fun _ => htwins⟩
  · refine ⟨?_, fun hother => absurd hother hcommand⟩
    obtain ⟨key, value, hcommand⟩ : ∃ key value, request.command = .changeSetting key value := by
      simpa using hcommand
    simp only [performWith, hcommand]
    exact pairs_withSettingsPath env (fun _ _ _ => rfl)
      (fun path => pairs_changeSetting path settings settings' key value) world world' h.twins

end DifferInColour

/-- What is printed for the outcome in this presentation has been printed, with a log before the
    errors. -/
def Outcome.ShownBy [Wording] (outcome : Outcome) (presentation : Presentation) (output : Output) :
    Prop :=
  ∃ log, output = ⟨(outcome.output presentation).exitCode, (outcome.output presentation).stdout,
    log ++ (outcome.output presentation).stderr⟩

theorem shownBy_simulate [Wording] {env : Environment} {arguments : List String} (files : FileTree)
    {invocation : Invocation} (h : Invocation.ofArguments env arguments = .ok invocation) :
    ((perform env invocation.request : Simulation Outcome) ⟨files, []⟩).1.ShownBy
      invocation.presentation (simulate env arguments files).1 := by
  rw [simulate, h]
  exact ⟨_, rfl⟩

/-- **Presentation has no part in effects.** Runs that ask for the same, with whatever flags,
    show one outcome and leave the same files. If the settings differ in the colour alone, then
    a run ends with the same exit code, and unless it changes settings it does the same to the
    files. -/
theorem presentation_spares_effects [Wording] (env : Environment) (files : FileTree) :
    (∀ arguments arguments' invocation invocation',
      Invocation.ofArguments env arguments = .ok invocation →
      Invocation.ofArguments env arguments' = .ok invocation' →
      invocation'.request = invocation.request →
      (simulate env arguments' files).1.exitCode = (simulate env arguments files).1.exitCode ∧
      (simulate env arguments' files).2 = (simulate env arguments files).2 ∧
      ∃ outcome : Outcome,
        outcome.ShownBy invocation.presentation (simulate env arguments files).1 ∧
        outcome.ShownBy invocation'.presentation (simulate env arguments' files).1) ∧
    ∀ path place text text' files', env.settingsPath? = some path →
      DifferInColour path place text text' files files' → ∀ arguments,
      (simulate env arguments files').1.exitCode = (simulate env arguments files).1.exitCode ∧
      ((∀ invocation key value, Invocation.ofArguments env arguments = .ok invocation →
          invocation.request.command ≠ .changeSetting key value) →
        TextTwins place text text' (simulate env arguments files).2
          (simulate env arguments files').2) := by
  constructor
  · intro arguments arguments' invocation invocation' haccepted haccepted' hrequest
    obtain ⟨hcode, hfiles⟩ := simulate_of_accepted files haccepted
    obtain ⟨hcode', hfiles'⟩ := simulate_of_accepted files haccepted'
    have hshown := shownBy_simulate files haccepted
    have hshown' := shownBy_simulate files haccepted'
    rw [hrequest] at hcode' hfiles' hshown'
    exact ⟨hcode'.trans hcode.symm, hfiles'.trans hfiles.symm, _, hshown, hshown'⟩
  · intro path place text text' files' hpath hdiffer arguments
    cases haccepted : Invocation.ofArguments env arguments with
    | error stop =>
      rw [simulate, simulate, haccepted]
      exact ⟨rfl, fun _ => hdiffer.twins⟩
    | ok invocation =>
      obtain ⟨hcode, hfiles⟩ := simulate_of_accepted files haccepted
      obtain ⟨hcode', hfiles'⟩ := simulate_of_accepted files' haccepted
      obtain ⟨hsame, htwins⟩ := hdiffer.ends hpath invocation.request
      rw [hcode, hcode', hfiles, hfiles']
      exact ⟨hsame, fun hcommand => htwins fun key value => hcommand _ key value rfl⟩

/-- The settings file holds a colour and its opposite, and it is named as the card index, which it
    is not. -/
theorem presentation_spares_effects_of_opposites :
    let env : Environment :=
      ⟨none, some "config.toml", none, none, none, none, none, none, none⟩
    let text := Settings.written ⟨none, some true⟩
    let text' := Settings.written ⟨none, some false⟩
    let files : FileTree := ⟨[(["config.toml"], .file text.toUTF8)]⟩
    let files' : FileTree := ⟨[(["config.toml"], .file text'.toUTF8)]⟩
    let arguments := ["--cards", "config.toml", "index", "add", "Sol Ring", "a"]
    (simulate env ("--json" :: "-q" :: arguments) files).1.exitCode =
        (simulate env ("-v" :: arguments) files).1.exitCode ∧
      (simulate env arguments files').1.exitCode = (simulate env arguments files).1.exitCode ∧
      TextTwins ["config.toml"] text text' (simulate env arguments files).2
        (simulate env arguments files').2 := by
  intro env text text' files files' arguments
  have hdiffer : DifferInColour ⟨"config.toml"⟩ ["config.toml"] text text' files files' := by
    refine ⟨rfl, rfl, rfl, fun q hq => ?_,
      ⟨none, some true, some false, Settings.read?_written _, Settings.read?_written _⟩⟩
    have hbeq : (q == ["config.toml"]) = false := beq_eq_false_iff_ne.mpr hq
    simp only [FileTree.node?, files, files', List.lookup_cons, hbeq, List.lookup_nil]
  have haccepted : Invocation.ofArguments env arguments =
      .ok ⟨⟨.addCubes "Sol Ring" ["a"], some ⟨"config.toml"⟩⟩, ⟨false, false, false, false⟩⟩ := rfl
  obtain ⟨hflags, hcolour⟩ := presentation_spares_effects env files
  obtain ⟨hcode, htwins⟩ := hcolour _ _ _ _ _ rfl hdiffer arguments
  refine ⟨(hflags ("-v" :: arguments) ("--json" :: "-q" :: arguments) _ _ rfl rfl rfl).1, hcode,
    htwins fun invocation key value hother => ?_⟩
  cases haccepted.symm.trans hother
  simp

end CubeQuery
