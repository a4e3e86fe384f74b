import CubeQuery.Proofs.CommandLine.Frame
import CubeQuery.Proofs.CommandLine.Log
import CubeQuery.Proofs.Json.Reading

/-!
# Answers for programs

A run that answers for programs prints one document and nothing else: a reply, or
the reason why a clause has no filter, where answers are printed, and any other
failure where errors are. The document can be read back, whatever the texts in it.

* `canEndWith_resultOf`: which replies and failures a command can end with.
* `Tells`: the documents that a request is answered with.
* `answers_in_documents`: what a run prints.
* `answers_in_documents_of_quotes`: the answer for a card whose name has to be escaped.
* `silent_run_warns`: a specification of the log that cannot be read is told of as well.
-/

namespace CubeQuery

/-! ## Results of commands -/

/-- The command can end with the result. Only completions have no document, and only to compile
    a clause can fail for want of a filter. -/
def Command.CanEndWith (command : Command) : Except Failure Reply → Prop
  | .ok reply => reply.document? = none → ∃ shell, command = .completions shell
  | .error (.filter _) => ∃ clause, command = .compile clause
  | .error _ => True

/-- Every run of the program gives a value of some kind. -/
def Simulation.Always {α : Type} (kind : α → Prop) (x : Simulation α) : Prop :=
  ∀ world, kind (x world).1

namespace Simulation.Always

variable {α β : Type} {kind : β → Prop}

theorem pure {b : β} (h : kind b) : Always kind (Pure.pure b) := fun _ => h

theorem bind {x : Simulation α} {f : α → Simulation β} (h : ∀ a, Always kind (f a)) :
    Always kind (x >>= f) :=
  fun world => h (x world).1 (x world).2

end Simulation.Always

open Simulation (Always Yields)

variable {env : Environment} {files : FileTree} {request : Request}

theorem always_withStore {command : Command} {settings : Settings} {user : IndexUser}
    {cards : Option Path} {action : Store → Simulation (Except Failure Reply)}
    (h : ∀ store, Always command.CanEndWith (action store)) :
    Always command.CanEndWith (withStore env settings cards user action) := by
  rw [withStore]
  split
  · exact .pure trivial
  · exact .bind fun _ => h _

theorem always_withIndex {command : Command} {store : Store}
    {action : CardIndex → Simulation (Except Failure Reply)}
    (h : ∀ index, Always command.CanEndWith (action index)) :
    Always command.CanEndWith (withIndex store action) := by
  refine .bind fun result => ?_
  split
  · exact .pure trivial
  · exact h _

theorem always_withSettingsPath {command : Command}
    {action : Path → Simulation (Except Failure Reply)}
    (h : ∀ path, Always command.CanEndWith (action path)) :
    Always command.CanEndWith (withSettingsPath env action) := by
  rw [withSettingsPath]
  split
  · exact .pure trivial
  · exact h _

theorem always_saveThen {command : Command} (store : Store) (index : CardIndex) {reply : Reply}
    (h : command.CanEndWith (.ok reply)) :
    Always command.CanEndWith (saveThen store index reply) := by
  refine .bind fun result => ?_
  split
  · exact .pure trivial
  · exact .pure h

/-- Any command can end with a reply that has a document. -/
theorem canEndWith_of_document {command : Command} {reply : Reply} {document : Json}
    (h : reply.document? = some document) : command.CanEndWith (.ok reply) := by
  intro hnone
  rw [h] at hnone
  cases hnone

theorem always_performWith [Wording] (env : Environment) (settings : Settings) (request : Request) :
    Always request.command.CanEndWith (performWith env settings request) := by
  rw [performWith]
  cases request.command with
  | compile clause =>
    refine always_withStore fun store => .bind fun _ => .bind fun result => ?_
    split
    · exact .pure (canEndWith_of_document rfl)
    · exact .pure ⟨clause, rfl⟩
  | fields => exact .pure (canEndWith_of_document rfl)
  | categories => exact .pure (canEndWith_of_document rfl)
  | listCards =>
    exact always_withStore fun store => always_withIndex fun index =>
      .pure (canEndWith_of_document rfl)
  | showCard card =>
    exact always_withStore fun store => always_withIndex fun index =>
      .pure (canEndWith_of_document rfl)
  | addCubes card cubes =>
    exact always_withStore fun store => always_withIndex fun index =>
      always_saveThen _ _ (canEndWith_of_document rfl)
  | removeCubes card cubes =>
    refine always_withStore fun store => always_withIndex fun index => ?_
    dsimp only
    split_ifs
    · exact .pure trivial
    · exact always_saveThen _ _ (canEndWith_of_document rfl)
  | showSettings =>
    exact always_withSettingsPath fun path => .bind fun _ => .pure (canEndWith_of_document rfl)
  | showSettingsPath =>
    exact always_withSettingsPath fun path => .bind fun _ => .pure (canEndWith_of_document rfl)
  | createSettings =>
    refine always_withSettingsPath fun path => .bind fun result => ?_
    split
    · exact .pure trivial
    · exact .pure (canEndWith_of_document rfl)
  | changeSetting key value =>
    refine always_withSettingsPath fun path => ?_
    rw [changeSetting]
    split
    · exact .pure trivial
    · refine .bind fun result => ?_
      split
      · exact .pure trivial
      · exact .pure (canEndWith_of_document rfl)
  | completions shell => exact .pure fun _ => ⟨shell, rfl⟩

/-- Without settings that load, a request fails. -/
theorem resultOf_of_not_loadsSettings [Wording]
    (h : ¬ ∃ settings, LoadsSettings env files settings) :
    ∃ e, resultOf env request files = .error (.settings e) := by
  obtain ⟨e, -, hperform⟩ := yields_perform_of_not_loadsSettings (not_exists.mp h) request
  have hrun : ((perform env request : Simulation Outcome) ⟨files, []⟩).1 =
      ⟨true, .error (.settings e)⟩ := hperform.fst
  exact ⟨e, by rw [resultOf, hrun]⟩

/-- A request ends with a result of its command. -/
theorem canEndWith_resultOf [Wording] (env : Environment) (request : Request) (files : FileTree) :
    request.command.CanEndWith (resultOf env request files) := by
  by_cases h : ∃ settings, LoadsSettings env files settings
  · obtain ⟨settings, hsettings⟩ := h
    obtain ⟨world, rfl, hrun⟩ := perform_of_loadsSettings hsettings request
    rw [resultOf, hrun]
    exact always_performWith env settings request world
  · obtain ⟨e, hresult⟩ := resultOf_of_not_loadsSettings h
    rw [hresult]
    trivial

/-! ## Where answers come from -/

/-- The result is an answer: a reply, or the reason why a clause has no filter. -/
def IsAnswer : Except Failure Reply → Prop
  | .ok _ => True
  | .error (.filter _) => True
  | .error _ => False

/-- The store of a request. -/
def ChoosesStore (env : Environment) (files : FileTree) (request : Request) (store : Store) :
    Prop :=
  ∃ settings, LoadsSettings env files settings ∧
    chooseStore env settings request.cards = .ok store

/-- The index of a request. -/
def LoadsIndex (env : Environment) (files : FileTree) (request : Request) (index : CardIndex) :
    Prop :=
  ∃ store, ChoosesStore env files request store ∧
    ((store.loadOrEmpty : Simulation _) ⟨files, []⟩).1 = .ok index

/-- A clause is compiled with the store of a request, and this comes of it. -/
def CompilesTo [Wording] (env : Environment) (files : FileTree) (request : Request)
    (clause : String) (result : Except FilterError Filter) : Prop :=
  ∃ store, ChoosesStore env files request store ∧
    ((Filter.compile (findNoting store) clause : Simulation _) ⟨files, []⟩).1 = result

/-- A command on a store answers with the store of its request. -/
theorem exists_store_of_isAnswer [Wording] {user : IndexUser}
    {action : Store → Simulation (Except Failure Reply)}
    (hperform : ∀ settings,
      performWith env settings request = withStore env settings request.cards user action)
    (h : IsAnswer (resultOf env request files)) :
    ∃ store world, ChoosesStore env files request store ∧ world.files = files ∧
      (action store world).1 = resultOf env request files := by
  by_cases hloads : ∃ settings, LoadsSettings env files settings
  · obtain ⟨settings, hsettings⟩ := hloads
    obtain ⟨world, rfl, hrun⟩ := perform_of_loadsSettings hsettings request
    rw [resultOf, hrun, hperform, withStore] at h ⊢
    cases hstore : chooseStore env settings request.cards with
    | error e =>
      rw [hstore] at h
      exact h.elim
    | ok store =>
      exact ⟨store, ⟨world.files, world.events ++ [.usingIndex user store.path]⟩,
        ⟨settings, hsettings, hstore⟩, rfl, rfl⟩
  · obtain ⟨e, hresult⟩ := resultOf_of_not_loadsSettings hloads
    rw [hresult] at h
    exact h.elim

/-- A command on an index answers with the index that is loaded. -/
theorem exists_index_of_isAnswer {store : Store} {world : World}
    {action : CardIndex → Simulation (Except Failure Reply)}
    (h : IsAnswer (withIndex store action world).1) :
    ∃ index world', ((store.loadOrEmpty : Simulation _) ⟨world.files, []⟩).1 = .ok index ∧
      (action index world').1 = (withIndex store action world).1 := by
  have hloads := (Store.looksOnly_loadOrEmpty store).yields ⟨world.files, []⟩
  obtain ⟨events, hrun⟩ := hloads world.events
  rw [withIndex, Simulation.bind_of_eq hrun] at h ⊢
  cases hload : ((store.loadOrEmpty : Simulation _) ⟨world.files, []⟩).1 with
  | error e =>
    rw [hload] at h
    exact h.elim
  | ok index => exact ⟨index, _, rfl, rfl⟩

/-- The result of a command that compiles a clause. -/
def compileResult : Except FilterError Filter → Except Failure Reply
  | .ok filter => .ok (.compiled filter)
  | .error cause => .error (.filter cause)

theorem yields_compileWith [Wording] {store : Store} {clause : String}
    {result : Except FilterError Filter}
    (h : Yields (Filter.compile (findNoting store) clause) files result files) :
    Yields (compileWith store clause) files (compileResult result) files := by
  refine (yields_noteAll _ files).bind (h.bind ?_)
  cases result <;> exact .pure _

theorem exists_compilesTo [Wording] {clause : String} (hcommand : request.command = .compile clause)
    (h : IsAnswer (resultOf env request files)) :
    ∃ result, CompilesTo env files request clause result ∧
      resultOf env request files = compileResult result := by
  obtain ⟨store, world, hstore, rfl, hrun⟩ :=
    exists_store_of_isAnswer (fun settings => by rw [performWith, hcommand]) h
  have hcompile : Yields (compileWith store clause) world.files _ world.files :=
    yields_compileWith ((looksOnly_compile store clause).yields ⟨world.files, []⟩)
  exact ⟨_, ⟨store, hstore, rfl⟩, hrun.symm.trans hcompile.fst⟩

theorem exists_loadsIndex [Wording] {reply : CardIndex → Reply}
    (hperform : ∀ settings, performWith env settings request =
      withStore env settings request.cards .index fun store =>
        withIndex store fun index => (pure (.ok (reply index)) : Simulation _))
    (h : IsAnswer (resultOf env request files)) :
    ∃ index, LoadsIndex env files request index ∧
      resultOf env request files = .ok (reply index) := by
  obtain ⟨store, world, hstore, rfl, hrun⟩ := exists_store_of_isAnswer hperform h
  rw [← hrun] at h ⊢
  obtain ⟨index, world', hindex, haction⟩ := exists_index_of_isAnswer h
  exact ⟨index, ⟨store, hstore, hindex⟩, haction.symm⟩

/-! ## Documents of answers -/

/-- The command asks for what an index holds or a clause means. -/
def Command.isQuestion : Command → Bool
  | compile _ | listCards | showCard _ => true
  | _ => false

/-- The document tells what the request asks for: the filter of a clause, the cards of the index
    with their cubes, the cubes of one card, or what else the command has replied. -/
inductive Tells [Wording] (env : Environment) (files : FileTree) (request : Request) : Json → Prop
  | filter {clause : String} {filter : Filter} (hcommand : request.command = .compile clause)
      (hfilter : CompilesTo env files request clause (.ok filter)) :
      Tells env files request (.object [("err", .null),
        ("filter", .object [("query", filter.query.document),
          ("fieldsUsed", .texts filter.fieldsUsed.toList)])])
  | cards {index : CardIndex} (hcommand : request.command = .listCards)
      (hindex : LoadsIndex env files request index) :
      Tells env files request (.object [("cards", .array (index.entries.map fun entry =>
        .object [("card", .text entry.1), ("cubes", .texts entry.2.toList)]))])
  | card {card : String} {index : CardIndex} (hcommand : request.command = .showCard card)
      (hindex : LoadsIndex env files request index) :
      Tells env files request (.object [("card", .text (normalName card)),
        ("cubes", .texts (index.cubes (normalName card)).toList)])
  | other {reply : Reply} {document : Json} (hcommand : request.command.isQuestion = false)
      (hreply : resultOf env request files = .ok reply)
      (hdocument : reply.document? = some document) : Tells env files request document

/-- A question is answered from the index of its request. -/
theorem exists_tells_of_isQuestion [Wording] {reply : Reply}
    (hreply : resultOf env request files = .ok reply)
    (hquestion : request.command.isQuestion = true) :
    ∃ document, reply.document? = some document ∧ Tells env files request document := by
  have hanswer : IsAnswer (resultOf env request files) := by
    rw [hreply]
    trivial
  cases hcommand : request.command with
  | compile clause =>
    obtain ⟨result, hcompiles, hresult⟩ := exists_compilesTo hcommand hanswer
    cases result with
    | error cause => cases hreply.symm.trans hresult
    | ok filter =>
      cases hreply.symm.trans hresult
      exact ⟨_, rfl, .filter hcommand hcompiles⟩
  | listCards =>
    obtain ⟨index, hindex, hresult⟩ :=
      exists_loadsIndex (fun settings => by rw [performWith, hcommand]) hanswer
    cases hreply.symm.trans hresult
    exact ⟨_, rfl, .cards hcommand hindex⟩
  | showCard card =>
    obtain ⟨index, hindex, hresult⟩ :=
      exists_loadsIndex (fun settings => by rw [performWith, hcommand]) hanswer
    cases hreply.symm.trans hresult
    exact ⟨_, rfl, .card hcommand hindex⟩
  | _ => simp [hcommand, Command.isQuestion] at hquestion

/-- Every reply but completions has a document, which tells what the request asks for. -/
theorem exists_tells [Wording] {reply : Reply} (hreply : resultOf env request files = .ok reply)
    (hcommand : ∀ shell, request.command ≠ .completions shell) :
    ∃ document, reply.document? = some document ∧ Tells env files request document := by
  cases hquestion : request.command.isQuestion with
  | true => exact exists_tells_of_isQuestion hreply hquestion
  | false =>
    cases hdocument : reply.document? with
    | some document => exact ⟨document, rfl, .other hquestion hreply hdocument⟩
    | none =>
      have hends := canEndWith_resultOf env request files
      rw [hreply] at hends
      obtain ⟨shell, hshell⟩ := hends hdocument
      exact absurd hshell (hcommand shell)

/-- Only a clause that does not compile fails for want of a filter. -/
theorem exists_compilesTo_error [Wording] {cause : FilterError}
    (h : resultOf env request files = .error (.filter cause)) :
    ∃ clause, request.command = .compile clause ∧
      CompilesTo env files request clause (.error cause) := by
  have hends := canEndWith_resultOf env request files
  have hanswer : IsAnswer (resultOf env request files) := by
    rw [h]
    trivial
  rw [h] at hends
  obtain ⟨clause, hcommand⟩ := hends
  obtain ⟨result, hcompiles, hresult⟩ := exists_compilesTo hcommand hanswer
  refine ⟨clause, hcommand, ?_⟩
  cases result with
  | ok filter => cases h.symm.trans hresult
  | error cause' =>
    cases h.symm.trans hresult
    exact hcompiles

/-! ## Runs -/

/-- A run that shows no events prints the result of its request after the warnings. -/
theorem simulate_of_isSilent [Wording] {arguments : List String} (files : FileTree)
    {invocation : Invocation} (haccepted : Invocation.ofArguments env arguments = .ok invocation)
    (hsilent : (LogFilter.ofRun env invocation.presentation).IsSilent) :
    ∃ outcome : Outcome, outcome.result = resultOf env invocation.request files ∧
      (simulate env arguments files).1 = ⟨(outcome.output invocation.presentation).exitCode,
        (outcome.output invocation.presentation).stdout,
        (LogFilter.ofRun env invocation.presentation).warnings ++
          (outcome.output invocation.presentation).stderr⟩ := by
  refine ⟨((perform env invocation.request : Simulation Outcome) ⟨files, []⟩).1, rfl, ?_⟩
  rw [simulate, haccepted]
  simp only [hsilent.lines_eq, String.append_empty]
  rfl

/-- A document of a failure is printed where errors are, after warnings, and nothing else is. -/
def FailsWith [Wording] (failure : Failure) (code : Nat) (warnings : String) (output : Output) :
    Prop :=
  ∃ text, Json.read text = .ok (.object [("error",
      .object [("code", .text failure.code), ("message", .text failure.message)])]) ∧
    output = ⟨code, "", warnings ++ (text ++ "\n")⟩

theorem failsWith_of_output [Wording] {presentation : Presentation} {failure : Failure}
    (hjson : presentation.json = true) (hother : ∀ cause, failure ≠ .filter cause)
    (warnings : String) :
    FailsWith failure failure.exitCode warnings ⟨(failure.output presentation).exitCode,
      (failure.output presentation).stdout,
      warnings ++ (failure.output presentation).stderr⟩ := by
  refine ⟨failure.document.render, Json.read_render failure.document, ?_⟩
  cases failure with
  | filter cause => exact absurd rfl (hother cause)
  | store cause => simp [Failure.output, hjson]
  | notFound card => simp [Failure.output, hjson]
  | settings cause => simp [Failure.output, hjson]

/-- One document is printed for the result of a request, and warnings where errors are. -/
structure Answered [Wording] (env : Environment) (files : FileTree) (request : Request)
    (warnings : String) (output : Output) : Prop where
  /-- The document of a reply tells what the request asks for. -/
  reply : ∀ reply, resultOf env request files = .ok reply → ∃ text document,
    Json.read text = .ok document ∧ Tells env files request document ∧
      output = ⟨0, text ++ "\n", warnings⟩
  /-- The reason why a clause has no filter is an answer as well. -/
  noFilter : ∀ cause, resultOf env request files = .error (.filter cause) → ∃ clause text,
    request.command = .compile clause ∧ CompilesTo env files request clause (.error cause) ∧
      Json.read text = .ok (.object [("err",
        .object [("code", .text cause.code), ("message", .text cause.message)]),
        ("filter", .null)]) ∧
      output = ⟨1, text ++ "\n", warnings⟩
  notFound : ∀ card, resultOf env request files = .error (.notFound card) →
    FailsWith (.notFound card) 1 warnings output
  store : ∀ cause, resultOf env request files = .error (.store cause) →
    FailsWith (.store cause) 5 warnings output
  settings : ∀ cause, resultOf env request files = .error (.settings cause) →
    FailsWith (.settings cause) 5 warnings output

/-- **Answers are documents.** Whatever the arguments, the environment and the files are, a run
    that is to answer in documents and logs no events prints one document, which reads back as
    what it tells. Warnings of a specification of the log that cannot be read come before
    errors. -/
theorem answers_in_documents [Wording] (env : Environment) (arguments : List String)
    (files : FileTree) (invocation : Invocation)
    (haccepted : Invocation.ofArguments env arguments = .ok invocation)
    (hjson : invocation.presentation.json = true)
    (hcommand : ∀ shell, invocation.request.command ≠ .completions shell)
    (hsilent : (LogFilter.ofRun env invocation.presentation).IsSilent) :
    Answered env files invocation.request (LogFilter.ofRun env invocation.presentation).warnings
        (simulate env arguments files).1 ∧
      ((LogFilter.ofRun env invocation.presentation).warnings = "" ↔
        ∀ specification, env.logging = some specification →
          LogFilter.IsReadable specification) := by
  refine ⟨?_, LogFilter.warnings_ofRun_eq_empty_iff env invocation.presentation⟩
  obtain ⟨outcome, hresult, hrun⟩ := simulate_of_isSilent files haccepted hsilent
  have hfails : ∀ failure, resultOf env invocation.request files = .error failure →
      (∀ cause, failure ≠ .filter cause) →
      FailsWith failure failure.exitCode (LogFilter.ofRun env invocation.presentation).warnings
        (simulate env arguments files).1 := by
    intro failure hfailure hother
    rw [hrun, Outcome.output, hresult, hfailure]
    exact failsWith_of_output hjson hother _
  constructor
  case reply =>
    intro reply hreply
    obtain ⟨document, hdocument, htells⟩ := exists_tells hreply hcommand
    refine ⟨document.render, document, Json.read_render document, htells, ?_⟩
    rw [hrun, Outcome.output, hresult, hreply]
    simp [Reply.shown, hjson, hdocument]
  case noFilter =>
    intro cause hcause
    obtain ⟨clause, hclause, hcompiles⟩ := exists_compilesTo_error hcause
    refine ⟨clause, (Filter.response (.error cause)).render, hclause, hcompiles,
      Json.read_render (Filter.response (.error cause)), ?_⟩
    rw [hrun, Outcome.output, hresult, hcause]
    simp [Failure.output, hjson, Failure.exitCode]
  case notFound => exact fun card hcard => hfails _ hcard (by simp)
  case store => exact fun cause hcause => hfails _ hcause (by simp)
  case settings => exact fun cause hcause => hfails _ hcause (by simp)

/-- Clauses and names of cards that have to be escaped. -/
theorem answers_in_documents_of_quotes :
    let env : Environment :=
      ⟨none, some "config.toml", none, none, some "cards.json", none, none, none, none⟩
    let output (arguments : List String) := (simulate env ("--json" :: "-q" :: arguments) ⟨[]⟩).1
    (∃ text document, Json.read text = .ok document ∧
      Tells env ⟨[]⟩ ⟨.showCard "Say \"\\\n!", some ⟨"cards.json"⟩⟩ document ∧
      output ["index", "show", "Say \"\\\n!"] = ⟨0, text ++ "\n", ""⟩) ∧
    (∃ text, Json.read text = .ok (.object [("err", .object [("code", .text "PARSE_ERROR"),
        ("message", .text
          "malformed filter at position 1: expected one of ':', '>', '<' after 'A', found '\"'")]),
        ("filter", .null)]) ∧
      output ["compile", "A\"\\\n:b"] = ⟨1, text ++ "\n", ""⟩) ∧
    FailsWith (.notFound "say \"\\\n!") 1 "" (output ["index", "remove", "Say \"\\\n!"]) := by
  intro env output
  have answered : ∀ arguments command,
      Invocation.ofArguments env ("--json" :: "-q" :: arguments) =
        .ok ⟨⟨command, some ⟨"cards.json"⟩⟩, ⟨false, true, true, false⟩⟩ →
      (∀ shell, command ≠ .completions shell) →
      Answered env ⟨[]⟩ ⟨command, some ⟨"cards.json"⟩⟩ "" (output arguments) :=
    fun arguments command haccepted hcommand =>
      (answers_in_documents env ("--json" :: "-q" :: arguments) ⟨[]⟩ _ haccepted rfl hcommand
        (LogFilter.isSilent_ofRun rfl rfl)).1
  have hshow := answered ["index", "show", "Say \"\\\n!"]
    (.showCard "Say \"\\\n!") rfl nofun
  have hcompile := answered ["compile", "A\"\\\n:b"] (.compile "A\"\\\n:b") rfl nofun
  have hremove := answered ["index", "remove", "Say \"\\\n!"]
    (.removeCubes "Say \"\\\n!" []) rfl nofun
  refine ⟨hshow.reply _ rfl, ?_, hremove.notFound _ rfl⟩
  obtain ⟨_, text, -, -, hread, houtput⟩ := hcompile.noFilter
    (.malformed "expected one of ':', '>', '<' after 'A', found '\"'" 1) rfl
  exact ⟨text, hread, houtput⟩

/-- A run that logs no events warns of a specification of the log that cannot be read. -/
theorem silent_run_warns :
    let env : Environment :=
      ⟨some "home", some "config.toml", none, none, some "cards.json", some "a/b/c", none, none,
        none⟩
    let arguments := ["--json", "config", "path"]
    let presentation : Presentation := ⟨false, false, true, false⟩
    Invocation.ofArguments env arguments =
        .ok ⟨⟨.showSettingsPath, some ⟨"cards.json"⟩⟩, presentation⟩ ∧
      (LogFilter.ofRun env presentation).IsSilent ∧
      (simulate env arguments ⟨[]⟩).1 = ⟨0,
        "\x7b\n  \"exists\": false,\n  \"path\": \"config.toml\"\n\x7d\n",
        "warning: invalid logging spec 'a/b/c' (too many '/'s), ignoring it\n"⟩ := by
  intro env arguments presentation
  have hsplit : "a/b/c".splitOn "/" = ["a", "b", "c"] := by
    rw [String.splitOn, if_neg (by decide)]
    -- Letter, slash, letter, slash, letter, and then the end.
    rw [String.splitOnAux, if_neg (by decide), if_neg (by decide)]
    rw [String.splitOnAux, if_neg (by decide), if_pos (by decide), if_pos (by decide)]
    rw [String.splitOnAux, if_neg (by decide), if_neg (by decide)]
    rw [String.splitOnAux, if_neg (by decide), if_pos (by decide), if_pos (by decide)]
    rw [String.splitOnAux, if_neg (by decide), if_neg (by decide)]
    rw [String.splitOnAux, if_pos (by decide)]
    rfl
  have hlog : LogFilter.ofRun env presentation = ⟨[⟨none, .warn⟩], none,
      ["invalid logging spec 'a/b/c' (too many '/'s)"], false⟩ := by
    simp only [LogFilter.ofRun, env, LogFilter.addSpecification, hsplit]
    rfl
  have hsilent : (LogFilter.ofRun env presentation).IsSilent := by
    rw [hlog]
    exact LogFilter.isSilent_of_levels (by decide)
  have haccepted : Invocation.ofArguments env arguments =
      .ok ⟨⟨.showSettingsPath, some ⟨"cards.json"⟩⟩, presentation⟩ := rfl
  refine ⟨haccepted, hsilent, ?_⟩
  rw [simulate, haccepted]
  simp only [hlog]
  rfl

end CubeQuery
