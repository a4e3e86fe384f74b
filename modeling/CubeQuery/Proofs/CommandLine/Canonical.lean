import CubeQuery.Proofs.CardIndex.Operations
import CubeQuery.Proofs.CommandLine.Runs

/-!
# One form for each relation

An index keeps no trace of how it came about. Its history is a list of stages, in which
operations take turns with saves and loads. Each stage keeps the invariant, and an index with
the invariant is determined by its relation; so is then what a save writes, and what a list of
the cards shows.

* `Stage.isNormal_run`, `Stage.isNormal_runAll`: a stage and a history keep the invariant.
* `CardIndex.IsNormal.insert_comm` and its likes: laws of inserting and removing.
* `Run.endsWith_listCards`: a list of the cards shows the index that the store holds.
* `form_is_canonical`: two histories to the same relation lead to the same index, the same
  files and the same lists.
-/

namespace CubeQuery

open Simulation (Yields)

/-! ## Histories -/

theorem CardIndex.IsNormal.operation {index : CardIndex} (h : index.IsNormal)
    (op : CardIndex.Operation) : (op.run index).IsNormal := by
  cases op with
  | withCard card cubes => exact h.insertAll card cubes
  | insert card cube => exact h.insert card cube
  | remove card cube => exact h.remove card cube
  | removeCard card => exact h.removeCard card

/-- A stage in the history of an index. -/
inductive Stage where
  | operation (operation : CardIndex.Operation)
  | save (store : Store)
  | load (store : Store)
  | loadOrEmpty (store : Store)

namespace Stage

/-- The index after a stage. It stays as it is when a save or a load fails. -/
def run (index : CardIndex) : Stage → Simulation CardIndex
  | operation op => pure (op.run index)
  | save store => do
    let _ ← store.save index
    pure index
  | load store => do
    let result ← store.load
    pure (result.toOption.getD index)
  | loadOrEmpty store => do
    let result ← store.loadOrEmpty
    pure (result.toOption.getD index)

/-- The index after one stage after the other. -/
def runAll (index : CardIndex) (stages : List Stage) : Simulation CardIndex :=
  stages.foldlM run index

variable {index : CardIndex}

/-- A stage keeps the invariant, whatever the files are. -/
theorem isNormal_run (h : index.IsNormal) (stage : Stage) (world : World) :
    (run index stage world).1.IsNormal := by
  -- what is loaded has the invariant, whoever wrote it
  have hresult : ∀ {result : Except StoreError CardIndex},
      (∀ loaded, result = .ok loaded → loaded.IsNormal) →
        (result.toOption.getD index).IsNormal := by
    intro result hloaded
    cases result with
    | error e => exact h
    | ok loaded => exact hloaded loaded rfl
  cases stage with
  | operation op => exact h.operation op
  | save store => exact h
  | load store =>
    exact hresult fun loaded hload => Store.isNormal_of_load (Prod.ext hload rfl)
  | loadOrEmpty store =>
    exact hresult fun loaded hload => Store.isNormal_of_loadOrEmpty (Prod.ext hload rfl)

/-- A history keeps the invariant. -/
theorem isNormal_runAll (h : index.IsNormal) (stages : List Stage) (world : World) :
    (runAll index stages world).1.IsNormal := by
  induction stages generalizing index world with
  | nil => exact h
  | cons stage stages ih =>
    rw [runAll, List.foldlM_cons]
    exact ih (isNormal_run h stage world) (run index stage world).2

end Stage

/-! ## Laws of the operations -/

namespace CardIndex.IsNormal

variable {index : CardIndex} (h : index.IsNormal)

include h

theorem insert_comm (card cube card' cube' : String) :
    ((index.insert card cube).2.insert card' cube').2 =
      ((index.insert card' cube').2.insert card cube).2 := by
  refine eq_of_pairs_eq ((h.insert card cube).insert card' cube')
    ((h.insert card' cube').insert card cube) ?_
  rw [pairs_insert (h.insert card cube), pairs_insert h, pairs_insert (h.insert card' cube'),
    pairs_insert h, Finset.insert_comm]

/-- A pair that is inserted again, under any spelling of the card, changes nothing. -/
theorem insert_insert {card card' : String} (hname : normalName card = normalName card')
    (cube : String) :
    ((index.insert card cube).2.insert card' cube).2 = (index.insert card cube).2 := by
  refine eq_of_pairs_eq ((h.insert card cube).insert card' cube) (h.insert card cube) ?_
  rw [pairs_insert (h.insert card cube), pairs_insert h, ← hname, Finset.insert_idem]

/-- A pair that was absent leaves nothing behind when it is inserted and removed. -/
theorem remove_insert {card card' : String} (hname : normalName card = normalName card')
    {cube : String} (hcube : (normalName card, cube) ∉ index.pairs) :
    ((index.insert card cube).2.remove card' cube).2 = index := by
  refine eq_of_pairs_eq ((h.insert card cube).remove card' cube) h ?_
  rw [pairs_remove (h.insert card cube), pairs_insert h, ← hname, Finset.erase_insert hcube]

end CardIndex.IsNormal

/-! ## Files and lists of the cards -/

/-- A save of the index that succeeds leaves these bytes in the store's file. -/
def Store.SavesAs (store : Store) (index : CardIndex) (bytes : ByteArray) : Prop :=
  ∃ world world', (store.save index : Simulation _) world = (.ok (), world') ∧
    world'.files.readBytes store.path = .ok bytes

theorem Store.SavesAs.eq_written {store : Store} {index : CardIndex} {bytes : ByteArray}
    (h : store.SavesAs index bytes) : bytes = index.written.toUTF8 := by
  obtain ⟨world, world', hsave, hread⟩ := h
  rw [(Store.ready_of_save hsave).2] at hread
  exact (Except.ok.inj hread).symm

namespace Run

variable {run run' : Run} {index : CardIndex}

/-- A list of the cards shows the index that the store holds. -/
theorem endsWith_listCards [Wording] (hcommand : run.command = .listCards)
    (hload : Yields run.store.loadOrEmpty run.files (.ok index) run.files) :
    run.EndsWith (.ok (.cards index)) run.files := by
  refine Run.endsWith_of_yields hcommand ?_
  exact yields_withStore run.chosen (yields_withIndex hload (.pure _))

/-- The run lists the cards of a file that holds what a save of the index wrote. -/
structure ListsSaved (run : Run) (index : CardIndex) : Prop where
  command : run.command = .listCards
  holds : ∃ store bytes, Store.SavesAs store index bytes ∧
    run.files.readBytes run.store.path = .ok bytes

/-- Two runs show their replies in the same way. -/
structure ShowsLike (run run' : Run) : Prop where
  presentation : run.invocation.presentation = run'.invocation.presentation
  colour : run.settings.colour.getD true = run'.settings.colour.getD true

/-- A list right after a save. -/
theorem ListsSaved.of_save {world world' : World} (hcommand : run.command = .listCards)
    (hsave : (run.store.save index : Simulation _) world = (.ok (), world'))
    (hfiles : run.files = world'.files) : run.ListsSaved index := by
  have hread := (Store.ready_of_save hsave).2
  exact ⟨hcommand, run.store, _, ⟨world, world', hsave, hread⟩, hfiles ▸ hread⟩

theorem ListsSaved.endsWith [Wording] (h : run.ListsSaved index) (hindex : index.IsNormal) :
    run.EndsWith (.ok (.cards index)) run.files := by
  obtain ⟨store, bytes, hsaves, hread⟩ := h.holds
  rw [hsaves.eq_written] at hread
  exact endsWith_listCards h.command (Store.yields_loadOrEmpty hindex hread)

/-- Runs with the same reply print the same when they show it in the same way. -/
theorem EndsWith.prints_eq [Wording] {result : Except Failure Reply} {files files' : FileTree}
    (h : run.EndsWith result files) (h' : run'.EndsWith result files')
    (hshows : run.ShowsLike run') :
    run.ending.1.stdout = run'.ending.1.stdout ∧
      run.ending.1.exitCode = run'.ending.1.exitCode := by
  obtain ⟨log, h⟩ := h
  obtain ⟨log', h'⟩ := h'
  rw [h, h', hshows.presentation, hshows.colour]
  exact ⟨rfl, rfl⟩

end Run

/-! ## One form -/

/-- **The form of an index is canonical.** Two histories from reachable indexes that leave the
    same relation leave the same index, whatever the operations are, in whatever order they
    come, and however often the index is saved and loaded on the way. All files that it is then
    saved to hold the same bytes, and all lists of the cards in them print the same. In
    particular, inserts commute and can be repeated, and removing a new pair undoes its
    insertion. -/
theorem form_is_canonical [Wording] {start start' : CardIndex} (hstart : start.Reachable)
    (hstart' : start'.Reachable) :
    (∀ (stages stages' : List Stage) (world world' : World),
      let index := (Stage.runAll start stages world).1
      let index' := (Stage.runAll start' stages' world').1
      index.pairs = index'.pairs →
        index = index' ∧
        (∀ (store store' : Store) (bytes bytes' : ByteArray),
          store.SavesAs index bytes → store'.SavesAs index' bytes' → bytes = bytes') ∧
        ∀ run run' : Run, run.ListsSaved index → run'.ListsSaved index' → run.ShowsLike run' →
          run.ending.1.stdout = run'.ending.1.stdout ∧
            run.ending.1.exitCode = run'.ending.1.exitCode) ∧
    (∀ card cube card' cube', ((start.insert card cube).2.insert card' cube').2 =
      ((start.insert card' cube').2.insert card cube).2) ∧
    ∀ card card', normalName card = normalName card' →
      (∀ cube, ((start.insert card cube).2.insert card' cube).2 = (start.insert card cube).2) ∧
      ∀ cube, (normalName card, cube) ∉ start.pairs →
        ((start.insert card cube).2.remove card' cube).2 = start := by
  have hnormal := hstart.isNormal
  refine ⟨?_, hnormal.insert_comm, fun card card' hname =>
    ⟨hnormal.insert_insert hname, fun cube => hnormal.remove_insert hname⟩⟩
  intro stages stages' world world' index index' hpairs
  have hindex : index.IsNormal := Stage.isNormal_runAll hnormal stages world
  have hindex' : index'.IsNormal := Stage.isNormal_runAll hstart'.isNormal stages' world'
  have heq : index = index' := CardIndex.eq_of_pairs_eq hindex hindex' hpairs
  refine ⟨heq, ?_, ?_⟩
  · intro store store' bytes bytes' hbytes hbytes'
    rw [hbytes.eq_written, hbytes'.eq_written, heq]
  · intro run run' hlists hlists' hshows
    have hends := hlists.endsWith hindex
    rw [heq] at hends
    exact hends.prints_eq (hlists'.endsWith hindex') hshows

/-- Two cubes of a card that come one by one, with a save and a load between them, and the
    same cubes that come at once in the other order, with a third one that goes again. They are
    saved to two files, and listed from each. -/
theorem form_is_canonical_of_detour :
    let stages : List Stage := [.operation (.insert " Bolt" "b"), .save ⟨⟨"a.json"⟩⟩,
      .load ⟨⟨"a.json"⟩⟩, .operation (.insert "BOLT" "a")]
    let stages' : List Stage := [.operation (.withCard "bolt" ["a", "c", "b"]),
      .operation (.remove "Bolt\t" "c")]
    let index := (Stage.runAll .empty stages ⟨.empty, []⟩).1
    let index' := (Stage.runAll .empty stages' ⟨.empty, []⟩).1
    let env (cards : String) : Environment :=
      ⟨some "/home", none, none, none, some cards, none, none, none, none⟩
    let saved := ((Store.save ⟨⟨"a.json"⟩⟩ index : Simulation _) ⟨.empty, []⟩).2
    let saved' := ((Store.save ⟨⟨"b.json"⟩⟩ index' : Simulation _) ⟨.empty, []⟩).2
    index.pairs = {("bolt", "a"), ("bolt", "b")} ∧ index'.pairs = {("bolt", "a"), ("bolt", "b")} ∧
      index = index' ∧
      (simulate (env "a.json") ["index", "list"] saved.files).1.stdout =
        (simulate (env "b.json") ["index", "list"] saved'.files).1.stdout := by
  intro stages stages' index index' env saved saved'
  have hpairs : index.pairs = {("bolt", "a"), ("bolt", "b")} := by decide +kernel
  have hpairs' : index'.pairs = {("bolt", "a"), ("bolt", "b")} := by decide +kernel
  obtain ⟨heq, -, hlists⟩ := (form_is_canonical .empty .empty).1 stages stages' ⟨.empty, []⟩
    ⟨.empty, []⟩ (hpairs.trans hpairs'.symm)
  let run : Run := ⟨env "a.json", ["index", "list"], saved.files,
    ⟨⟨.listCards, some ⟨"a.json"⟩⟩, ⟨false, false, false, false⟩⟩, .unset, ⟨⟨"a.json"⟩⟩,
    rfl, ⟨_, rfl, rfl⟩, rfl⟩
  let run' : Run := ⟨env "b.json", ["index", "list"], saved'.files,
    ⟨⟨.listCards, some ⟨"b.json"⟩⟩, ⟨false, false, false, false⟩⟩, .unset, ⟨⟨"b.json"⟩⟩,
    rfl, ⟨_, rfl, rfl⟩, rfl⟩
  have hfirst : ∀ index, ((Store.save ⟨⟨"a.json"⟩⟩ index : Simulation _) ⟨.empty, []⟩).1 =
      .ok () := fun _ => by rfl
  have hfirst' : ∀ index, ((Store.save ⟨⟨"b.json"⟩⟩ index : Simulation _) ⟨.empty, []⟩).1 =
      .ok () := fun _ => by rfl
  have hsave : (run.store.save index : Simulation _) ⟨.empty, []⟩ = (.ok (), saved) :=
    Prod.ext (hfirst index) rfl
  have hsave' : (run'.store.save index' : Simulation _) ⟨.empty, []⟩ = (.ok (), saved') :=
    Prod.ext (hfirst' index') rfl
  have hlisted : run.ListsSaved index := .of_save rfl hsave rfl
  have hlisted' : run'.ListsSaved index' := .of_save rfl hsave' rfl
  have hprints := (hlists run run' hlisted hlisted' ⟨rfl, rfl⟩).1
  have hending : run.ending = simulate (env "a.json") ["index", "list"] saved.files := rfl
  have hending' : run'.ending = simulate (env "b.json") ["index", "list"] saved'.files :=
    rfl
  rw [hending, hending'] at hprints
  exact ⟨hpairs, hpairs', heq, hprints⟩

end CubeQuery
