import CubeQuery.Proofs.CardIndex.Relation
import CubeQuery.Proofs.Clause.Grammar
import CubeQuery.Proofs.CommandLine.Replies

/-!
# Editing an index in several runs

Runs of the program add cubes to cards and remove them, each on the files that
the one before left. Together they do what the same edits do to a relation
between normal names and cubes, and every answer on the way is an answer from
that relation.

* `Edit.apply`: what an edit does to a relation.
* `Keeps`: a store holds an index and can be saved to. `Keeps.step`: a run of an edit
  keeps that, with the relation edited.
* `History.keeps`: the same for any number of runs.
* `AnswersFrom`: what all runs print that add, remove, compile or show, when the store holds a
  relation.
* `edits_refine_relation`: the index and all answers after any number of runs.
-/

namespace CubeQuery

open Simulation (Yields)

/-! ## Edits -/

/-- A change of the index that a run asks for. -/
inductive Edit where
  | add (card : String) (cubes : List String)
  /-- No cubes stand for all cubes of the card. -/
  | remove (card : String) (cubes : List String)

namespace Edit

/-- The command that asks for an edit. -/
def command : Edit → Command
  | add card cubes => .addCubes card cubes
  | remove card cubes => .removeCubes card cubes

/-- What an edit does to a relation between normal names and cubes. -/
def apply : Edit → Finset (String × String) → Finset (String × String)
  | add card cubes, pairs => pairs ∪ {normalName card} ×ˢ cubes.toFinset
  | remove card [], pairs => pairs.filter fun pair => pair.1 ≠ normalName card
  | remove card cubes, pairs => pairs \ {normalName card} ×ˢ cubes.toFinset

theorem apply_remove_subset (card : String) (cubes : List String)
    (pairs : Finset (String × String)) : (remove card cubes).apply pairs ⊆ pairs := by
  cases cubes with
  | nil => exact Finset.filter_subset _ pairs
  | cons cube cubes => exact Finset.sdiff_subset

end Edit

/-! ### Arguments -/

namespace Edit

/-- Arguments that ask for an edit. After two dashes a name can start with a dash. -/
def arguments : Edit → List String
  | add card cubes => "index" :: "add" :: "--" :: card :: cubes
  | remove card cubes => "index" :: "remove" :: "--" :: card :: cubes

end Edit

/-- After two dashes every argument is a value, whatever it looks like. -/
theorem read_values (level : Level) (outer : List Level) (hlimit : level.verb.valueLimit? = none)
    (hrejects : ∀ value, level.verb.rejects value = false) (hfault : level.fault = false)
    (values : List String) :
    Levels.read ⟨level, outer⟩ .values values =
      .ok ⟨{ level with values := level.values ++ values }, outer⟩ := by
  induction values generalizing level with
  | nil => rw [Levels.read, if_neg (by decide), List.append_nil]
  | cons value values ih =>
    have hadd : level.addValue value = .ok { level with
        values := level.values ++ [value], fault := level.verb.rejects value } := by
      rw [Level.addValue, hfault, if_neg Bool.false_ne_true, hlimit]
      rfl
    rw [Levels.read]
    simp only [Levels.takeValue, hadd]
    have hrest := ih { level with
      values := level.values ++ [value], fault := level.verb.rejects value } hlimit hrejects
      (hrejects value)
    rw [hrest, hrejects, hfault, List.append_assoc]
    rfl

/-- Without options, arguments of an index command are accepted with their values. -/
theorem ofArguments_of_read {env : Environment} (hcards : env.cards ≠ some "")
    {arguments values : List String} {verb : Verb} {command : Command}
    (hread : Levels.read ⟨Level.start .program, []⟩ .options arguments =
      .ok ⟨⟨verb, [], none, values, false⟩, [Level.start .index, Level.start .program]⟩)
    (hcommand : verb.command? values = some command) :
    Invocation.ofArguments env arguments =
      .ok ⟨⟨command, env.cards.map Path.mk⟩, ⟨false, false, false, false⟩⟩ := by
  have hsound : ∀ verb values, Level.isSound ⟨verb, [], none, values, false⟩ env = true := by
    intro verb values
    simp [Level.isSound, hcards]
  rw [Invocation.ofArguments, hread]
  simp only [Levels.all, Level.start, List.all_cons, List.all_nil, hsound, Bool.and_self, if_true,
    hcommand]
  rfl

/-- Every name and all cubes are accepted after two dashes. -/
theorem ofArguments_arguments {env : Environment} (hcards : env.cards ≠ some "") (edit : Edit)
    (hedit : ∀ card, edit ≠ .add card []) :
    Invocation.ofArguments env edit.arguments =
      .ok ⟨⟨edit.command, env.cards.map Path.mk⟩, ⟨false, false, false, false⟩⟩ := by
  have hvalues : ∀ verb, verb.valueLimit? = none → (∀ value, verb.rejects value = false) →
      ∀ outer values, Levels.read ⟨Level.start verb, outer⟩ .values values =
        .ok ⟨⟨verb, [], none, values, false⟩, outer⟩ := by
    intro verb hlimit hrejects outer values
    exact read_values (Level.start verb) outer hlimit hrejects rfl values
  cases edit with
  | add card cubes =>
    obtain ⟨cube, cubes, rfl⟩ := List.exists_cons_of_ne_nil fun hnil => hedit card (hnil ▸ rfl)
    exact ofArguments_of_read hcards (hvalues .indexAdd rfl (fun _ => rfl) _ _) rfl
  | remove card cubes =>
    exact ofArguments_of_read hcards (hvalues .indexRemove rfl (fun _ => rfl) _ _) rfl

section Taking

variable {index : CardIndex} (h : index.IsNormal) (card : String) (cubes : List String)

include h

theorem isNormal_takeCubes : (takeCubes index (normalName card) cubes).2.IsNormal := by
  cases cubes with
  | nil => exact h.removeCard _
  | cons cube cubes => exact h.removeAll _ _

/-- Taking cubes from an index is the edit of its relation. -/
theorem pairs_takeCubes :
    (takeCubes index (normalName card) cubes).2.pairs =
      (Edit.remove card cubes).apply index.pairs := by
  cases cubes with
  | nil =>
    have hpairs := CardIndex.pairs_removeCard h (normalName card)
    rw [normalName_normalName] at hpairs
    exact hpairs
  | cons cube cubes =>
    have hpairs := CardIndex.pairs_removeAll h (normalName card) (cube :: cubes)
    rw [CardIndex.pairsOf, normalName_normalName] at hpairs
    exact hpairs

/-- The number of cubes that were taken is that of the pairs that the edit deletes. -/
theorem takeCubes_fst :
    (takeCubes index (normalName card) cubes).1 =
      (index.pairs \ (Edit.remove card cubes).apply index.pairs).card := by
  rw [← pairs_takeCubes h]
  cases cubes with
  | nil => exact CardIndex.removeCard_fst h (normalName card)
  | cons cube cubes => exact CardIndex.removeAll_fst h (normalName card) (cube :: cubes)

end Taking

/-! ## Stores that hold an index -/

/-- The store holds the index and can be saved to. -/
structure Keeps (store : Store) (files : FileTree) (index : CardIndex) : Prop where
  normal : index.IsNormal
  loads : Yields store.loadOrEmpty files (.ok index) files
  saves : store.CanSave files

theorem keeps_of_load {store : Store} {files : FileTree} {index : CardIndex}
    (hload : ((store.loadOrEmpty : Simulation _) ⟨files, []⟩).1 = .ok index)
    (hsave : store.CanSave files) : Keeps store files index := by
  have hloads := (Store.looksOnly_loadOrEmpty store).yields ⟨files, []⟩
  rw [hload] at hloads
  exact ⟨Store.isNormal_of_loadOrEmpty (Prod.ext hload rfl), hloads, hsave⟩

namespace Keeps

variable {store : Store} {files : FileTree} {index index' : CardIndex}

/-- After a save the store holds the index that was saved. -/
theorem saveThen (h : Keeps store files index) (hnormal : index'.IsNormal) (reply : Reply) :
    ∃ files', Yields (CubeQuery.saveThen store index' reply) files (.ok reply) files' ∧
      Keeps store files' index' := by
  obtain ⟨files', hsave, hcan, hread⟩ := h.saves.save index'
  exact ⟨files', hsave.bind (.pure _), hnormal, Store.yields_loadOrEmpty hnormal hread, hcan⟩

end Keeps

/-! ## Runs on such a store -/

namespace Keeps

variable [Wording] {run : Run} {index : CardIndex} {card : String} {cubes : List String}

/-- Adding cubes adds them to the index that the store holds. -/
theorem endsWith_addCubes (h : Keeps run.store run.files index)
    (hcommand : run.command = .addCubes card cubes) :
    ∃ files, run.EndsWith (.ok (.added (normalName card) (index.insertAll card cubes).1
        ((index.insertAll card cubes).2.cubes? (normalName card)))) files ∧
      Keeps run.store files (index.insertAll card cubes).2 := by
  obtain ⟨files, hsave, hkeeps⟩ := h.saveThen (h.normal.insertAll card cubes)
    (.added (normalName card) (index.insertAll card cubes).1
      ((index.insertAll card cubes).2.cubes? (normalName card)))
  refine ⟨files, Run.endsWith_of_yields hcommand ?_, hkeeps⟩
  exact yields_withStore run.chosen (yields_withIndex h.loads hsave)

/-- Removing cubes that are not there fails and changes no file. -/
theorem endsWith_notFound (h : Keeps run.store run.files index)
    (hcommand : run.command = .removeCubes card cubes)
    (hnone : (takeCubes index (normalName card) cubes).1 = 0) :
    run.EndsWith (.error (.notFound (normalName card))) run.files := by
  refine Run.endsWith_of_yields hcommand ?_
  refine yields_withStore run.chosen (yields_withIndex h.loads ?_)
  dsimp only
  rw [if_pos hnone]
  exact .pure _

/-- Removing cubes takes them from the index that the store holds. -/
theorem endsWith_removed (h : Keeps run.store run.files index)
    (hcommand : run.command = .removeCubes card cubes)
    (hsome : (takeCubes index (normalName card) cubes).1 ≠ 0) :
    ∃ files, run.EndsWith
        (.ok (.removed (normalName card) (takeCubes index (normalName card) cubes).1)) files ∧
      Keeps run.store files (takeCubes index (normalName card) cubes).2 := by
  obtain ⟨files, hsave, hkeeps⟩ := h.saveThen (isNormal_takeCubes h.normal card cubes)
    (.removed (normalName card) (takeCubes index (normalName card) cubes).1)
  refine ⟨files, Run.endsWith_of_yields hcommand ?_, hkeeps⟩
  refine yields_withStore run.chosen (yields_withIndex h.loads ?_)
  dsimp only
  rw [if_neg hsome]
  exact hsave

/-- A card is shown with its cubes in the index that the store holds. -/
theorem endsWith_showCard (h : Keeps run.store run.files index)
    (hcommand : run.command = .showCard card) :
    run.EndsWith (.ok (.card (normalName card) (index.cubes (normalName card)))) run.files := by
  refine Run.endsWith_of_yields hcommand ?_
  exact yields_withStore run.chosen (yields_withIndex h.loads (.pure _))

/-- A clause on a card is compiled to membership in its cubes in the index that the store
    holds. -/
theorem endsWith_compile (h : Keeps run.store run.files index) {clause : String}
    (hcommand : run.command = .compile clause)
    (hclause : Clause.tokenize clause = .ok ⟨"card", .equal, card⟩) :
    run.EndsWith (.ok (.compiled (Filter.ofComparison
      ⟨"_id", .oneOf, .set (index.cubes card), false⟩ "card"))) run.files := by
  have hsame : Text.SameName "card" "card" := Text.sameIgnoringAsciiCase_iff.mp (by decide)
  have hplan := Filter.plan_of_judged (.card hclause hsame)
  have hcubes : Yields (run.store.find card) run.files (.ok (index.cubes card)) run.files :=
    h.loads.bind (.pure _)
  have hfind : Yields (findNoting run.store card) run.files (.ok (index.cubes card)) run.files :=
    hcubes.bind ((Yields.note _).bind (.pure _))
  have hcompile : Yields (Filter.compile (findNoting run.store) clause) run.files
      (.ok (Filter.ofComparison ⟨"_id", .oneOf, .set (index.cubes card), false⟩ "card"))
      run.files := by
    rw [Filter.compile, hplan]
    exact hfind.bind (.pure _)
  refine Run.endsWith_of_yields hcommand ?_
  exact yields_withStore run.chosen ((yields_noteAll _ _).bind (hcompile.bind (.pure _)))

/-- A run of an edit: the store holds an index with the relation edited. -/
theorem step (h : Keeps run.store run.files index) {edit : Edit}
    (hcommand : run.command = edit.command) :
    ∃ index', Keeps run.store run.ending.2 index' ∧ index'.pairs = edit.apply index.pairs := by
  cases edit with
  | add card cubes =>
    obtain ⟨files, hends, hkeeps⟩ := h.endsWith_addCubes hcommand
    rw [hends.files_eq]
    exact ⟨_, hkeeps, CardIndex.pairs_insertAll h.normal card cubes⟩
  | remove card cubes =>
    have hcount := takeCubes_fst h.normal card cubes
    by_cases hnone : (takeCubes index (normalName card) cubes).1 = 0
    · rw [(h.endsWith_notFound hcommand hnone).files_eq]
      refine ⟨index, h, ?_⟩
      -- nothing is deleted, so the edit leaves the relation as it is
      rw [hcount, Finset.card_eq_zero, Finset.sdiff_eq_empty_iff_subset] at hnone
      exact hnone.antisymm (Edit.apply_remove_subset card cubes _)
    · obtain ⟨files, hends, hkeeps⟩ := h.endsWith_removed hcommand hnone
      rw [hends.files_eq]
      exact ⟨_, hkeeps, pairs_takeCubes h.normal card cubes⟩

end Keeps

/-! ## Any number of runs -/

/-- Runs of edits on one store, each on the files that the one before left: the edits in their
    order, and the files in the end. -/
inductive History [Wording] (store : Store) (start : FileTree) : List Edit → FileTree → Prop
  | nil : History store start [] start
  | snoc {edits : List Edit} {edit : Edit} (run : Run) :
    History store start edits run.files → run.store = store → run.command = edit.command →
    History store start (edits ++ [edit]) run.ending.2

/-- The relation after some edits. -/
def replay (edits : List Edit) (pairs : Finset (String × String)) : Finset (String × String) :=
  edits.foldl (fun pairs edit => edit.apply pairs) pairs

/-- After any number of runs the store holds an index with the relation edited. -/
theorem History.keeps [Wording] {store : Store} {start files : FileTree} {edits : List Edit}
    {index : CardIndex} (hstart : Keeps store start index)
    (h : History store start edits files) :
    ∃ index', Keeps store files index' ∧ index'.pairs = replay edits index.pairs := by
  induction h with
  | nil => exact ⟨index, hstart, rfl⟩
  | snoc run _ hstore hcommand ih =>
    subst hstore
    obtain ⟨index', hkeeps, hpairs⟩ := ih
    obtain ⟨index'', hkeeps', hpairs'⟩ := hkeeps.step hcommand
    refine ⟨index'', hkeeps', ?_⟩
    rw [hpairs', hpairs, replay, replay, List.foldl_append]
    rfl

/-! ## Answers from the relation -/

/-- The cubes that an edit adds to a card: those that the card does not have, each once. -/
def newCubes (pairs : Finset (String × String)) (card : String) (cubes : List String) :
    Finset String :=
  cubes.toFinset.filter fun cube => (normalName card, cube) ∉ pairs

/-- The pairs that an edit deletes. -/
def deletedPairs (pairs : Finset (String × String)) (card : String) (cubes : List String) :
    Finset (String × String) :=
  pairs \ (Edit.remove card cubes).apply pairs

/-- The cubes of a card in a relation as they are listed, in ascending order. -/
def ListsCubes (pairs : Finset (String × String)) (card : String) (cubes : List String) : Prop :=
  cubes.Pairwise (· < ·) ∧ ∀ cube, cube ∈ cubes ↔ (normalName card, cube) ∈ pairs

/-- The answers of all runs on the files of a store that holds a relation. -/
structure AnswersFrom [Wording] (store : Store) (files : FileTree)
    (pairs : Finset (String × String)) : Prop where
  /-- Adding tells how many of the cubes are new, each counted once, and lists the cubes of the
      card afterwards. -/
  added : ∀ run : Run, run.store = store → run.files = files → ∀ card cubes,
    run.command = .addCubes card cubes →
    ∃ known, ListsCubes ((Edit.add card cubes).apply pairs) card known ∧
      run.Prints
        (.object [("added", .int (newCubes pairs card cubes).card),
          ("card", .text (normalName card)), ("cubes", .texts known),
          ("status", .text "success")])
        ("Added " ++ toString (newCubes pairs card cubes).card ++ " cube(s) to '" ++
          normalName card ++ "'\n")
  /-- Removing tells how many pairs are deleted. -/
  removed : ∀ run : Run, run.store = store → run.files = files → ∀ card cubes,
    run.command = .removeCubes card cubes → deletedPairs pairs card cubes ≠ ∅ →
    run.Prints
      (.object [("card", .text (normalName card)),
        ("removed", .int (deletedPairs pairs card cubes).card), ("status", .text "success")])
      ("Removed " ++ toString (deletedPairs pairs card cubes).card ++ " cube(s) from '" ++
        normalName card ++ "'\n")
  /-- Removing fails when no pair is deleted, and leaves the files as they are. -/
  notFound : ∀ run : Run, run.store = store → run.files = files → ∀ card cubes,
    run.command = .removeCubes card cubes → deletedPairs pairs card cubes = ∅ →
    run.Refuses 1 "NOT_FOUND"
        ("card '" ++ normalName card ++ "' has no matching entries in the index") ∧
      run.ending.2 = files
  /-- A clause with the name of a card between quotes asks for membership in its cubes. -/
  compiled : ∀ run : Run, run.store = store → run.files = files → ∀ card quote,
    card ≠ "" → Clause.IsQuote quote →
    run.command = .compile (Clause.written quote ⟨"card", .equal, card⟩) →
    ∃ cubes query, ListsCubes pairs card cubes ∧
      Json.read query = .ok (.object [("_id", .object [("$in", .texts cubes)])]) ∧
      run.Prints
        (.object [("err", .null), ("filter", .object [
          ("query", .object [("_id", .object [("$in", .texts cubes)])]),
          ("fieldsUsed", .texts ["card"])])])
        (printedFilter run.isColoured query) ∧
      run.ending.2 = files
  /-- A card is shown with its cubes. -/
  shown : ∀ run : Run, run.store = store → run.files = files → ∀ card,
    run.command = .showCard card →
    ∃ cubes, ListsCubes pairs card cubes ∧
      run.Prints (.object [("card", .text (normalName card)), ("cubes", .texts cubes)])
        (printedCard run.isColoured (normalName card) cubes) ∧
      run.ending.2 = files

/-- A set of cubes in its ascending order. -/
theorem listsCubes_of_mem_iff {pairs : Finset (String × String)} {card : String}
    {cubes : TextSet} (h : ∀ cube, cube ∈ cubes ↔ (normalName card, cube) ∈ pairs) :
    ListsCubes pairs card cubes.toList :=
  ⟨cubes.ascending, h⟩

theorem command?_ne_addCubes_nil (verb : Verb) (values : List String) (card : String) :
    verb.command? values ≠ some (.addCubes card []) := by
  intro h
  unfold Verb.command? at h
  split at h
  all_goals simp at h

/-- Arguments for adding name at least one cube. -/
theorem Run.cubes_ne_nil {run : Run} {card : String} {cubes : List String}
    (hcommand : run.command = .addCubes card cubes) : cubes ≠ [] := by
  rintro rfl
  have haccepted := run.accepted
  unfold Invocation.ofArguments at haccepted
  split at haccepted
  · cases haccepted
  · next levels _ =>
    split_ifs at haccepted
    split at haccepted
    · cases haccepted
    · next command hverb =>
      have hsame : command = run.command := by
        rw [Run.command, ← Except.ok.inj haccepted]
      rw [hsame, hcommand] at hverb
      exact command?_ne_addCubes_nil _ _ card hverb

/-- A store that holds an index answers from its relation. -/
theorem Keeps.answersFrom [Wording] {store : Store} {files : FileTree} {index : CardIndex}
    (h : Keeps store files index) : AnswersFrom store files index.pairs where
  added := by
    rintro run rfl rfl card cubes hcommand
    obtain ⟨files, hends, hkeeps⟩ := h.endsWith_addCubes hcommand
    have hmem : ∀ cube, cube ∈ (index.insertAll card cubes).2.cubes (normalName card) ↔
        (normalName card, cube) ∈ (Edit.add card cubes).apply index.pairs := by
      intro cube
      rw [CardIndex.mem_cubes hkeeps.normal, CardIndex.pairs_insertAll h.normal,
        normalName_normalName]
      rfl
    obtain ⟨cube, hcube⟩ := List.exists_mem_of_ne_nil cubes (Run.cubes_ne_nil hcommand)
    have hadded : cube ∈ (index.insertAll card cubes).2.cubes (normalName card) := by
      rw [hmem]
      exact Finset.mem_union_right _ (by simpa using hcube)
    -- the card has a cube now, so it is indexed
    rw [CardIndex.cubes] at hmem hadded
    cases hknown : (index.insertAll card cubes).2.cubes? (normalName card) with
    | none =>
      rw [hknown] at hadded
      exact absurd hadded (TextSet.not_mem_empty cube)
    | some known =>
      rw [hknown] at hmem hends
      rw [CardIndex.insertAll_fst h.normal] at hends
      exact ⟨known.toList, listsCubes_of_mem_iff hmem, Run.prints_of_added hends⟩
  removed := by
    rintro run rfl rfl card cubes hcommand hdeleted
    have hcount := takeCubes_fst h.normal card cubes
    have hsome : (takeCubes index (normalName card) cubes).1 ≠ 0 := by
      rw [hcount]
      exact Finset.card_ne_zero.mpr (Finset.nonempty_iff_ne_empty.mpr hdeleted)
    obtain ⟨files, hends, -⟩ := h.endsWith_removed hcommand hsome
    rw [hcount] at hends
    exact Run.prints_of_removed hends
  notFound := by
    rintro run rfl rfl card cubes hcommand hdeleted
    have hnone : (takeCubes index (normalName card) cubes).1 = 0 := by
      rw [takeCubes_fst h.normal]
      exact Finset.card_eq_zero.mpr hdeleted
    have hends := h.endsWith_notFound hcommand hnone
    exact ⟨Run.refuses_of_notFound hends, hends.files_eq⟩
  compiled := by
    rintro run rfl rfl card quote hcard hquote hcommand
    have hclause : Clause.tokenize (Clause.written quote ⟨"card", .equal, card⟩) =
        .ok ⟨"card", .equal, card⟩ :=
      Clause.tokenize_written hquote (show "card" ≠ "" by decide)
        (show ∀ c ∈ "card".toList, Clause.IsNameChar c by simp [Clause.IsNameChar]) hcard
    have hends := h.endsWith_compile hcommand hclause
    obtain ⟨query, hquery, hprints⟩ := Run.prints_of_compiled hends
    exact ⟨_, query, listsCubes_of_mem_iff fun cube => CardIndex.mem_cubes h.normal, hquery,
      hprints, hends.files_eq⟩
  shown := by
    rintro run rfl rfl card hcommand
    have hends := h.endsWith_showCard hcommand
    refine ⟨_, listsCubes_of_mem_iff fun cube => ?_, Run.prints_of_card hends, hends.files_eq⟩
    rw [CardIndex.mem_cubes h.normal, normalName_normalName]

/-- **Runs of edits refine the edits of a relation.** Let a store be without a file or with one
    that loads, and let every index be saved to it. After any number of runs that add cubes to
    cards or remove them, the index that loads is the one whose relation is the first relation
    with these edits, and every run on these files answers from that relation. -/
theorem edits_refine_relation [Wording] {store : Store} {start files : FileTree} {first : CardIndex}
    {edits : List Edit}
    (hload : ((store.loadOrEmpty : Simulation _) ⟨start, []⟩).1 = .ok first)
    (hsave : ∀ index, ((store.save index : Simulation _) ⟨start, []⟩).1 = .ok ())
    (hhistory : History store start edits files) :
    ∃ index, ((store.loadOrEmpty : Simulation _) ⟨files, []⟩).1 = .ok index ∧
      (∀ other : CardIndex,
        other = index ↔ other.IsNormal ∧ other.pairs = replay edits first.pairs) ∧
      AnswersFrom store files (replay edits first.pairs) := by
  obtain ⟨index, hkeeps, hpairs⟩ := hhistory.keeps (keeps_of_load hload hsave)
  refine ⟨index, hkeeps.loads.fst, fun other => ⟨?_, ?_⟩, hpairs ▸ hkeeps.answersFrom⟩
  · rintro rfl
    exact ⟨hkeeps.normal, hpairs⟩
  · rintro ⟨hnormal, hother⟩
    exact CardIndex.eq_of_pairs_eq hnormal hkeeps.normal (hother.trans hpairs.symm)

/-- A card with a dash and a blank in its name gets two cubes, one of them named twice, and
    loses one again under another spelling. It is shown with the other, and getting both once
    more adds one. -/
theorem edits_refine_relation_of_two_runs :
    let env : Environment :=
      ⟨some "/home", none, none, none, some "cards.json", none, none, none, none⟩
    ∃ (files : FileTree) (index : CardIndex),
      History ⟨⟨"cards.json"⟩⟩ .empty
        [.add "-Ring " ["b", "a", "b"], .remove "-RING" ["b"]] files ∧
      ((Store.loadOrEmpty ⟨⟨"cards.json"⟩⟩ : Simulation _) ⟨files, []⟩).1 = .ok index ∧
      index.pairs = {("-ring", "a")} ∧
      (simulate env ["index", "show", "--", " -RING"] files).1.stdout =
        "\x1b[1m-ring\x1b[0m\n  a\n" ∧
      (simulate env ["index", "add", "--", "-Ring", "b", "b", "a"] files).1.stdout =
        "Added 1 cube(s) to '-ring'\n" := by
  intro env
  let add : Edit := .add "-Ring " ["b", "a", "b"]
  let remove : Edit := .remove "-RING" ["b"]
  let again : Edit := .add "-Ring" ["b", "b", "a"]
  let run₁ : Run := ⟨env, add.arguments, .empty, _, .unset, ⟨⟨"cards.json"⟩⟩,
    ofArguments_arguments (by decide) add (by simp [add]), ⟨_, rfl, rfl⟩, rfl⟩
  let run₂ : Run := ⟨env, remove.arguments, run₁.ending.2, _, .unset, ⟨⟨"cards.json"⟩⟩,
    ofArguments_arguments (by decide) remove (by simp [remove]), ⟨_, rfl, rfl⟩, rfl⟩
  have hhistory : History ⟨⟨"cards.json"⟩⟩ .empty [add, remove] run₂.ending.2 :=
    .snoc run₂ (.snoc run₁ .nil rfl rfl) rfl rfl
  have hsettings : ((Settings.loadFrom ⟨"/home/.config/cubefilter/config.toml"⟩ : Simulation _)
      ⟨run₂.ending.2, []⟩).1 = .ok .unset := by decide +kernel
  -- what the files are is of no interest from here on
  generalize run₂.ending.2 = files at hhistory hsettings
  have hload : ((Store.loadOrEmpty ⟨⟨"cards.json"⟩⟩ : Simulation _) ⟨.empty, []⟩).1 =
      .ok CardIndex.empty := rfl
  obtain ⟨index, hindex, hunique, hanswers⟩ :=
    edits_refine_relation hload (fun _ => rfl) hhistory
  have hpairs : replay [add, remove] CardIndex.empty.pairs = {("-ring", "a")} := by decide
  rw [hpairs] at hunique hanswers
  have hring : normalName " -RING" = "-ring" ∧ normalName "-Ring" = "-ring" := by decide
  let show₃ : Run := ⟨env, ["index", "show", "--", " -RING"], files,
    ⟨⟨.showCard " -RING", some ⟨"cards.json"⟩⟩, ⟨false, false, false, false⟩⟩, .unset,
    ⟨⟨"cards.json"⟩⟩, rfl, ⟨_, rfl, hsettings⟩, rfl⟩
  obtain ⟨cubes, hcubes, hshown, -⟩ := hanswers.shown show₃ rfl rfl " -RING" rfl
  have hlist : cubes = ["a"] := by
    refine TextSet.eq_of_ascending hcubes.1 (List.pairwise_singleton _ _) fun cube => ?_
    rw [hcubes.2, hring.1]
    simp
  let add₃ : Run := ⟨env, again.arguments, files, _, .unset, ⟨⟨"cards.json"⟩⟩,
    ofArguments_arguments (by decide) again (by simp [again]), ⟨_, rfl, hsettings⟩, rfl⟩
  obtain ⟨_, -, hadded⟩ := hanswers.added add₃ rfl rfl "-Ring" ["b", "b", "a"] rfl
  have hnew : (newCubes {("-ring", "a")} "-Ring" ["b", "b", "a"]).card = 1 := by
    rw [newCubes, hring.2]
    decide
  have hstdout := hshown.forPeople rfl rfl
  have hstdout' := hadded.forPeople rfl rfl
  rw [hring.1, hlist] at hstdout
  rw [hring.2, hnew] at hstdout'
  exact ⟨files, index, hhistory, hindex, ((hunique index).mp rfl).2, hstdout, hstdout'⟩

end CubeQuery
