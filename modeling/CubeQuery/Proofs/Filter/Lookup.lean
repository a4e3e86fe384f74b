import CubeQuery.CommandLine.Perform
import CubeQuery.Proofs.Filter.Decision
import CubeQuery.Proofs.Store.Saving

/-!
# Questions to the card index

Compiling a clause asks the card index once if the clause is about a card, and
not at all otherwise. So a clause about anything else has one result with all
indexes, whether they work or not, and a clause about a card has a result that
depends on the cubes of one normal name only.

* `AsksFor`: the clause is about a card.
* `recording`: an index that writes down what it is asked. `Records`: what a clause asks.
* `Source`: an index in memory, or the file of a store.
* `lookup_discipline`: the questions of a clause, and what its result depends on.
-/

namespace CubeQuery

open Simulation (Yields)

namespace CardIndex

/-- The cubes that are recorded under exactly this name. -/
def recorded (index : CardIndex) (name : String) : TextSet :=
  (Keyed.find? name index.entries).getD .empty

end CardIndex

namespace Filter

/-! ## Clauses about cards -/

/-- The clause asks for the cubes with a card. -/
def AsksFor (text card : String) : Prop :=
  ∃ field, Clause.tokenize text = .ok ⟨field, .equal, card⟩ ∧ Text.SameName "card" field

theorem plan_of_asksFor {text card : String} (h : AsksFor text card) :
    plan text = .ok (.lookup Field.card card) := by
  obtain ⟨field, htext, hsame⟩ := h
  exact plan_of_judged (.card htext hsame)

/-- All other clauses are settled without an index. -/
theorem exists_result {text : String} (h : ∀ card, ¬ AsksFor text card) :
    ∃ result, ∀ (m : Type → Type) [Monad m] (find : String → m (Except String TextSet)),
      compile find text = pure result := by
  obtain ⟨verdict, hverdict⟩ := exists_judged text
  have hplan := plan_of_judged hverdict
  cases verdict with
  | refused e =>
    refine ⟨.error e, fun m _ find => ?_⟩
    rw [compile, hplan, Verdict.plan]
  | settled filter =>
    refine ⟨.ok filter, fun m _ find => ?_⟩
    rw [compile, hplan, Verdict.plan]
  | asks card =>
    cases hverdict with
    | card htext hsame => exact absurd ⟨_, htext, hsame⟩ (h card)

/-! ## Questions -/

/-- An index that writes down what it is asked. -/
def recording {m : Type → Type} [Monad m] (find : String → m (Except String TextSet))
    (card : String) : StateT (List String) m (Except String TextSet) := fun asked => do
  let answer ← find card
  pure (answer, asked ++ [card])

/-- Compiling the clause asks these questions, one after the other, and asking makes no
    difference to the result. -/
def Records (text : String) (questions : List String) : Prop :=
  ∀ (m : Type → Type) [Monad m] [LawfulMonad m] (find : String → m (Except String TextSet))
    (asked : List String),
    (compile (recording find) text).run asked =
      (fun result => (result, asked ++ questions)) <$> compile find text

theorem records_of_asksFor {text card : String} (h : AsksFor text card) :
    Records text [card] := by
  intro m _ _ find asked
  rw [compile, compile, plan_of_asksFor h]
  simp only [StateT.run_bind, map_bind]
  show (find card >>= fun answer => pure (answer, asked ++ [card])) >>= _ = _
  rw [bind_assoc]
  refine bind_congr fun answer => ?_
  rw [pure_bind]
  cases answer <;> simp

theorem records_of_not_asksFor {text : String} (h : ∀ card, ¬ AsksFor text card) :
    Records text [] := by
  intro m _ _ find asked
  obtain ⟨result, hresult⟩ := exists_result h
  rw [hresult, hresult, StateT.run_pure, map_pure, List.append_nil]

end Filter

/-! ## Indexes in memory and in files -/

/-- A card index that clauses can be compiled with. -/
inductive Source where
  | memory (index : CardIndex)
  /-- The file of a store, in a world with any files. -/
  | kept (store : Store) (world : World)

namespace Source

/-- The index that the source holds, or why it does not work. -/
def index : Source → Except StoreError CardIndex
  | memory index => .ok index
  | kept store world => ((store.loadOrEmpty : Simulation _) world).1

/-- The filter of a clause with the source. -/
def compile [Wording] (text : String) : Source → Except FilterError Filter
  | memory index => Id.run (Filter.compile (fun card => pure (.ok (index.cubes card))) text)
  | kept store world => ((Filter.compile (findNoting store) text : Simulation _) world).1

/-- What a card that is asked for comes to, if this is what the source holds. -/
def answer [Wording] (card : String) : Except StoreError CardIndex → Except FilterError Filter
  | .ok index => .ok (Filter.ofCubes Field.card (index.recorded (normalName card)))
  | .error e => .error (.cardLookup card e.message)

theorem yields_compile [Wording] {text card : String} (h : Filter.AsksFor text card) {store : Store}
    {files : FileTree} {held : Except StoreError CardIndex}
    (hload : Yields store.loadOrEmpty files held files) :
    Yields (Filter.compile (findNoting store) text) files (answer card held) files := by
  rw [Filter.compile, Filter.plan_of_asksFor h]
  cases held with
  | error e =>
    have hfind : Yields (store.find card) files (.error e) files := hload.bind (.pure _)
    have hask : Yields (findNoting store card) files (.error e.message) files :=
      hfind.bind (.pure _)
    exact hask.bind (.pure _)
  | ok index =>
    have hfind : Yields (store.find card) files (.ok (index.cubes card)) files :=
      hload.bind (.pure _)
    have hask : Yields (findNoting store card) files (.ok (index.cubes card)) files :=
      hfind.bind ((Yields.note _).bind (.pure _))
    exact hask.bind (.pure _)

/-- The result of a clause about a card, with any source. -/
theorem compile_of_asksFor [Wording] {text card : String} (h : Filter.AsksFor text card)
    (source : Source) : source.compile text = answer card source.index := by
  cases source with
  | memory index =>
    rw [compile, Filter.compile, Filter.plan_of_asksFor h]
    rfl
  | kept store world =>
    exact (yields_compile h ((Store.looksOnly_loadOrEmpty store).yields world)).fst

/-- A clause about anything else has one result with all sources. -/
theorem compile_of_not_asksFor [Wording] {text : String} (h : ∀ card, ¬ Filter.AsksFor text card)
    (source source' : Source) : source.compile text = source'.compile text := by
  obtain ⟨result, hresult⟩ := Filter.exists_result h
  have heq : ∀ source : Source, source.compile text = result := by
    intro source
    cases source with
    | memory index =>
      rw [compile, hresult]
      rfl
    | kept store world =>
      rw [compile, hresult]
      rfl
  rw [heq, heq]

end Source

/-- **Only clauses about cards ask, and they ask once.** A clause about a card asks for its
    cubes once, and any other clause asks nothing and has one result with all indexes in all
    monads, those included that fail or whose file is corrupt. With an index in memory or a
    store over any files, the result of a clause about a card depends on what is recorded
    under its normal name: any two sources that work and agree on that name give one filter
    for any two spellings of it, and a source that does not work gives its reason. -/
theorem lookup_discipline [Wording] (text : String) :
    (∀ card, Filter.AsksFor text card → Filter.Records text [card]) ∧
    ((∀ card, ¬ Filter.AsksFor text card) →
      Filter.Records text [] ∧
      (∃ result, ∀ (m : Type → Type) [Monad m] (find : String → m (Except String TextSet)),
        Filter.compile find text = pure result) ∧
      ∀ source source' : Source, source.compile text = source'.compile text) ∧
    (∀ card text' card', Filter.AsksFor text card → Filter.AsksFor text' card' →
      normalName card = normalName card' →
      ∀ (source source' : Source) (index index' : CardIndex),
        source.index = .ok index → source'.index = .ok index' →
        index.recorded (normalName card) = index'.recorded (normalName card) →
        ∃ filter, source.compile text = .ok filter ∧ source'.compile text' = .ok filter) ∧
    ∀ card, Filter.AsksFor text card → ∀ (source : Source) (e : StoreError),
      source.index = .error e → source.compile text = .error (.cardLookup card e.message) := by
  refine ⟨fun card h => Filter.records_of_asksFor h, fun h => ⟨Filter.records_of_not_asksFor h,
    Filter.exists_result h, Source.compile_of_not_asksFor h⟩, ?_, ?_⟩
  · intro card text' card' h h' hname source source' index index' hindex hindex' hsame
    refine ⟨Filter.ofCubes Field.card (index.recorded (normalName card)), ?_, ?_⟩
    · rw [Source.compile_of_asksFor h, hindex, Source.answer]
    · rw [Source.compile_of_asksFor h', hindex', Source.answer, ← hname, ← hsame]
  · intro card h source e hindex
    rw [Source.compile_of_asksFor h, hindex, Source.answer]

/-- A store over a corrupt file is as good as any index for a clause about a name, and two
    indexes with other cards give one filter for two spellings of a card. -/
theorem lookup_discipline_of_ring :
    let corrupt : Source :=
      .kept ⟨⟨"cards.json"⟩⟩ ⟨⟨[(["cards.json"], .file "[".toUTF8)]⟩, []⟩
    let ring : Source := .memory (CardIndex.empty.insert "Ring" "a").2
    let both : Source := .memory ((CardIndex.empty.insert "Bolt" "b").2.insert "ring " "a").2
    corrupt.compile "name:Ring" = ring.compile "name:Ring" ∧
      ∃ filter, ring.compile "CARD:' RING '" = .ok filter ∧
        both.compile "card:ring" = .ok filter := by
  have hname : ∀ card, ¬ Filter.AsksFor "name:Ring" card := by
    rintro card ⟨field, htext, hsame⟩
    have hring : Clause.tokenize "name:Ring" = .ok ⟨"name", .equal, "Ring"⟩ := by decide +kernel
    rw [hring] at htext
    cases htext
    exact absurd (Text.sameIgnoringAsciiCase_iff.mpr hsame) (by decide)
  have hcard : ∀ field, Text.sameIgnoringAsciiCase "card" field = true →
      Text.SameName "card" field := fun _ => Text.sameIgnoringAsciiCase_iff.mp
  have hnames : normalName " RING " = normalName "ring" := by decide +kernel
  intro corrupt ring both
  refine ⟨((lookup_discipline "name:Ring").2.1 hname).2.2 corrupt ring, ?_⟩
  refine (lookup_discipline "CARD:' RING '").2.2.1 " RING " "card:ring" "ring"
    ⟨"CARD", by decide +kernel, hcard _ (by decide)⟩
    ⟨"card", by decide +kernel, hcard _ (by decide)⟩
    hnames ring both (CardIndex.empty.insert "Ring" "a").2
    ((CardIndex.empty.insert "Bolt" "b").2.insert "ring " "a").2 rfl rfl ?_
  rw [hnames]
  decide +kernel

end CubeQuery
