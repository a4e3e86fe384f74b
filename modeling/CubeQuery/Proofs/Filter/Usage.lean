import CubeQuery.Proofs.Filter.Decision
import CubeQuery.Proofs.Predicate.Conditions

/-!
# Fields that a filter uses

A filter tells which fields it uses, apart from its query. What it tells agrees
with the query: with the table of fields, with the leaves of the predicate, and
with the document that is asked for. Only a clause about a card records its own
name, while its document constrains the cubes themselves.

* `verdict_of_compile`: where the filter of a clause comes from, with any index.
* `UsesFields`: what a filter for a field of the table uses.
* `usesFields_ofComparison`, `usesFields_ofCategory`: the two shapes of filters.
* `usage_agrees_with_query`: usage of all predicates and of all clauses that compile.
-/

namespace CubeQuery.Filter

/-! ## Clauses that compile -/

/-- A clause that compiles is settled by its verdict, or it asks for a card and is told the
    cubes. The index may keep a state of its own. -/
theorem verdict_of_compile {σ : Type} {find : String → StateM σ (Except String TextSet)}
    {state : σ} {text : String} {filter : Filter}
    (h : (compile find text state).1 = .ok filter) :
    Judged text (.settled filter) ∨ ∃ card cubes, Judged text (.asks card) ∧
      filter = ofComparison ⟨"_id", .oneOf, .set cubes, false⟩ "card" := by
  obtain ⟨verdict, hverdict⟩ := exists_judged text
  rw [compile_of_judged hverdict] at h
  cases verdict with
  | refused e => cases h
  | settled found =>
    cases h
    exact .inl hverdict
  | asks card =>
    refine .inr ⟨card, ?_⟩
    rcases hfind : find card state with ⟨reason | cubes, state'⟩
    · have hrun : Verdict.run find (.asks card) state =
          (.error (.cardLookup card reason), state') := by
        simp only [Verdict.run, bind, StateT.bind, hfind]
        rfl
      rw [hrun] at h
      cases h
    · have hrun : Verdict.run find (.asks card) state =
          (.ok (ofComparison ⟨"_id", .oneOf, .set cubes, false⟩ "card"), state') := by
        simp only [Verdict.run, bind, StateT.bind, hfind]
        rfl
      rw [hrun] at h
      cases h
      exact ⟨cubes, hverdict, rfl⟩

/-! ## What a filter uses -/

/-- The filter of a clause on a field of the table uses fields as the table says. -/
structure UsesFields (field : Field) (filter : Filter) : Prop where
  wellFormed : filter.query.IsWellFormed
  /-- The query compares targets of the field, and the flag of categories at most. -/
  targets : ∀ used ∈ filter.query.leafFields, used ∈ field.targets ∨ used = "overrideCategory"
  /-- The fields that are recorded are those that the document constrains. -/
  recorded : field ≠ Field.card →
    ∀ key, key ∈ filter.fieldsUsed ↔ key ∈ filter.query.document.constrained
  card : field = Field.card →
    filter.fieldsUsed.toList = ["card"] ∧ filter.query.document.constrained = ["_id"]

theorem target_mem_targets : ∀ field ∈ Field.all, field.target ∈ field.targets := by decide

theorem targets_ne_connective :
    ∀ field ∈ Field.all, ∀ target ∈ field.targets, target ≠ "$and" ∧ target ≠ "$or" := by
  decide

/-- A query on targets of a field is not mistaken for a connective. -/
theorem isPlain_of_targets {field : Field} (hfield : field ∈ Field.all) {query : Predicate}
    (h : ∀ used ∈ query.leafFields, used ∈ field.targets ∨ used = "overrideCategory") :
    query.IsPlain := by
  intro used hused
  rcases h used hused with htarget | rfl
  · exact targets_ne_connective field hfield used htarget
  · decide

/-- The filter of one comparison with the target of a field. -/
theorem usesFields_ofComparison {field : Field} {c : Comparison} {used : String}
    (hfield : field ∈ Field.all) (htarget : c.field = field.target) (hfit : c.IsFit)
    (hused : field ≠ Field.card → used = field.target)
    (hcard : field = Field.card → used = "card") :
    UsesFields field (ofComparison c used) := by
  have htargets : ∀ name ∈ (Predicate.leaf c).leafFields,
      name ∈ field.targets ∨ name = "overrideCategory" := by
    intro name hname
    rw [Predicate.leafFields, List.mem_singleton, htarget] at hname
    exact .inl (hname ▸ target_mem_targets field hfield)
  have hconstrained : (Predicate.leaf c).document.constrained = [field.target] := by
    rw [Predicate.constrained_document (isPlain_of_targets hfield htargets),
      Predicate.leafFields, htarget]
  refine ⟨.leaf hfit, htargets, fun hother key => ?_, fun heq => ?_⟩
  · show key ∈ TextSet.ofList [used] ↔ key ∈ (Predicate.leaf c).document.constrained
    rw [hconstrained, hused hother, TextSet.mem_ofList]
  · show (TextSet.ofList [used]).toList = _ ∧ (Predicate.leaf c).document.constrained = _
    rw [hconstrained, hcard heq, heq]
    exact ⟨rfl, rfl⟩

theorem isFit_contains (field value : String) :
    Comparison.IsFit ⟨field, .equal, .text value, true⟩ :=
  ⟨by simp, by simp, fun _ => ⟨rfl, value, rfl⟩⟩

theorem isFit_number (field : String) (operator : Operator) (n : ℤ) :
    Comparison.IsFit ⟨field, relationOf operator, .int n, false⟩ :=
  ⟨fun _ => ⟨n, rfl⟩, by cases operator <;> simp [relationOf], by simp⟩

theorem isFit_flag (field : String) (b : Bool) :
    Comparison.IsFit ⟨field, .equal, .flag b, false⟩ :=
  ⟨by simp, by simp, by simp⟩

theorem isFit_oneOf (field : String) (members : TextSet) :
    Comparison.IsFit ⟨field, .oneOf, .set members, false⟩ :=
  ⟨by simp, fun _ => ⟨members, rfl⟩, by simp⟩

/-- The field of a class of categories is a target of the category field. -/
theorem classField_mem_targets :
    ∀ cls ∈ categoryClasses, cls.2 ∈ Field.category.targets := by
  decide

theorem leafFields_ofCategory (classField value : String) :
    (ofCategory classField value).query.leafFields =
      ["overrideCategory", classField, "overrideCategory", "type"] :=
  rfl

/-- The filter for a category. -/
theorem usesFields_ofCategory {names : List String} {classField : String}
    (hclass : (names, classField) ∈ categoryClasses) (value : String) :
    UsesFields Field.category (ofCategory classField value) := by
  have htargets : ∀ used ∈ (ofCategory classField value).query.leafFields,
      used ∈ Field.category.targets ∨ used = "overrideCategory" := by
    intro used hused
    simp only [leafFields_ofCategory, List.mem_cons, List.not_mem_nil, or_false] at hused
    rcases hused with rfl | rfl | rfl | rfl
    · exact .inr rfl
    · exact .inl (classField_mem_targets _ hclass)
    · exact .inr rfl
    · exact .inl (by decide)
  refine ⟨?_, htargets, fun _ key => ?_, fun heq => absurd heq (by decide)⟩
  · exact .any (.all (.leaf (isFit_flag _ true)) (.leaf (isFit_contains _ value)))
      (.all (.leaf (isFit_flag _ false)) (.leaf (isFit_contains _ value)))
  · rw [Predicate.constrained_document (isPlain_of_targets (by decide) htargets),
      leafFields_ofCategory]
    show key ∈ TextSet.ofList ["overrideCategory", classField, "type"] ↔ _
    rw [TextSet.mem_ofList]
    simp only [List.mem_cons, List.not_mem_nil, or_false]
    tauto

/-- The filter of a clause uses fields as the table says of the field that the clause names. -/
theorem exists_usesFields {σ : Type} {find : String → StateM σ (Except String TextSet)}
    {state : σ} {text : String} {filter : Filter}
    (h : (compile find text state).1 = .ok filter) :
    ∃ clause field, Clause.tokenize text = .ok clause ∧
      Field.ofName? clause.field = some field ∧ UsesFields field filter := by
  rcases verdict_of_compile h with hsettled | ⟨card, cubes, hasks, rfl⟩
  · cases hsettled with
    | text htext hsame hentry =>
      obtain ⟨field, hfield, rfl, hkind, rfl, -, -⟩ := exists_textField _ hentry
      refine ⟨_, field, htext, ofName?_eq_some_iff.mpr ⟨hfield, hsame⟩, ?_⟩
      refine usesFields_ofComparison hfield rfl (isFit_contains _ _) (fun _ => rfl) ?_
      rintro rfl
      cases hkind
    | number htext hsame hentry _ =>
      obtain ⟨field, hfield, rfl, hkind, rfl, -, -⟩ := exists_numberField _ hentry
      refine ⟨_, field, htext, ofName?_eq_some_iff.mpr ⟨hfield, hsame⟩, ?_⟩
      refine usesFields_ofComparison hfield rfl (isFit_number _ _ _) (fun _ => rfl) ?_
      rintro rfl
      cases hkind
    | category htext hsame hclass _ _ =>
      refine ⟨_, Field.category, htext, ?_, usesFields_ofCategory hclass _⟩
      exact ofName?_eq_some_iff.mpr ⟨by decide, hsame⟩
  · cases hasks with
    | card htext hsame =>
      refine ⟨_, Field.card, htext, ofName?_eq_some_iff.mpr ⟨by decide, hsame⟩, ?_⟩
      exact usesFields_ofComparison (by decide) rfl (isFit_oneOf _ _) (fun hne => absurd rfl hne)
        fun _ => rfl

/-- **Usage agrees with the query.** The fields of a predicate, in strictly ascending order of
    their bytes, are exactly those that its document constrains. A clause that compiles, with
    any index, has a well-formed query on the targets of the field that it names, and records
    the fields that the document constrains, unless it is about a card. -/
theorem usage_agrees_with_query :
    (∀ p : Predicate, p.IsPlain →
      p.fields.toList.Pairwise (fun a b => Text.bytes a < Text.bytes b) ∧
      ∀ key, key ∈ p.fields.toList ↔ key ∈ p.document.constrained) ∧
    ∀ (σ : Type) (find : String → StateM σ (Except String TextSet)) (state : σ) (text : String)
      (filter : Filter), (compile find text state).1 = .ok filter →
      ∃ clause field, Clause.tokenize text = .ok clause ∧
        Field.ofName? clause.field = some field ∧ UsesFields field filter := by
  refine ⟨fun p hp => ⟨p.fields_ascending, fun key => ?_⟩, fun σ find state text filter h => ?_⟩
  · exact Predicate.mem_fields_iff hp
  · exact exists_usesFields h

/-- A tree with a field twice and a part without leaves, and a category in another case with an
    index that does not work. -/
theorem usage_agrees_of_legacy :
    let p : Predicate := .any [.leaf (.contains "type" "a"), .all [],
      .all [.leaf (.equals "name" (.int 1)), .leaf (.lessThan "type" 2)]]
    let broken : String → StateM Unit (Except String TextSet) := fun _ => pure (.error "broken")
    p.fields.toList = ["name", "type"] ∧
    (∀ key, key ∈ p.fields.toList ↔ key ∈ p.document.constrained) ∧
    ∃ filter, (compile broken "CATEGORY:'legacy+'" ()).1 = .ok filter ∧
      UsesFields Field.category filter := by
  intro p broken
  have hclause : Clause.tokenize "CATEGORY:'legacy+'" = .ok ⟨"CATEGORY", .equal, "legacy+"⟩ := by
    decide +kernel
  have hsame : Text.SameName "category" "CATEGORY" :=
    Text.sameIgnoringAsciiCase_iff.mp (by decide)
  have hvalue : Text.SameName "Legacy+" "legacy+" :=
    Text.sameIgnoringAsciiCase_iff.mp (by decide)
  have hfilter : (compile broken "CATEGORY:'legacy+'" ()).1 =
      .ok (ofCategory "categoryOverride" "legacy+") := by
    rw [compile_of_judged (.category hclause hsame (.head _) (by decide) hvalue)]
    rfl
  obtain ⟨clause, field, htext, hname, huses⟩ :=
    usage_agrees_with_query.2 Unit broken () _ _ hfilter
  have hcategory : Field.ofName? "CATEGORY" = some Field.category := by decide
  cases hclause.symm.trans htext
  cases hcategory.symm.trans hname
  exact ⟨by decide, (usage_agrees_with_query.1 p (by decide)).2, _, hfilter, huses⟩

end CubeQuery.Filter
