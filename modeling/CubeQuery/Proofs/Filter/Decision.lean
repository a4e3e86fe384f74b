import CubeQuery.Filter
import CubeQuery.Proofs.Filter.Words

/-!
# What a clause comes to

Every clause has exactly one verdict: a reason against it, a filter, or a card
to ask the index for. `Judged` lists the rules, in the order in which reasons go
before each other, with the names, fields and texts that they give.

* `plan_of_judged`: a clause is planned as the rules say.
* `exists_judged`: some rule applies to every clause.
* `compile_eq_run`: a clause has one verdict, and compiling carries it out, with
  any index in any monad.
-/

namespace CubeQuery.Filter

/-! ## Verdicts -/

/-- What a clause comes to. -/
inductive Verdict where
  /-- There is no filter, for a reason. -/
  | refused (e : FilterError)
  | settled (filter : Filter)
  /-- The index is asked for the cubes of a card. -/
  | asks (card : String)

/-- The filter of a single comparison, which uses one field. -/
def ofComparison (comparison : Comparison) (used : String) : Filter :=
  ⟨.leaf comparison, TextSet.ofList [used]⟩

/-- Carries out a verdict with an index. -/
def Verdict.run {m : Type → Type} [Monad m] (find : String → m (Except String TextSet)) :
    Verdict → m (Except FilterError Filter)
  | refused e => pure (.error e)
  | settled filter => pure (.ok filter)
  | asks card => do
    match ← find card with
    | .ok cubes => pure (.ok (ofComparison ⟨"_id", .oneOf, .set cubes, false⟩ "card"))
    | .error reason => pure (.error (.cardLookup card reason))

/-! ## Rules -/

/-- The comparison that an operator asks for. -/
def relationOf : Operator → Relation
  | .equal => .equal
  | .greater => .greater
  | .less => .less

/-- The names of the fields. -/
def fieldNames : List String := ["owner", "name", "decks", "cards", "category", "card"]

/-- The names of the fields that hold texts, with the catalog's names for them. -/
def textFields : List (String × String) := [("owner", "owner_name"), ("name", "name")]

/-- The names of the fields that hold numbers, with the catalog's names for them. -/
def numberFields : List (String × String) := [("decks", "numDecks"), ("cards", "card_count")]

/-- The classes of categories, each with the field that holds its categories. -/
def categoryClasses : List (List String × String) :=
  [(Category.overrideNames, "categoryOverride"), (Category.leadingNames, "categoryPrefixes")]

/-- The filter for a category: the flag is set and the field of the class holds it, or the flag
    is not set and the legacy field holds it. -/
def ofCategory (classField value : String) : Filter :=
  ⟨.any [.all [.leaf ⟨"overrideCategory", .equal, .flag true, false⟩,
        .leaf ⟨classField, .equal, .text value, true⟩],
      .all [.leaf ⟨"overrideCategory", .equal, .flag false, false⟩,
        .leaf ⟨"type", .equal, .text value, true⟩]],
    TextSet.ofList ["overrideCategory", classField, "type"]⟩

/-- The rules by which a clause is judged. -/
inductive Judged (text : String) : Verdict → Prop
  | malformed {e : FilterError} : Clause.tokenize text = .error e → Judged text (.refused e)
  | unknownField {field value : String} {operator : Operator} :
    Clause.tokenize text = .ok ⟨field, operator, value⟩ →
    (∀ name ∈ fieldNames, ¬ Text.SameName name field) →
    Judged text (.refused (.unknownField field (Suggestion.closest field fieldNames)))
  | unsupportedOperator {field value name : String} {operator : Operator} :
    Clause.tokenize text = .ok ⟨field, operator, value⟩ → Text.SameName name field →
    name ∈ fieldNames → name ∉ numberFields.map Prod.fst → operator ≠ .equal →
    Judged text (.refused (.unsupportedOperator name operator.symbol.toString))
  | text {field value name target : String} :
    Clause.tokenize text = .ok ⟨field, .equal, value⟩ → Text.SameName name field →
    (name, target) ∈ textFields →
    Judged text (.settled (ofComparison ⟨target, .equal, .text value, true⟩ target))
  | number {field value name target : String} {operator : Operator} {n : ℤ} :
    Clause.tokenize text = .ok ⟨field, operator, value⟩ → Text.SameName name field →
    (name, target) ∈ numberFields → Number.Denotes value n →
    Judged text (.settled (ofComparison ⟨target, relationOf operator, .int n, false⟩ target))
  | invalidNumber {field value name target : String} {operator : Operator} :
    Clause.tokenize text = .ok ⟨field, operator, value⟩ → Text.SameName name field →
    (name, target) ∈ numberFields → (∀ n, ¬ Number.Denotes value n) →
    Judged text (.refused (.invalidValue name value "an integer"))
  | category {field value name classField : String} {names : List String} :
    Clause.tokenize text = .ok ⟨field, .equal, value⟩ → Text.SameName "category" field →
    (names, classField) ∈ categoryClasses → name ∈ names → Text.SameName name value →
    Judged text (.settled (ofCategory classField value))
  | unknownCategory {field value : String} :
    Clause.tokenize text = .ok ⟨field, .equal, value⟩ → Text.SameName "category" field →
    (∀ cls ∈ categoryClasses, ∀ name ∈ cls.1, ¬ Text.SameName name value) →
    Judged text (.refused (.unknownCategory value
      (Suggestion.closest value (Category.overrideNames ++ Category.leadingNames))))
  | card {field value : String} :
    Clause.tokenize text = .ok ⟨field, .equal, value⟩ → Text.SameName "card" field →
    Judged text (.asks value)

/-! ## Fields by their names -/

theorem sameIgnoringAsciiCase_of_same {a b c : String} (hab : Text.sameIgnoringAsciiCase a c = true)
    (hbc : Text.sameIgnoringAsciiCase b c = true) : Text.sameIgnoringAsciiCase a b = true := by
  simp only [Text.sameIgnoringAsciiCase, beq_iff_eq] at *
  rw [hab, hbc]

/-- No two fields have the same name. -/
theorem field_eq_of_same : ∀ a ∈ Field.all, ∀ b ∈ Field.all,
    Text.sameIgnoringAsciiCase a.name b.name = true → a = b := by
  decide

theorem ofName?_eq_some_iff {name : String} {field : Field} :
    Field.ofName? name = some field ↔ field ∈ Field.all ∧ Text.SameName field.name name := by
  rw [Field.ofName?, ← Text.sameIgnoringAsciiCase_iff]
  constructor
  · intro h
    exact ⟨List.mem_of_find?_eq_some h, by simpa using List.find?_some h⟩
  · rintro ⟨hmem, hsame⟩
    have hsome : (Field.all.find? fun f => Text.sameIgnoringAsciiCase f.name name).isSome := by
      rw [List.find?_isSome]
      exact ⟨field, hmem, hsame⟩
    obtain ⟨other, hother⟩ := Option.isSome_iff_exists.mp hsome
    have hsame' : Text.sameIgnoringAsciiCase other.name name = true := by
      simpa using List.find?_some hother
    rw [hother, field_eq_of_same other (List.mem_of_find?_eq_some hother) field hmem
      (sameIgnoringAsciiCase_of_same hsame' hsame)]

theorem ofName?_eq_none_iff {name : String} :
    Field.ofName? name = none ↔ ∀ known ∈ fieldNames, ¬ Text.SameName known name := by
  rw [Field.ofName?, List.find?_eq_none]
  simp only [Text.sameIgnoringAsciiCase_iff]
  show (∀ field ∈ Field.all, _) ↔ ∀ known ∈ Field.all.map (·.name), _
  rw [List.forall_mem_map]

/-- The table has a field for every name of a text field. -/
theorem exists_textField : ∀ entry ∈ textFields, ∃ field ∈ Field.all, field.name = entry.1 ∧
    field.kind = .text ∧ field.target = entry.2 ∧ field.usage = entry.2 ∧
    field.operators = [.equal] := by
  decide

/-- The table has a field for every name of a number field. -/
theorem exists_numberField : ∀ entry ∈ numberFields, ∃ field ∈ Field.all, field.name = entry.1 ∧
    field.kind = .number ∧ field.target = entry.2 ∧ field.usage = entry.2 ∧
    field.operators = [.equal, .greater, .less] := by
  decide

/-- Only the number fields take other operators than equality. -/
theorem exists_equalityField : ∀ name ∈ fieldNames, name ∉ numberFields.map Prod.fst →
    ∃ field ∈ Field.all, field.name = name ∧ field.operators = [.equal] := by
  decide

/-- The plan for a clause whose field is known. -/
theorem plan_of_same {text name value : String} {operator : Operator} (field : Field)
    (htext : Clause.tokenize text = .ok ⟨name, operator, value⟩) (hfield : field ∈ Field.all)
    (hsame : Text.SameName field.name name) :
    plan text =
      if field.supports operator then planField field ⟨name, operator, value⟩
      else .error (.unsupportedOperator field.name operator.symbol.toString) := by
  rw [plan, htext]
  simp only [resolveField, ofName?_eq_some_iff.mpr ⟨hfield, hsame⟩]
  split_ifs <;> rfl

/-! ## Categories by their names -/

theorem isListed_iff {names : List String} {value : String} :
    Category.isListed names value = true ↔ ∃ name ∈ names, Text.SameName name value := by
  simp only [Category.isListed, List.any_eq_true, Text.sameIgnoringAsciiCase_iff]

/-- No category is in both classes. -/
theorem not_sameIgnoringAsciiCase_of_classes : ∀ a ∈ Category.overrideNames,
    ∀ b ∈ Category.leadingNames, Text.sameIgnoringAsciiCase a b = false := by
  decide

theorem fields_condition (cls : CategoryClass) (value : String) :
    (Category.condition cls value).fields =
      TextSet.ofList ["overrideCategory", cls.field, "type"] := by
  refine TextSet.ext fun u => ?_
  rw [Predicate.fields, TextSet.mem_ofList, TextSet.mem_ofList]
  simp only [Category.condition, Predicate.or, Predicate.and, Predicate.leafFields,
    Predicate.leafFieldsOf, Comparison.equals, Comparison.contains, Category.flagField,
    Category.legacyField, List.append_nil, List.cons_append, List.nil_append, List.mem_cons,
    List.not_mem_nil, or_false]
  tauto

theorem resolve_of_listed {value classField name : String} {names : List String}
    (hclass : (names, classField) ∈ categoryClasses) (hname : name ∈ names)
    (hsame : Text.SameName name value) :
    ∃ query, Category.resolve value = .ok query ∧
      (⟨query, query.fields⟩ : Filter) = ofCategory classField value := by
  have hlisted : Category.isListed names value = true := isListed_iff.mpr ⟨name, hname, hsame⟩
  simp only [categoryClasses, List.mem_cons, List.not_mem_nil, or_false, Prod.mk.injEq] at hclass
  rcases hclass with ⟨rfl, rfl⟩ | ⟨rfl, rfl⟩
  · refine ⟨Category.condition .override value, ?_, by rw [fields_condition]; rfl⟩
    rw [Category.resolve, Category.classify, if_pos hlisted]
  · have hother : ¬ Category.isListed Category.overrideNames value = true := by
      rw [isListed_iff]
      rintro ⟨other, hmem, hother⟩
      have := sameIgnoringAsciiCase_of_same (Text.sameIgnoringAsciiCase_iff.mpr hother)
        (Text.sameIgnoringAsciiCase_iff.mpr hsame)
      rw [not_sameIgnoringAsciiCase_of_classes other hmem name hname] at this
      exact absurd this Bool.false_ne_true
    refine ⟨Category.condition .leading value, ?_, by rw [fields_condition]; rfl⟩
    rw [Category.resolve, Category.classify, if_neg hother, if_pos hlisted]

theorem resolve_of_not_listed {value : String}
    (h : ∀ cls ∈ categoryClasses, ∀ name ∈ cls.1, ¬ Text.SameName name value) :
    Category.resolve value = .error (.unknownCategory value
      (Suggestion.closest value (Category.overrideNames ++ Category.leadingNames))) := by
  have hnone : ∀ cls ∈ categoryClasses, ¬ Category.isListed cls.1 value = true := by
    intro cls hcls hlisted
    obtain ⟨name, hname, hsame⟩ := isListed_iff.mp hlisted
    exact h cls hcls name hname hsame
  simp only [categoryClasses, List.forall_mem_cons] at hnone
  rw [Category.resolve, Category.classify, if_neg hnone.1, if_neg hnone.2.1]
  rfl

/-! ## Verdicts and plans -/

/-- What is known of a clause with a verdict before the index is asked. -/
def Verdict.plan : Verdict → Except FilterError Plan
  | refused e => .error e
  | settled filter => .ok (.settled filter)
  | asks card => .ok (.lookup Field.card card)

theorem Verdict.plan_injective {v w : Verdict} (h : v.plan = w.plan) : v = w := by
  cases v <;> cases w <;> cases h <;> rfl

/-- A clause is planned as the rules say. -/
theorem plan_of_judged {text : String} {verdict : Verdict} (h : Judged text verdict) :
    Filter.plan text = verdict.plan := by
  cases h with
  | malformed htext => rw [Filter.plan, htext, Verdict.plan]
  | unknownField htext hnone =>
    rw [Filter.plan, htext]
    simp only [resolveField, ofName?_eq_none_iff.mpr hnone]
    rfl
  | @unsupportedOperator _ _ name operator htext hsame hname hnumber hop =>
    obtain ⟨field, hfield, rfl, hops⟩ := exists_equalityField name hname hnumber
    have hsupports : ¬ field.supports operator = true := by simpa [Field.supports, hops] using hop
    rw [plan_of_same field htext hfield hsame, if_neg hsupports, Verdict.plan]
  | text htext hsame hentry =>
    obtain ⟨field, hfield, rfl, hkind, htarget, husage, hops⟩ := exists_textField _ hentry
    rw [plan_of_same field htext hfield hsame, if_pos (by simp [Field.supports, hops]), planField,
      hkind, Verdict.plan, single, htarget, husage]
    rfl
  | @number _ _ _ _ operator _ htext hsame hentry hn =>
    obtain ⟨field, hfield, rfl, hkind, htarget, husage, hops⟩ := exists_numberField _ hentry
    have hsupports : field.supports operator = true := by
      cases operator <;> simp [Field.supports, hops]
    rw [plan_of_same field htext hfield hsame, if_pos hsupports, planField, hkind]
    simp only [Number.ofText?_eq_some_iff.mpr hn]
    rw [Verdict.plan, single, htarget, husage]
    cases operator <;> rfl
  | @invalidNumber _ value _ _ operator htext hsame hentry hn =>
    obtain ⟨field, hfield, rfl, hkind, -, -, hops⟩ := exists_numberField _ hentry
    have hsupports : field.supports operator = true := by
      cases operator <;> simp [Field.supports, hops]
    have hnone : Number.ofText? value = none :=
      Option.eq_none_iff_forall_ne_some.mpr fun n h => hn n (Number.ofText?_eq_some_iff.mp h)
    rw [plan_of_same field htext hfield hsame, if_pos hsupports, planField, hkind]
    simp only [hnone]
    rfl
  | category htext hsame hclass hname hvalue =>
    obtain ⟨query, hresolve, hquery⟩ := resolve_of_listed hclass hname hvalue
    rw [plan_of_same Field.category htext (by decide) hsame, if_pos (by decide), planField]
    simp only [Field.category, hresolve]
    rw [Verdict.plan, hquery]
  | unknownCategory htext hsame hnone =>
    rw [plan_of_same Field.category htext (by decide) hsame, if_pos (by decide), planField]
    simp only [Field.category, resolve_of_not_listed hnone]
    rfl
  | card htext hsame =>
    rw [plan_of_same Field.card htext (by decide) hsame, if_pos (by decide)]
    rfl

/-- Some rule applies to every clause. -/
theorem exists_judged (text : String) : ∃ verdict, Judged text verdict := by
  cases htext : Clause.tokenize text with
  | error e => exact ⟨_, .malformed htext⟩
  | ok clause =>
    obtain ⟨name, operator, value⟩ := clause
    cases hname : Field.ofName? name with
    | none => exact ⟨_, .unknownField htext (ofName?_eq_none_iff.mp hname)⟩
    | some field =>
      obtain ⟨hfield, hsame⟩ := ofName?_eq_some_iff.mp hname
      have hnumber : ∀ target, (field.name, target) ∈ numberFields →
          ∃ verdict, Judged text verdict := by
        intro target hentry
        by_cases hn : ∃ n, Number.Denotes value n
        · obtain ⟨n, hn⟩ := hn
          exact ⟨_, .number htext hsame hentry hn⟩
        · exact ⟨_, .invalidNumber htext hsame hentry (not_exists.mp hn)⟩
      by_cases hop : operator = .equal
      · subst hop
        simp only [Field.all, List.mem_cons, List.not_mem_nil, or_false] at hfield
        rcases hfield with rfl | rfl | rfl | rfl | rfl | rfl
        · exact ⟨_, .text htext hsame (show ("owner", "owner_name") ∈ textFields by decide)⟩
        · exact ⟨_, .text htext hsame (show ("name", "name") ∈ textFields by decide)⟩
        · exact hnumber "numDecks" (by decide)
        · exact hnumber "card_count" (by decide)
        · by_cases hlisted : ∃ cls ∈ categoryClasses, ∃ name ∈ cls.1, Text.SameName name value
          · obtain ⟨cls, hcls, known, hknown, hvalue⟩ := hlisted
            exact ⟨_, .category htext hsame hcls hknown hvalue⟩
          · push Not at hlisted
            exact ⟨_, .unknownCategory htext hsame hlisted⟩
        · exact ⟨_, .card htext hsame⟩
      · by_cases hnum : field.name ∈ numberFields.map Prod.fst
        · obtain ⟨⟨known, target⟩, hentry, hknown⟩ := List.mem_map.mp hnum
          cases hknown
          exact hnumber target hentry
        · exact ⟨_, .unsupportedOperator htext hsame (List.mem_map_of_mem hfield) hnum hop⟩

/-- Compiling carries out the verdict. -/
theorem compile_of_judged {text : String} {verdict : Verdict} (h : Judged text verdict)
    {m : Type → Type} [Monad m] (find : String → m (Except String TextSet)) :
    compile find text = verdict.run find := by
  rw [compile, plan_of_judged h]
  cases verdict <;> rfl

/-- A reason that is not the index's own is the verdict. -/
theorem judged_of_compile {find : String → Except String TextSet} {text : String}
    {e : FilterError} (h : compile (m := Id) find text = .error e)
    (hlookup : ∀ card detail, e ≠ .cardLookup card detail) : Judged text (.refused e) := by
  obtain ⟨verdict, hverdict⟩ := exists_judged text
  rw [compile_of_judged hverdict] at h
  cases verdict with
  | refused e' =>
    cases h
    exact hverdict
  | settled filter => cases h
  | asks card =>
    change (match find card with
      | .ok cubes => Except.ok (ofComparison ⟨"_id", .oneOf, .set cubes, false⟩ "card")
      | .error reason => Except.error (.cardLookup card reason)) = Except.error e at h
    split at h
    · cases h
    · cases h
      exact absurd rfl (hlookup card _)

/-- **Compiling decides every clause.** One verdict applies to a clause, by the rules, and
    compiling the clause carries it out, with any index. -/
theorem compile_eq_run (text : String) :
    (∃! verdict, Judged text verdict) ∧
    ∀ (m : Type → Type) [Monad m] (find : String → m (Except String TextSet)) (verdict : Verdict),
      Judged text verdict → compile find text = verdict.run find := by
  constructor
  · obtain ⟨verdict, h⟩ := exists_judged text
    refine ⟨verdict, h, fun other h' => Verdict.plan_injective ?_⟩
    rw [← plan_of_judged h, ← plan_of_judged h']
  · intro m _ find verdict h
    rw [compile, plan_of_judged h]
    cases verdict <;> rfl

/-- A field in another case, a number with a sign and zeros, and an index that does not work. -/
theorem compile_decks_greater :
    compile (m := Id) (fun _ => .error "out of order") " Decks>+007 " =
      .ok (ofComparison ⟨"numDecks", .greater, .int 7, false⟩ "numDecks") := by
  have htext : Clause.tokenize " Decks>+007 " = .ok ⟨"Decks", .greater, "+007"⟩ := by decide
  have hsame : Text.SameName "decks" "Decks" :=
    Text.sameIgnoringAsciiCase_iff.mp (by decide)
  have hn : Number.Denotes "+007" 7 := Number.ofText?_eq_some_iff.mp (by decide)
  have hentry : ("decks", "numDecks") ∈ numberFields := by decide
  exact (compile_eq_run " Decks>+007 ").2 Id _ _ (.number htext hsame hentry hn)

end CubeQuery.Filter
