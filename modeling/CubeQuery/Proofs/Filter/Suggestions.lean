import CubeQuery.Proofs.Clause.Grammar
import CubeQuery.Proofs.Filter.Decision
import CubeQuery.Proofs.Text.Distance
import CubeQuery.Proofs.Text.Lowering
import Mathlib.Data.Bool.AllAny
import Mathlib.Data.List.MinMax

/-!
# Suggestions are the nearest names

What is offered for an unknown field or category is the first of the names that
take the least number of edits, and nothing is offered only if every name takes
more than three. A name at distance zero, which would be passed over, does not
occur: names are recognised without regard to the case of ASCII letters, and no
other text has the lowercase form of a name.

* `nearest_eq_filter_argmin`: the search finds the first minimum, if it is near enough.
* `distanceFrom_ne_zero_of_ascii`, `distanceFrom_ne_zero_of_small`: a text that is not
  recognised is at no distance zero.
* `suggestions_are_nearest`: what is offered, and that it is accepted.
-/

namespace CubeQuery

namespace Suggestion

/-! ## The search -/

/-- The first of the names at the least distance. -/
structure IsFirstNearest (d : String → ℕ) (names : List String) (name : String) : Prop where
  listed : name ∈ names
  least : ∀ other ∈ names, d name ≤ d other
  first : ∀ other ∈ names, d other ≤ d name → names.idxOf name ≤ names.idxOf other

theorem isFirstNearest_iff {d : String → ℕ} {names : List String} {name : String} :
    IsFirstNearest d names name ↔ names.argmin d = some name := by
  rw [List.argmin_eq_some_iff]
  exact ⟨fun h => ⟨h.listed, h.least, h.first⟩, fun h => ⟨h.1, h.2.1, h.2.2⟩⟩

/-- Where no name is at distance zero, the search finds the first minimum, if it is near
    enough. -/
theorem nearest_eq_filter_argmin {d : String → ℕ} {names : List String}
    (hpos : ∀ name ∈ names, d name ≠ 0) :
    nearest d names = (names.argmin d).filter fun name => d name ≤ reach := by
  induction names with
  | nil => rfl
  | cons name rest ih =>
    have hnear : isNear (d name) = decide (d name ≤ reach) := by
      have := hpos name List.mem_cons_self
      simp only [isNear, Bool.and_eq_decide]
      grind
    rw [nearest, hnear, ih fun other h => hpos other (List.mem_cons_of_mem name h),
      List.argmin_cons]
    -- A minimum of the rest beats the name only if it is smaller, and then it is near if the
    -- name is.
    cases rest.argmin d with
    | none => simp [Option.filter]
    | some other =>
      simp only [Option.filter, decide_eq_true_eq]
      split_ifs <;> grind

theorem nearest_eq_none_iff {d : String → ℕ} {names : List String}
    (hpos : ∀ name ∈ names, d name ≠ 0) :
    nearest d names = none ↔ ∀ name ∈ names, reach < d name := by
  rw [nearest_eq_filter_argmin hpos]
  cases hmin : names.argmin d with
  | none => simp [List.argmin_eq_none.mp hmin]
  | some least =>
    obtain ⟨hlisted, hleast, -⟩ := isFirstNearest_iff.mpr hmin
    simp only [Option.filter_eq_none_iff, Option.some.injEq, forall_eq', decide_eq_true_eq,
      not_le]
    exact ⟨fun h name hname => lt_of_lt_of_le h (hleast name hname), fun h => h least hlisted⟩

theorem nearest_eq_some_iff {d : String → ℕ} {names : List String}
    (hpos : ∀ name ∈ names, d name ≠ 0) {name : String} :
    nearest d names = some name ↔ d name ≤ reach ∧ IsFirstNearest d names name := by
  rw [nearest_eq_filter_argmin hpos, Option.filter_eq_some_iff, isFirstNearest_iff,
    decide_eq_true_eq]
  exact and_comm

/-! ## Distance zero -/

theorem lower_eq_of_distanceFrom {typed name : String} (h : distanceFrom typed name = 0) :
    Text.lower typed.toList = Text.lower name.toList :=
  String.ofList_injective (Text.distance_eq_zero_iff.mp h)

/-- A text of ASCII is at distance zero only from a name that it is recognised as. -/
theorem distanceFrom_ne_zero_of_ascii {typed name : String}
    (htyped : ∀ c ∈ typed.toList, c.toNat < 0x80) (hname : ∀ c ∈ name.toList, c.toNat < 0x80)
    (h : ¬ Text.SameName name typed) : distanceFrom typed name ≠ 0 := by
  intro hzero
  have hlower := lower_eq_of_distanceFrom hzero
  rw [Text.lower, Text.lower, Text.lowerAfter_of_ascii htyped, Text.lowerAfter_of_ascii hname]
    at hlower
  apply h
  rw [← Text.sameIgnoringAsciiCase_iff, Text.sameIgnoringAsciiCase, beq_iff_eq, hlower]

/-- Any text is at distance zero from a name without `k` only if it is recognised as the
    name. -/
theorem distanceFrom_ne_zero_of_small {typed name : String}
    (hname : ∀ c ∈ name.toList, c.toNat < 0x80 ∧ Text.IsSmallAscii c.toLower)
    (h : ¬ Text.SameName name typed) : distanceFrom typed name ≠ 0 := by
  intro hzero
  have hlower := lower_eq_of_distanceFrom hzero
  have hsmall : ∀ d ∈ name.toList.map Char.toLower, Text.IsSmallAscii d := by
    intro d hd
    obtain ⟨c, hc, rfl⟩ := List.mem_map.mp hd
    exact (hname c hc).2
  rw [Text.lower, Text.lower, Text.lowerAfter_of_ascii fun c hc => (hname c hc).1,
    Text.lowerAfter_eq_iff hsmall] at hlower
  apply h
  rw [← Text.sameIgnoringAsciiCase_iff, Text.sameIgnoringAsciiCase, beq_iff_eq, hlower]

/-! ## What is offered -/

/-- What is offered for a typed text, where `d` counts the edits from the text to a name: nothing
    if all names are far, and else the first of the nearest. -/
structure Offers (typed : String) (names : List String) (suggestion : Option String)
    (d : String → ℕ) : Prop where
  /-- Texts are compared in lower case. -/
  fewest : ∀ name, IsLeast
    {n | Text.Edits n (Text.lowercase typed).toList (Text.lowercase name).toList} (d name)
  ne_zero : ∀ name ∈ names, d name ≠ 0
  none_iff : suggestion = none ↔ ∀ name ∈ names, 3 < d name
  some_iff : ∀ name, suggestion = some name ↔ d name ≤ 3 ∧ IsFirstNearest d names name

theorem offers_closest {typed : String} {names : List String}
    (h : ∀ name ∈ names, distanceFrom typed name ≠ 0) :
    Offers typed names (closest typed names) (distanceFrom typed) where
  fewest name := Text.isLeast_distance (Text.lowercase typed) (Text.lowercase name)
  ne_zero := h
  none_iff := nearest_eq_none_iff h
  some_iff _ := nearest_eq_some_iff h

theorem mem_of_closest {typed : String} {names : List String}
    (h : ∀ name ∈ names, distanceFrom typed name ≠ 0) {name : String}
    (hname : name ∈ closest typed names) : name ∈ names :=
  ((nearest_eq_some_iff h).mp hname).2.listed

end Suggestion

namespace Filter

open Suggestion (Offers offers_closest mem_of_closest)
open Clause (IsNameChar IsQuote Derives DerivesValue Spells)

/-! ## Unknown names -/

/-- A clause is not malformed for the reason that a name is unknown. -/
theorem exists_malformed_of_tokenize {text : String} {e : FilterError}
    (h : Clause.tokenize text = .error e) :
    e = .emptyExpression ∨ ∃ detail position, e = .malformed detail position := by
  rw [Clause.tokenize] at h
  split at h
  · cases h
    exact .inl rfl
  · obtain ⟨fault, position, -, rfl⟩ := Clause.mapError_eq_error_iff.mp h
    exact .inr ⟨_, _, rfl⟩

theorem of_unknownField {find : String → Except String TextSet} {text typed : String}
    {suggestion : Option String}
    (h : compile (m := Id) find text = .error (.unknownField typed suggestion)) :
    (∃ operator value, Clause.tokenize text = .ok ⟨typed, operator, value⟩) ∧
      (∀ name ∈ fieldNames, ¬ Text.SameName name typed) ∧
      suggestion = Suggestion.closest typed fieldNames := by
  cases judged_of_compile h (by simp) with
  | malformed htext => simpa using exists_malformed_of_tokenize htext
  | unknownField htext hnone => exact ⟨⟨_, _, htext⟩, hnone, rfl⟩

theorem of_unknownCategory {find : String → Except String TextSet} {text typed : String}
    {suggestion : Option String}
    (h : compile (m := Id) find text = .error (.unknownCategory typed suggestion)) :
    (∃ field, Clause.tokenize text = .ok ⟨field, .equal, typed⟩ ∧
      Text.SameName "category" field) ∧
      (∀ cls ∈ categoryClasses, ∀ name ∈ cls.1, ¬ Text.SameName name typed) ∧
      suggestion =
        Suggestion.closest typed (Category.overrideNames ++ Category.leadingNames) := by
  cases judged_of_compile h (by simp) with
  | malformed htext => simpa using exists_malformed_of_tokenize htext
  | unknownCategory htext hsame hnone => exact ⟨⟨_, htext, hsame⟩, hnone, rfl⟩

/-! ## Trying again -/

theorem toNat_lt_of_isNameChar {c : Char} (h : IsNameChar c) : c.toNat < 0x80 :=
  lt_of_le_of_lt h.toNat_range.2 (by decide)

/-- The names of fields can stand in clauses. -/
theorem fieldNames_plain : ∀ name ∈ fieldNames, name ≠ "" ∧ ∀ c ∈ name.toList, IsNameChar c := by
  simp only [← List.all_iff_forall_prop]
  decide

/-- The names of categories have letters of ASCII, but no `k`, and nothing that a quoted value
    would have to escape. -/
theorem categoryNames_plain : ∀ name ∈ Category.overrideNames ++ Category.leadingNames,
    name ≠ "" ∧ ∀ c ∈ name.toList, (c.toNat < 0x80 ∧ Text.IsSmallAscii c.toLower) ∧
      c ≠ '"' ∧ c ≠ '\x27' ∧ c ≠ '\\' := by
  simp only [← List.all_iff_forall_prop]
  decide

theorem spells_self {quote : Char} {value : List Char}
    (h : ∀ c ∈ value, c ≠ quote ∧ c ≠ '\\') : Spells quote value value := by
  induction value with
  | nil => exact .nil
  | cons c value ih =>
    obtain ⟨hquote, hesc⟩ := h c List.mem_cons_self
    exact .plain hquote hesc (ih fun d hd => h d (List.mem_cons_of_mem c hd))

/-- A category can be written between quotes of either kind, and as it is if it has no blank. -/
theorem derivesValue_of_category {name : String}
    (hname : name ∈ Category.overrideNames ++ Category.leadingNames) :
    (∀ quote, IsQuote quote → DerivesValue name.toList (quote :: (name.toList ++ [quote]))) ∧
      ((∀ c ∈ name.toList, Text.isBlank c = false) → DerivesValue name.toList name.toList) := by
  obtain ⟨-, hchars⟩ := categoryNames_plain name hname
  constructor
  · intro quote hquote
    refine .quoted hquote (spells_self fun c hc => ?_)
    obtain ⟨-, hdouble, hsingle, hesc⟩ := hchars c hc
    refine ⟨?_, hesc⟩
    rcases hquote with rfl | rfl
    · exact hdouble
    · exact hsingle
  · intro hblank
    refine .bare hblank fun c hc hquote => ?_
    obtain ⟨-, hdouble, hsingle, -⟩ := hchars c (List.mem_of_mem_head? hc)
    rcases hquote with rfl | rfl
    · exact hdouble rfl
    · exact hsingle rfl

/-- A clause on a known field does not fail for its field. -/
theorem compile_ne_unknownField {text name value : String} {operator : Operator}
    (htext : Clause.tokenize text = .ok ⟨name, operator, value⟩) (hname : name ∈ fieldNames)
    (find : String → Except String TextSet) (typed : String) (suggestion : Option String) :
    compile (m := Id) find text ≠ .error (.unknownField typed suggestion) := by
  intro h
  obtain ⟨⟨operator', value', htext'⟩, hnone, -⟩ := of_unknownField h
  rw [htext] at htext'
  cases htext'
  exact hnone name hname (Text.SameName.refl name)

theorem exists_class_of_mem {name : String}
    (hname : name ∈ Category.overrideNames ++ Category.leadingNames) :
    ∃ cls ∈ categoryClasses, name ∈ cls.1 := by
  rcases List.mem_append.mp hname with h | h
  · exact ⟨_, List.mem_cons_self, h⟩
  · exact ⟨_, List.mem_cons_of_mem _ List.mem_cons_self, h⟩

/-- A clause on a known category has a filter. -/
theorem compile_of_category {text field name : String}
    (htext : Clause.tokenize text = .ok ⟨field, .equal, name⟩)
    (hfield : Text.SameName "category" field)
    (hname : name ∈ Category.overrideNames ++ Category.leadingNames)
    (find : String → Except String TextSet) :
    ∃ filter, compile (m := Id) find text = .ok filter := by
  obtain ⟨cls, hcls, hlisted⟩ := exists_class_of_mem hname
  exact ⟨ofCategory cls.2 name,
    compile_of_judged (m := Id) (.category htext hfield hcls hlisted (Text.SameName.refl name))
      find⟩

/-- **Suggestions are the nearest names.** Where a clause fails because its field or category is
    unknown, the first of the names that take the fewest edits is offered, unless all take more
    than three. With what is offered in the place of what was typed, the clause does not fail in
    the same way: the field is known, and the category has a filter, however it is written. -/
theorem suggestions_are_nearest (find : String → Except String TextSet) (text : String) :
    (∀ typed suggestion,
      compile (m := Id) find text = .error (.unknownField typed suggestion) →
      (∃ d, Offers typed fieldNames suggestion d) ∧
      ∀ name ∈ suggestion, ∃ rest operator value, Text.trim text.toList = typed.toList ++ rest ∧
        Clause.tokenize text = .ok ⟨typed, operator, value⟩ ∧
        Clause.tokenize (String.ofList (name.toList ++ rest)) = .ok ⟨name, operator, value⟩ ∧
        ∀ find' typed' suggestion',
          compile (m := Id) find' (String.ofList (name.toList ++ rest)) ≠
            .error (.unknownField typed' suggestion')) ∧
    ∀ typed suggestion,
      compile (m := Id) find text = .error (.unknownCategory typed suggestion) →
      (∃ d, Offers typed (Category.overrideNames ++ Category.leadingNames) suggestion d) ∧
      ∀ name ∈ suggestion, ∃ field w, Text.trim text.toList = field ++ ':' :: w ∧
        DerivesValue typed.toList w ∧
        (∀ quote, IsQuote quote → DerivesValue name.toList (quote :: (name.toList ++ [quote]))) ∧
        ((∀ c ∈ name.toList, Text.isBlank c = false) → DerivesValue name.toList name.toList) ∧
        ∀ w', DerivesValue name.toList w' → ∀ find', ∃ filter,
          compile (m := Id) find' (String.ofList (field ++ ':' :: w')) = .ok filter := by
  constructor
  · intro typed suggestion h
    obtain ⟨⟨operator, value, htext⟩, hnone, rfl⟩ := of_unknownField h
    have hderives := Clause.tokenize_eq_ok_iff.mp htext
    have hpos : ∀ name ∈ fieldNames, Suggestion.distanceFrom typed name ≠ 0 := fun name hname =>
      Suggestion.distanceFrom_ne_zero_of_ascii
        (fun c hc => toNat_lt_of_isNameChar (hderives.field_chars c hc))
        (fun c hc => toNat_lt_of_isNameChar ((fieldNames_plain name hname).2 c hc))
        (hnone name hname)
    refine ⟨⟨_, offers_closest hpos⟩, fun name hname => ?_⟩
    have hlisted := mem_of_closest hpos hname
    obtain ⟨w, hparts, hw⟩ := hderives.parts
    have hplain := fieldNames_plain name hlisted
    have hwritten : Derives ⟨name, operator, value⟩ (name.toList ++ operator.symbol :: w) :=
      ⟨hplain.1, hplain.2, hderives.value_ne, w, rfl, hw⟩
    have hretry := Clause.tokenize_of_derives hwritten
    exact ⟨_, operator, value, hparts, htext, hretry, compile_ne_unknownField hretry hlisted⟩
  · intro typed suggestion h
    obtain ⟨⟨field, htext, hfield⟩, hnone, rfl⟩ := of_unknownCategory h
    have hderives := Clause.tokenize_eq_ok_iff.mp htext
    have hpos : ∀ name ∈ Category.overrideNames ++ Category.leadingNames,
        Suggestion.distanceFrom typed name ≠ 0 := by
      intro name hname
      obtain ⟨cls, hcls, hlisted⟩ := exists_class_of_mem hname
      exact Suggestion.distanceFrom_ne_zero_of_small
        (fun c hc => ((categoryNames_plain name hname).2 c hc).1) (hnone cls hcls name hlisted)
    refine ⟨⟨_, offers_closest hpos⟩, fun name hname => ?_⟩
    have hlisted := mem_of_closest hpos hname
    obtain ⟨w, hparts, hw⟩ := hderives.parts
    obtain ⟨hquoted, hbare⟩ := derivesValue_of_category hlisted
    refine ⟨field.toList, w, hparts, hw, hquoted, hbare, fun w' hw' find' => ?_⟩
    have hwritten : Derives ⟨field, .equal, name⟩ (field.toList ++ ':' :: w') :=
      ⟨hderives.field_ne, hderives.field_chars, (categoryNames_plain name hlisted).1, w', rfl, hw'⟩
    exact compile_of_category (Clause.tokenize_of_derives hwritten) hfield hlisted find'

/-- A field in capitals, and a category with a capital whose lowercase form has two characters. -/
theorem suggestions_of_capitals :
    (∃ d, Offers "DECK" fieldNames (some "decks") d) ∧
      ∃ d, Offers "Sİt" (Category.overrideNames ++ Category.leadingNames) (some "Set") d := by
  have hfield : compile (m := Id) (fun _ => .error "out of order") "DECK>5" =
      .error (.unknownField "DECK" (some "decks")) := by
    have htext : Clause.tokenize "DECK>5" = .ok ⟨"DECK", .greater, "5"⟩ := by decide
    have hnone : ∀ name ∈ fieldNames, ¬ Text.SameName name "DECK" := by
      simp only [← Text.sameIgnoringAsciiCase_iff]
      decide
    have hoffer : Suggestion.closest "DECK" fieldNames = some "decks" := by decide +kernel
    rw [← hoffer]
    exact compile_of_judged (m := Id) (.unknownField htext hnone) _
  have hcategory : compile (m := Id) (fun _ => .error "out of order") "category:Sİt" =
      .error (.unknownCategory "Sİt" (some "Set")) := by
    have htext : Clause.tokenize "category:Sİt" = .ok ⟨"category", .equal, "Sİt"⟩ := by
      decide
    have hnone : ∀ cls ∈ categoryClasses, ∀ name ∈ cls.1, ¬ Text.SameName name "Sİt" := by
      simp only [← Text.sameIgnoringAsciiCase_iff]
      decide
    have hoffer : Suggestion.closest "Sİt"
        (Category.overrideNames ++ Category.leadingNames) = some "Set" := by decide +kernel
    rw [← hoffer]
    exact compile_of_judged (m := Id)
      (.unknownCategory htext (Text.SameName.refl "category") hnone) _
  exact ⟨((suggestions_are_nearest _ _).1 _ _ hfield).1,
    ((suggestions_are_nearest _ _).2 _ _ hcategory).1⟩

end Filter

end CubeQuery
