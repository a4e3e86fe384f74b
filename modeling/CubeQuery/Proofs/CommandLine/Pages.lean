import CubeQuery.CommandLine.Report
import CubeQuery.Proofs.Filter.Usage
import CubeQuery.Proofs.Terminal.Colours

/-!
# Pages with and without colours

The pages for filters, fields, categories and card indexes say the same with
colours and without, when the texts that they show start no control sequences.
A query is shown as a document, in which controls are escaped, so the page of a
filter depends on the fields that it uses only, and for the filters of clauses
these come from the table.

* `all_isLaidOut_written`: the one control in a written document is the newline.
* `escapeFree_of_compile`: the fields that the filter of a clause uses.
* `onlyDecorated_filterPage` and its likes: one page after the other.
* `colours_only_decorate`: what colours do to the pages.
-/

namespace CubeQuery

/-! ## Written documents -/

namespace Json

/-- A newline, or a character from the space on. -/
def isLaidOut (c : Char) : Bool := c == '\n' || 0x20 ≤ c.toNat

theorem all_isLaidOut_hexPair : ∀ n < 0x20, (hexPair n).all isLaidOut = true := by decide

/-- Controls are escaped in texts. -/
theorem all_isLaidOut_writtenChar (c : Char) : (writtenChar c).all isLaidOut = true := by
  unfold writtenChar
  split
  · rfl
  · rfl
  · rfl
  · rfl
  · rfl
  · rfl
  · rfl
  · split_ifs with hcontrol
    · rw [List.all_append, all_isLaidOut_hexPair c.toNat hcontrol]
      rfl
    · have hspace : 0x20 ≤ c.toNat := Nat.not_lt.mp hcontrol
      simp [isLaidOut, hspace]

theorem all_isLaidOut_writtenText (s : String) : (writtenText s).all isLaidOut = true := by
  have hchars : (s.toList.flatMap writtenChar).all isLaidOut = true := by
    rw [List.all_flatMap, List.all_eq_true]
    exact fun c _ => all_isLaidOut_writtenChar c
  rw [writtenText, List.all_cons, List.all_append, hchars]
  rfl

theorem all_isLaidOut_lineStart (level : Nat) : (lineStart level).all isLaidOut = true := by
  rw [lineStart, List.all_cons, List.all_replicate]
  split_ifs <;> rfl

theorem all_isLaidOut_toDigits (n : Nat) : (Nat.toDigits 10 n).all isLaidOut = true := by
  rw [List.all_eq_true]
  intro c hc
  have hdigit := Nat.isDigit_of_mem_toDigits (by decide) (by decide) hc
  have hle : 48 ≤ c.toNat := (Number.isDigit_iff.mp hdigit).1
  rw [isLaidOut, Bool.or_eq_true, decide_eq_true_eq]
  omega

theorem all_isLaidOut_int (n : Int) : (toString n).toList.all isLaidOut = true := by
  have hrepr : toString n = if 0 ≤ n then n.toNat.repr else "-" ++ (-n).toNat.repr :=
    Int.repr_eq_if
  rw [hrepr]
  split_ifs
  · rw [Nat.toList_repr, all_isLaidOut_toDigits]
  · rw [String.toList_append, Nat.toList_repr, List.all_append, all_isLaidOut_toDigits]
    rfl

mutual

/-- The one control in a written document is the newline. -/
theorem all_isLaidOut_written (level : Nat) (v : Json) :
    (written level v).all isLaidOut = true := by
  match v with
  | null => rfl
  | bool true => rfl
  | bool false => rfl
  | int n => exact all_isLaidOut_int n
  | text s => exact all_isLaidOut_writtenText s
  | array [] => rfl
  | array (v :: rest) =>
    simp only [written, List.all_cons, List.all_append, List.all_nil, all_isLaidOut_lineStart,
      all_isLaidOut_written (level + 1) v, all_isLaidOut_writtenItems (level + 1) rest]
    rfl
  | object [] => rfl
  | object ((k, v) :: rest) =>
    simp only [written, List.all_cons, List.all_append, List.all_nil, all_isLaidOut_lineStart,
      all_isLaidOut_writtenText k, all_isLaidOut_written (level + 1) v,
      all_isLaidOut_writtenMembers (level + 1) rest]
    rfl

theorem all_isLaidOut_writtenItems (level : Nat) (items : List Json) :
    (writtenItems level items).all isLaidOut = true := by
  match items with
  | [] => rfl
  | v :: rest =>
    simp only [writtenItems, List.all_cons, List.all_append, all_isLaidOut_lineStart,
      all_isLaidOut_written level v, all_isLaidOut_writtenItems level rest]
    rfl

theorem all_isLaidOut_writtenMembers (level : Nat) (members : List (String × Json)) :
    (writtenMembers level members).all isLaidOut = true := by
  match members with
  | [] => rfl
  | (k, v) :: rest =>
    simp only [writtenMembers, List.all_cons, List.all_append, all_isLaidOut_lineStart,
      all_isLaidOut_writtenText k, all_isLaidOut_written level v,
      all_isLaidOut_writtenMembers level rest]
    rfl

end

end Json

/-! ## Texts on a page -/

open Terminal (Span plain EscapeFree OnlyDecorated onlyDecorated_of_escapeFree)

theorem escapeFree_of_all_isLaidOut {text : String}
    (h : text.toList.all Json.isLaidOut = true) : EscapeFree text :=
  fun hmem => absurd (List.all_eq_true.mp h _ hmem) (by decide)

theorem escapeFree_json (v : Json) : EscapeFree v.render := by
  refine escapeFree_of_all_isLaidOut ?_
  rw [Json.render, String.toList_ofList]
  exact Json.all_isLaidOut_written 0 v

theorem escapeFree_nat (n : Nat) : EscapeFree (toString n) := by
  refine escapeFree_of_all_isLaidOut ?_
  show n.repr.toList.all Json.isLaidOut = true
  rw [Nat.toList_repr, Json.all_isLaidOut_toDigits]

theorem escapeFree_padRight {text : String} (h : EscapeFree text) (columns : Nat) :
    EscapeFree (Text.padRight columns text) := by
  rw [Text.padRight, Terminal.escapeFree_append]
  refine ⟨h, fun hmem => ?_⟩
  rw [String.toList_ofList] at hmem
  exact absurd (List.eq_of_mem_replicate hmem) (by decide)

theorem escapeFree_kind (kind : FieldKind) : EscapeFree kind.name := by
  cases kind <;> decide

theorem escapeFree_operatorSymbols (field : Field) : EscapeFree field.operatorSymbols := by
  rw [EscapeFree, Field.operatorSymbols, String.toList_ofList, List.mem_map]
  rintro ⟨operator, -, hsymbol⟩
  cases operator <;> exact absurd hsymbol (by decide)

theorem escapeFree_indented {text : String} (h : EscapeFree text) :
    EscapeFree (indented text).text := by
  rw [indented, plain, Terminal.escapeFree_append, Terminal.escapeFree_append]
  exact ⟨⟨by decide, h⟩, by decide⟩

/-! ## Pages -/

theorem onlyDecorated_filterPage {filter : Filter}
    (h : ∀ field ∈ filter.fieldsUsed, EscapeFree field) : OnlyDecorated (filterPage filter) := by
  refine onlyDecorated_of_escapeFree ?_
  simp only [filterPage, List.mem_append, List.mem_cons, List.mem_flatMap, List.not_mem_nil,
    or_false]
  rintro span ((rfl | rfl | rfl | rfl) | ⟨field, hfield, rfl | rfl | rfl⟩)
  · decide
  · simp only [plain, Terminal.escapeFree_append]
    exact ⟨⟨by decide, escapeFree_json _⟩, by decide⟩
  · decide
  · decide
  · decide
  · exact h field hfield
  · decide

theorem onlyDecorated_fieldsPage {fields : List Field}
    (h : ∀ field ∈ fields, EscapeFree field.name ∧ EscapeFree field.description) :
    OnlyDecorated (fieldsPage fields) := by
  refine onlyDecorated_of_escapeFree ?_
  simp only [fieldsPage, List.mem_append, List.mem_cons, List.mem_flatMap, List.not_mem_nil,
    or_false]
  rintro span ((rfl | rfl) | ⟨field, hfield, rfl | rfl⟩)
  · decide
  · decide
  · exact escapeFree_padRight (h field hfield).1 10
  · have hkind := escapeFree_padRight (escapeFree_kind field.kind) 12
    have hsymbols := escapeFree_padRight (escapeFree_operatorSymbols field) 4
    simp only [plain, Terminal.escapeFree_append, hkind, hsymbols, (h field hfield).2]
    decide

theorem onlyDecorated_categoriesPage {override leading : List String}
    (hoverride : ∀ name ∈ override, EscapeFree name)
    (hleading : ∀ name ∈ leading, EscapeFree name) :
    OnlyDecorated (categoriesPage override leading) := by
  refine onlyDecorated_of_escapeFree ?_
  simp only [categoriesPage, List.mem_append, List.mem_cons, List.mem_map, List.not_mem_nil,
    or_false]
  rintro span ((((rfl | rfl) | ⟨name, hname, rfl⟩) | (rfl | rfl | rfl)) | ⟨name, hname, rfl⟩)
  · decide
  · decide
  · exact escapeFree_indented (hoverride name hname)
  · decide
  · decide
  · decide
  · exact escapeFree_indented (hleading name hname)

theorem onlyDecorated_indexPage {index : CardIndex}
    (h : ∀ entry ∈ index.entries, EscapeFree entry.1) : OnlyDecorated (indexPage index) := by
  refine onlyDecorated_of_escapeFree ?_
  rw [indexPage]
  split_ifs
  · simp only [List.mem_singleton]
    rintro span rfl
    decide
  · simp only [List.mem_append, List.mem_cons, List.mem_map, List.not_mem_nil, or_false]
    rintro span ((rfl | rfl) | ⟨⟨card, cubes⟩, hentry, rfl⟩)
    · decide
    · decide
    · have hcard := escapeFree_padRight (h _ hentry) 30
      simp only [plain, Terminal.escapeFree_append, hcard, escapeFree_nat]
      decide

theorem onlyDecorated_cardPage {card : String} {cubes : TextSet} (hcard : EscapeFree card)
    (hcubes : ∀ cube ∈ cubes, EscapeFree cube) : OnlyDecorated (cardPage card cubes) := by
  refine onlyDecorated_of_escapeFree ?_
  simp only [cardPage, List.mem_append, List.mem_cons, List.mem_map, List.not_mem_nil, or_false]
  rintro span (((rfl | rfl) | hspan) | ⟨cube, hcube, rfl⟩)
  · exact hcard
  · decide
  · split_ifs at hspan
    · rw [List.mem_singleton.mp hspan]
      decide
    · cases hspan
  · exact escapeFree_indented (hcubes cube hcube)

/-! ## Filters of clauses -/

theorem escapeFree_targets :
    ∀ field ∈ Field.all, ∀ target ∈ field.targets, EscapeFree target := by
  decide

/-- The fields that the filter of a clause uses come from the table. -/
theorem escapeFree_of_compile {σ : Type} {find : String → StateM σ (Except String TextSet)}
    {state : σ} {text : String} {filter : Filter}
    (h : (Filter.compile find text state).1 = .ok filter) :
    ∀ field ∈ filter.fieldsUsed, EscapeFree field := by
  obtain ⟨clause, field, -, hname, huses⟩ := Filter.exists_usesFields h
  have hfield : field ∈ Field.all := (Filter.ofName?_eq_some_iff.mp hname).1
  intro used hused
  -- a clause about a card records its own name, all others what their documents constrain
  by_cases hcard : field = Field.card
  · rw [TextSet.mem_def, (huses.card hcard).1, List.mem_singleton] at hused
    rw [hused]
    decide
  · have hplain := Filter.isPlain_of_targets hfield huses.targets
    rw [huses.recorded hcard, Predicate.constrained_document hplain] at hused
    rcases huses.targets used hused with htarget | rfl
    · exact escapeFree_targets field hfield used htarget
    · decide

/-- **Colours only decorate.** On the pages of a filter, a list of fields, two lists of
    categories, an index and a card, colours add nothing but their sequences, when the texts that
    are shown as they are start no sequences of their own. The query of a filter may hold any
    texts, and the filter of a clause that compiles, with any index, always has such a page. -/
theorem colours_only_decorate :
    (∀ filter : Filter, (∀ field ∈ filter.fieldsUsed, EscapeFree field) →
      OnlyDecorated (filterPage filter)) ∧
    (∀ fields : List Field,
      (∀ field ∈ fields, EscapeFree field.name ∧ EscapeFree field.description) →
      OnlyDecorated (fieldsPage fields)) ∧
    (∀ override leading : List String, (∀ name ∈ override, EscapeFree name) →
      (∀ name ∈ leading, EscapeFree name) → OnlyDecorated (categoriesPage override leading)) ∧
    (∀ index : CardIndex, (∀ entry ∈ index.entries, EscapeFree entry.1) →
      OnlyDecorated (indexPage index)) ∧
    (∀ (card : String) (cubes : TextSet), EscapeFree card → (∀ cube ∈ cubes, EscapeFree cube) →
      OnlyDecorated (cardPage card cubes)) ∧
    ∀ (σ : Type) (find : String → StateM σ (Except String TextSet)) (state : σ) (text : String)
      (filter : Filter), (Filter.compile find text state).1 = .ok filter →
      OnlyDecorated (filterPage filter) := by
  refine ⟨?_, ?_, ?_, ?_, ?_, ?_⟩
  · intro filter hfields
    exact onlyDecorated_filterPage hfields
  · intro fields hfields
    exact onlyDecorated_fieldsPage hfields
  · intro override leading hoverride hleading
    exact onlyDecorated_categoriesPage hoverride hleading
  · intro index hindex
    exact onlyDecorated_indexPage hindex
  · intro card cubes hcard hcubes
    exact onlyDecorated_cardPage hcard hcubes
  · intro σ find state text filter hfilter
    exact onlyDecorated_filterPage (escapeFree_of_compile hfilter)

/-- The tables of the program, an index, a card whose text with colours is written out, and a
    clause with a colour sequence in its value, which shows in the plain page as an escape. -/
theorem colours_only_decorate_of_tables :
    OnlyDecorated (fieldsPage Field.all) ∧
    OnlyDecorated (categoriesPage Category.overrideNames Category.leadingNames) ∧
    OnlyDecorated (indexPage (CardIndex.empty.withCard "Æther Vial" ["b", "a"])) ∧
    Terminal.render true (cardPage "Opt" (.ofList ["a\tb"])) = "\x1b[1mOpt\x1b[0m\n  a\tb\n" ∧
    Terminal.withoutColours "\x1b[1mOpt\x1b[0m\n  a\tb\n" = "Opt\n  a\tb\n" ∧
    ∃ filter, (Filter.compile (fun _ => pure (.ok .empty) : String → StateM Unit _)
        "name:'\x1b[1mred'" ()).1 = .ok filter ∧
      Terminal.render false (filterPage filter) =
        "Query\n\x7b\n  \"name\": \x7b\n    \"$options\": \"i\",\n    \"$regex\": " ++
          "\"\\u001b\\\\[1mred\"\n  \x7d\n\x7d\n\nFields used\n  name\n" ∧
      OnlyDecorated (filterPage filter) := by
  obtain ⟨-, hfields, hcategories, hindex, hcard, hcompile⟩ := colours_only_decorate
  have htext : Clause.tokenize "name:'\x1b[1mred'" = .ok ⟨"name", .equal, "\x1b[1mred"⟩ := by
    decide +kernel
  have hfilter : (Filter.compile (fun _ => pure (.ok .empty) : String → StateM Unit _)
      "name:'\x1b[1mred'" ()).1 =
        .ok (Filter.ofComparison ⟨"name", .equal, .text "\x1b[1mred", true⟩ "name") := by
    rw [Filter.compile_of_judged (.text htext (.refl "name")
      (show ("name", "name") ∈ Filter.textFields by decide))]
    rfl
  refine ⟨hfields _ (by decide), hcategories _ _ (by decide) (by decide),
    hindex _ (by decide +kernel), by decide +kernel, ?_, _, hfilter, by decide +kernel,
    hcompile Unit _ () _ _ hfilter⟩
  exact (hcard "Opt" (.ofList ["a\tb"]) (by decide) (by decide)).content

end CubeQuery
