import CubeQuery.Proofs.Filter.Usage
import Mathlib.Computability.RegularExpressions

/-!
# Filters for texts are literal

A filter for a text asks for a pattern. Whatever characters the text has, the
pattern is a sequence of characters that stand for themselves, so it matches the
text and nothing else, and a search for it is a search for the text.

* `Pattern.parts`: any pattern in parts, with or without a backslash.
* `Pattern.expression?`: the regular expression of a pattern without operators.
* `parts_literal`, `matches'_sequence`: the parts and the language of a literal pattern.
* `StandsFor`: a pattern that is literal for a text.
* `text_filters_are_literal`: the pattern of every comparison and of every clause.
-/

namespace CubeQuery

namespace Pattern

/-! ## Patterns in parts -/

/-- A part of a pattern. -/
inductive Part where
  /-- A character without a backslash before it. -/
  | bare (c : Char)
  /-- A character with a backslash before it. -/
  | escaped (c : Char)
  /-- A backslash with nothing after it. -/
  | dangling
deriving DecidableEq

/-- The parts of a pattern. -/
def parts : List Char → List Part
  | [] => []
  | ['\\'] => [.dangling]
  | '\\' :: c :: rest => .escaped c :: parts rest
  | c :: rest => .bare c :: parts rest

/-- The character that a part stands for. A character with a meaning of its own stands for
    itself only after a backslash, and any other character only without one. -/
def Part.char? : Part → Option Char
  | bare c => if c ∈ metacharacters then none else some c
  | escaped c => if c ∈ metacharacters then some c else none
  | dangling => none

/-- The regular expression of characters one after the other. -/
def sequence (cs : List Char) : RegularExpression Char := (cs.map .char).prod

/-- The regular expression of a pattern, if all its parts stand for characters. -/
def expression? (pattern : List Char) : Option (RegularExpression Char) :=
  ((parts pattern).mapM Part.char?).map sequence

/-- The pattern is found in a text: some piece of the text is a word of the expression, where
    `same` tells which characters count as the same. -/
def Finds (same : Char → Char → Prop) (pattern text : List Char) : Prop :=
  ∃ e, expression? pattern = some e ∧ ∃ word ∈ e.matches', ∃ piece, piece <:+: text ∧
    List.Forall₂ same word piece

/-! ## Literal patterns -/

/-- The part that a literal pattern has for a character. -/
def partOf (c : Char) : Part := if c ∈ metacharacters then .escaped c else .bare c

theorem char?_partOf (c : Char) : (partOf c).char? = some c := by
  rw [partOf]
  split_ifs with hc
  · rw [Part.char?, if_pos hc]
  · rw [Part.char?, if_neg hc]

theorem parts_literalChar (c : Char) (rest : List Char) :
    parts (literalChar c ++ rest) = partOf c :: parts rest := by
  rw [literalChar, partOf]
  simp only [List.contains_iff_mem]
  split_ifs with hc
  · rfl
  · have hbackslash : c ≠ '\\' := by
      rintro rfl
      exact hc (by decide)
    rw [List.singleton_append, parts.eq_def]
    split
    · next heq => cases heq
    · next heq => exact absurd (List.cons.inj heq).1 hbackslash
    · next heq => exact absurd (List.cons.inj heq).1 hbackslash
    · next heq =>
      cases heq
      rfl

/-- A literal pattern has one part for each character. -/
theorem parts_literal (text : String) :
    parts (literal text).toList = text.toList.map partOf := by
  rw [literal, String.toList_ofList]
  induction text.toList with
  | nil => rfl
  | cons c cs ih => rw [List.flatMap_cons, parts_literalChar, ih, List.map_cons]

theorem mapM_char?_partOf (cs : List Char) : (cs.map partOf).mapM Part.char? = some cs := by
  induction cs with
  | nil => rfl
  | cons c cs ih => simp [ih, char?_partOf]

theorem expression?_literal (text : String) :
    expression? (literal text).toList = some (sequence text.toList) := by
  rw [expression?, parts_literal, mapM_char?_partOf, Option.map_some]

/-- Characters one after the other have one word. -/
theorem matches'_sequence (cs : List Char) : (sequence cs).matches' = {cs} := by
  induction cs with
  | nil => rfl
  | cons c cs ih =>
    have hcons : sequence (c :: cs) = .char c * sequence cs := by
      rw [sequence, sequence, List.map_cons, List.prod_cons]
    rw [hcons, RegularExpression.matches'_mul, ih, RegularExpression.matches'_char]
    ext word
    rw [Language.mem_mul]
    constructor
    · rintro ⟨_, rfl, _, rfl, rfl⟩
      rfl
    · rintro rfl
      exact ⟨[c], rfl, cs, rfl, rfl⟩

/-- The pattern is literal for a text: no operator, no other escape and no backslash at its
    end, the text as its only word, found where the text is, and from which the text is read
    back. -/
structure StandsFor (pattern text : String) : Prop where
  clean : ∀ part ∈ parts pattern.toList, (∃ c, part = .bare c ∧ c ∉ metacharacters) ∨
    ∃ c, part = .escaped c ∧ c ∈ metacharacters
  language : ∃ e, expression? pattern.toList = some e ∧ e.matches' = {text.toList}
  /-- Whichever characters count as the same up to case. -/
  found : ∀ (same : Char → Char → Prop) (subject : List Char),
    Finds same pattern.toList subject ↔
      ∃ piece, piece <:+: subject ∧ List.Forall₂ same text.toList piece
  recovered : read? pattern.toList = some text.toList

theorem clean_partOf (c : Char) :
    (∃ d, partOf c = .bare d ∧ d ∉ metacharacters) ∨
      ∃ d, partOf c = .escaped d ∧ d ∈ metacharacters := by
  rw [partOf]
  split_ifs with hc
  · exact .inr ⟨c, rfl, hc⟩
  · exact .inl ⟨c, rfl, hc⟩

theorem standsFor_literal (text : String) : StandsFor (literal text) text where
  clean part hpart := by
    rw [parts_literal] at hpart
    obtain ⟨c, -, rfl⟩ := List.mem_map.mp hpart
    exact clean_partOf c
  language := ⟨_, expression?_literal text, matches'_sequence text.toList⟩
  found same subject := by
    constructor
    · rintro ⟨e, he, word, hword, piece, hpiece, hsame⟩
      rw [expression?_literal] at he
      cases he
      rw [matches'_sequence] at hword
      cases hword
      exact ⟨piece, hpiece, hsame⟩
    · rintro ⟨piece, hpiece, hsame⟩
      refine ⟨_, expression?_literal text, text.toList, ?_, piece, hpiece, hsame⟩
      rw [matches'_sequence]
      rfl
  recovered := read?_literal text

end Pattern

/-! ## Comparisons and clauses -/

open Pattern (StandsFor)

/-- The condition that a field has the pattern in it, without regard to case. -/
def Json.matching (pattern : String) : Json :=
  .object [("$options", .text "i"), ("$regex", .text pattern)]

theorem Comparison.condition_contains (field text : String) :
    (Comparison.contains field text).condition = .matching (Pattern.literal text) :=
  rfl

namespace Filter

/-- The conditions of a filter for a text are flags of categories and literal patterns. -/
structure AsksLiterally (text : String) (filter : Filter) : Prop where
  some : ∃ key pattern, (key, Json.matching pattern) ∈ filter.query.document.conditions
  all : ∀ condition ∈ filter.query.document.conditions,
    (∃ b, condition = ("overrideCategory", .bool b)) ∨
      ∃ pattern, condition.2 = .matching pattern ∧ StandsFor pattern text

/-- A filter asks literally for a text if its leaves are flags and comparisons with it. -/
theorem asksLiterally_of_leaves {text : String} {filter : Filter} (hplain : filter.query.IsPlain)
    (hsome : ∃ key, Comparison.contains key text ∈ filter.query.leaves)
    (hall : ∀ c ∈ filter.query.leaves,
      (∃ b, c = .equals "overrideCategory" (.flag b)) ∨ ∃ key, c = .contains key text) :
    AsksLiterally text filter := by
  have hconditions := Predicate.conditions_document filter.query hplain
  constructor
  · obtain ⟨key, hkey⟩ := hsome
    refine ⟨key, Pattern.literal text, ?_⟩
    rw [hconditions]
    exact List.mem_map.mpr ⟨_, hkey, rfl⟩
  · intro condition hcondition
    rw [hconditions] at hcondition
    obtain ⟨c, hc, rfl⟩ := List.mem_map.mp hcondition
    rcases hall c hc with ⟨b, rfl⟩ | ⟨key, rfl⟩
    · exact .inl ⟨b, rfl⟩
    · exact .inr ⟨_, Comparison.condition_contains key text, Pattern.standsFor_literal text⟩

/-- The fields whose filters look for a text: the owner, the name and the category. -/
def searched : List Field := [Field.owner, Field.cubeName, Field.category]

theorem kind_of_searched : ∀ field ∈ searched, field.kind ≠ .number ∧ field.kind ≠ .card := by
  decide

/-- A clause on a field whose filter looks for a text asks for its value literally. -/
theorem asksLiterally_of_compile {σ : Type} {find : String → StateM σ (Except String TextSet)}
    {state : σ} {text : String} {filter : Filter} {clause : Clause} {field : Field}
    (h : (compile find text state).1 = .ok filter) (htext : Clause.tokenize text = .ok clause)
    (hname : Field.ofName? clause.field = some field) (hfield : field ∈ searched) :
    AsksLiterally clause.value filter := by
  obtain ⟨hnumber, hcard⟩ := kind_of_searched field hfield
  have hplain : filter.query.IsPlain := by
    obtain ⟨clause', field', htext', hname', huses⟩ := exists_usesFields h
    exact isPlain_of_targets (ofName?_eq_some_iff.mp hname').1 huses.targets
  rcases verdict_of_compile h with hsettled | ⟨card, cubes, hasks, -⟩
  · cases hsettled with
    | @text _ value _ target htext' _ _ =>
      cases htext.symm.trans htext'
      refine asksLiterally_of_leaves hplain ⟨target, List.mem_cons_self⟩ fun c hc => ?_
      exact .inr ⟨target, List.mem_singleton.mp hc⟩
    | number htext' hsame hentry _ =>
      cases htext.symm.trans htext'
      obtain ⟨known, hknown, rfl, hkind, -⟩ := exists_numberField _ hentry
      cases hname.symm.trans (ofName?_eq_some_iff.mpr ⟨hknown, hsame⟩)
      exact absurd hkind hnumber
    | @category _ value _ classField _ htext' _ _ _ _ =>
      cases htext.symm.trans htext'
      have hleaves : (ofCategory classField value).query.leaves =
          [.equals "overrideCategory" (.flag true), .contains classField value,
            .equals "overrideCategory" (.flag false), .contains "type" value] := rfl
      refine asksLiterally_of_leaves hplain ⟨"type", by simp [hleaves]⟩ fun c hc => ?_
      simp only [hleaves, List.mem_cons, List.not_mem_nil, or_false] at hc
      rcases hc with rfl | rfl | rfl | rfl
      · exact .inl ⟨true, rfl⟩
      · exact .inr ⟨classField, rfl⟩
      · exact .inl ⟨false, rfl⟩
      · exact .inr ⟨"type", rfl⟩
  · cases hasks with
    | card htext' hsame =>
      cases htext.symm.trans htext'
      cases hname.symm.trans (ofName?_eq_some_iff.mpr ⟨(by decide : Field.card ∈ Field.all), hsame⟩)
      exact absurd rfl hcard

/-- **Filters for texts are literal.** A comparison with a text that ignores case asks for a
    pattern that stands for the text and nothing else. So does every clause on an owner, a name
    or a category that compiles, with any index: the conditions of its document are flags of
    categories and patterns that stand for its value, of which there is one at least. -/
theorem text_filters_are_literal :
    (∀ (c : Comparison) (s : String), c.relation = .equal → c.value = .text s →
      c.ignoreCase = true →
      ∃ pattern, (Predicate.leaf c).document = .object [(c.field, .matching pattern)] ∧
        StandsFor pattern s) ∧
    ∀ (σ : Type) (find : String → StateM σ (Except String TextSet)) (state : σ) (text : String)
      (filter : Filter) (clause : Clause) (field : Field),
      (compile find text state).1 = .ok filter → Clause.tokenize text = .ok clause →
      Field.ofName? clause.field = some field → field ∈ searched →
      AsksLiterally clause.value filter := by
  constructor
  · rintro ⟨field, relation, value, ignoreCase⟩ s rfl rfl rfl
    exact ⟨Pattern.literal s, rfl, Pattern.standsFor_literal s⟩
  · intro σ find state text filter clause field h htext hname hfield
    exact asksLiterally_of_compile h htext hname hfield

/-- A text of backslashes and operators, which ends in a backslash, and a clause that names
    it. -/
theorem text_filters_are_literal_of_operators :
    (∃ pattern, (Predicate.leaf (.contains "name" "(.*)\\")).document =
        .object [("name", .matching pattern)] ∧ StandsFor pattern "(.*)\\") ∧
    ∃ filter, (compile (fun _ => pure (.ok .empty) : String → StateM Unit _)
        "Name:(.*)\\" ()).1 = .ok filter ∧ AsksLiterally "(.*)\\" filter := by
  have htext : Clause.tokenize "Name:(.*)\\" = .ok ⟨"Name", .equal, "(.*)\\"⟩ := by
    decide +kernel
  have hsame : Text.SameName "name" "Name" := Text.sameIgnoringAsciiCase_iff.mp (by decide)
  have hname : Field.ofName? "Name" = some Field.cubeName :=
    ofName?_eq_some_iff.mpr ⟨by decide, hsame⟩
  have hfilter : (compile (fun _ => pure (.ok .empty) : String → StateM Unit _)
      "Name:(.*)\\" ()).1 =
        .ok (ofComparison ⟨"name", .equal, .text "(.*)\\", true⟩ "name") := by
    rw [compile_of_judged (.text htext hsame (show ("name", "name") ∈ textFields by decide))]
    rfl
  refine ⟨text_filters_are_literal.1 _ _ rfl rfl rfl, _, hfilter, ?_⟩
  exact text_filters_are_literal.2 Unit _ () _ _ _ Field.cubeName hfilter htext hname (by decide)

end Filter

end CubeQuery
