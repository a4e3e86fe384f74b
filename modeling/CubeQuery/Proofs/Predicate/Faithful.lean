import CubeQuery.Predicate.Document
import CubeQuery.Proofs.Json.Reading

/-!
# Query documents are faithful

A query document can be read back: the key of an object tells a conjunction or a
disjunction from a comparison, and the form of a condition tells how the field is
compared. Only one thing is lost, the flag for case where it has no meaning.

* `read?_literal`: a literal pattern gives its text back.
* `ofCondition?_condition`: a condition gives its comparison back, without an idle flag.
* `ofDocument?_document`: a document gives its predicate back, without idle flags.
* `document_faithful`: two predicates have one document, or one written document, iff they
  differ in idle flags at most.
-/

namespace CubeQuery

/-! ## Literal patterns -/

namespace Pattern

/-- The text that a pattern matches literally, if each character with a meaning of its own has
    a backslash before it and no other character has. -/
def read? : List Char → Option (List Char)
  | [] => some []
  | '\\' :: c :: rest =>
    if metacharacters.contains c then (read? rest).map (c :: ·) else none
  | c :: rest => if metacharacters.contains c then none else (read? rest).map (c :: ·)

theorem read?_literalChar (c : Char) (rest : List Char) :
    read? (literalChar c ++ rest) = (read? rest).map (c :: ·) := by
  rw [literalChar]
  split_ifs with hc
  · show read? ('\\' :: c :: rest) = _
    rw [read?, if_pos hc]
  · have hbackslash : c ≠ '\\' := by
      rintro rfl
      exact hc (by decide)
    rw [List.singleton_append, read?.eq_def]
    split
    · next heq => cases heq
    · next heq => exact absurd (List.cons.inj heq).1 hbackslash
    · next heq =>
      cases heq
      rw [if_neg hc]

theorem read?_flatMap (cs : List Char) : read? (cs.flatMap literalChar) = some cs := by
  induction cs with
  | nil => rfl
  | cons c cs ih => rw [List.flatMap_cons, read?_literalChar, ih, Option.map_some]

/-- A literal pattern gives its text back. -/
theorem read?_literal (text : String) : read? (literal text).toList = some text.toList := by
  rw [literal, String.toList_ofList, read?_flatMap]

end Pattern

/-! ## Values and comparisons -/

/-- The text that a value is. -/
def Json.text? : Json → Option String
  | text s => some s
  | _ => none

/-- The operand that a value stands for. -/
def Operand.ofDocument? : Json → Option Operand
  | .text s => some (.text s)
  | .int n => some (.int n)
  | .bool b => some (.flag b)
  | .array items => (items.mapM Json.text?).map fun members => .set (TextSet.ofList members)
  | _ => none

theorem Operand.ofDocument?_document (value : Operand) :
    Operand.ofDocument? value.document = some value := by
  cases value with
  | text s => rfl
  | int n => rfl
  | flag b => rfl
  | set members =>
    have htexts : (members.toList.map Json.text).mapM Json.text? = some members.toList := by
      induction members.toList with
      | nil => rfl
      | cons t texts ih => simp [ih, Json.text?]
    show (((members.toList.map Json.text).mapM Json.text?).map _) = _
    rw [htexts, Option.map_some, TextSet.ofList_toList]

namespace Comparison

/-- The comparison without an idle flag: case is ignored only in the equality with a text. -/
def cleared (c : Comparison) : Comparison :=
  match c.relation, c.value with
  | .equal, .text _ => c
  | _, _ => { c with ignoreCase := false }

/-- The comparison of a field that a condition demands. -/
def ofCondition? (field : String) : Json → Option Comparison
  | .object [("$options", .text "i"), ("$regex", .text pattern)] =>
    (Pattern.read? pattern.toList).map fun s => .contains field (String.ofList s)
  | .object [("$gt", v)] => (Operand.ofDocument? v).map (⟨field, .greater, ·, false⟩)
  | .object [("$lt", v)] => (Operand.ofDocument? v).map (⟨field, .less, ·, false⟩)
  | .object [("$in", v)] => (Operand.ofDocument? v).map (⟨field, .oneOf, ·, false⟩)
  | v => (Operand.ofDocument? v).map (⟨field, .equal, ·, false⟩)

/-- A condition gives its comparison back. -/
theorem ofCondition?_condition (c : Comparison) :
    ofCondition? c.field c.condition = some c.cleared := by
  obtain ⟨field, relation, value, flag⟩ := c
  cases relation with
  | equal =>
    cases value with
    | text s =>
      cases flag with
      | true =>
        show (Pattern.read? (Pattern.literal s).toList).map _ = _
        rw [Pattern.read?_literal, Option.map_some, String.ofList_toList]
        rfl
      | false => rfl
    | int n => rfl
    | flag b => rfl
    | set members =>
      show (Operand.ofDocument? (Operand.set members).document).map _ = _
      rw [Operand.ofDocument?_document]
      rfl
  | greater =>
    show (Operand.ofDocument? value.document).map _ = _
    rw [Operand.ofDocument?_document]
    rfl
  | less =>
    show (Operand.ofDocument? value.document).map _ = _
    rw [Operand.ofDocument?_document]
    rfl
  | oneOf =>
    show (Operand.ofDocument? value.document).map _ = _
    rw [Operand.ofDocument?_document]
    rfl

theorem document_cleared (c : Comparison) : c.cleared.document = c.document := by
  obtain ⟨field, relation, value, flag⟩ := c
  cases relation <;> cases value <;> rfl

end Comparison

/-! ## Predicates -/

namespace Predicate

mutual

/-- The predicate without idle flags. -/
def cleared : Predicate → Predicate
  | leaf c => leaf c.cleared
  | all parts => all (clearedOf parts)
  | any parts => any (clearedOf parts)

/-- Several predicates without idle flags. -/
def clearedOf : List Predicate → List Predicate
  | [] => []
  | p :: rest => cleared p :: clearedOf rest

end

mutual

/-- The predicate that a document asks for. -/
def ofDocument? : Json → Option Predicate
  | .object [(key, value)] =>
    if key = "$and" then (parts? value).map all
    else if key = "$or" then (parts? value).map any
    else (Comparison.ofCondition? key value).map leaf
  | _ => none

/-- The predicates that an array of documents asks for. -/
def parts? : Json → Option (List Predicate)
  | .array items => ofDocuments? items
  | _ => none

/-- The predicates that several documents ask for. -/
def ofDocuments? : List Json → Option (List Predicate)
  | [] => some []
  | d :: rest => (ofDocument? d).bind fun p => (ofDocuments? rest).map (p :: ·)

end

/-- No field has the name of a connective. -/
def IsPlain (p : Predicate) : Prop := ∀ field ∈ p.leafFields, field ≠ "$and" ∧ field ≠ "$or"

instance (p : Predicate) : Decidable p.IsPlain := inferInstanceAs (Decidable (∀ _ ∈ _, _))

mutual

/-- A document gives its predicate back, without idle flags. -/
theorem ofDocument?_document (p : Predicate) (hp : p.IsPlain) :
    ofDocument? p.document = some p.cleared := by
  match p with
  | leaf c =>
    obtain ⟨hand, hor⟩ := hp c.field List.mem_cons_self
    rw [document, Comparison.document, ofDocument?, if_neg hand, if_neg hor,
      Comparison.ofCondition?_condition, Option.map_some, cleared]
  | all parts =>
    rw [document, ofDocument?, if_pos rfl, parts?, ofDocuments?_documents parts hp,
      Option.map_some, cleared]
  | any parts =>
    rw [document, ofDocument?, if_neg (by decide), if_pos rfl, parts?,
      ofDocuments?_documents parts hp, Option.map_some, cleared]

/-- Several documents give their predicates back. -/
theorem ofDocuments?_documents (parts : List Predicate)
    (hparts : ∀ field ∈ leafFieldsOf parts, field ≠ "$and" ∧ field ≠ "$or") :
    ofDocuments? (documents parts) = some (clearedOf parts) := by
  match parts with
  | [] => rw [documents, ofDocuments?, clearedOf]
  | p :: rest =>
    rw [leafFieldsOf] at hparts
    rw [documents, ofDocuments?,
      ofDocument?_document p fun field h => hparts field (List.mem_append_left _ h),
      ofDocuments?_documents rest fun field h => hparts field (List.mem_append_right _ h)]
    rw [Option.bind_some, Option.map_some, clearedOf]

end

mutual

/-- Idle flags have no part in a document. -/
theorem document_cleared (p : Predicate) : p.cleared.document = p.document := by
  match p with
  | leaf c => rw [cleared, document, document, Comparison.document_cleared]
  | all parts => rw [cleared, document, document, documents_clearedOf parts]
  | any parts => rw [cleared, document, document, documents_clearedOf parts]

theorem documents_clearedOf (parts : List Predicate) :
    documents (clearedOf parts) = documents parts := by
  match parts with
  | [] => rfl
  | p :: rest =>
    rw [clearedOf, documents, documents, document_cleared p, documents_clearedOf rest]

end

theorem document_eq_iff {p q : Predicate} (hp : p.IsPlain) (hq : q.IsPlain) :
    p.document = q.document ↔ p.cleared = q.cleared := by
  constructor
  · intro h
    have hread := ofDocument?_document p hp
    rw [h, ofDocument?_document q hq] at hread
    exact (Option.some.inj hread).symm
  · intro h
    rw [← document_cleared p, h, document_cleared q]

/-- **Query documents are faithful.** A predicate can be read off its document, but for idle
    flags. So two predicates ask for the same, in the same document and in the same text, iff
    they differ in idle flags at most. -/
theorem document_faithful :
    (∀ p : Predicate, p.IsPlain → ofDocument? p.document = some p.cleared) ∧
    ∀ p q : Predicate, p.IsPlain → q.IsPlain →
      (p.document = q.document ↔ p.cleared = q.cleared) ∧
      (p.document.render = q.document.render ↔ p.cleared = q.cleared) := by
  refine ⟨ofDocument?_document, fun p q hp hq => ⟨document_eq_iff hp hq, ?_⟩⟩
  rw [← document_eq_iff hp hq]
  constructor
  · intro h
    have hread := Json.read_render p.document
    rw [h, Json.read_render] at hread
    exact (Except.ok.inj hread).symm
  · intro h
    rw [h]

/-- An idle flag is lost beside a conjunction of nothing, and a flag with a meaning is not. -/
theorem document_faithful_of_flags :
    ofDocument? (any [all [], leaf ⟨"numDecks", .greater, .int (-5), true⟩]).document =
      some (any [all [], leaf ⟨"numDecks", .greater, .int (-5), false⟩]) ∧
    (leaf ⟨"name", .equal, .text "a+b\\", true⟩).document ≠
      (leaf ⟨"name", .equal, .text "a+b\\", false⟩).document := by
  refine ⟨document_faithful.1 _ (by decide), fun h => ?_⟩
  have hcleared := (document_faithful.2 _ _ (by decide) (by decide)).1.mp h
  simp [cleared, Comparison.cleared] at hcleared

end Predicate

end CubeQuery
