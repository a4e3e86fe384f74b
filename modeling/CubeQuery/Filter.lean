import CubeQuery.Category
import CubeQuery.Clause.Lexer
import CubeQuery.Field
import CubeQuery.Number
import CubeQuery.Predicate.Document

/-!
# Filters from clauses

A clause is compiled in two steps. `Filter.plan` decides all that the clause
alone decides: it ends with a filter, an error, or the name of a card. Only in
the last case `Filter.compile` asks a card index, once, for the cubes of the
card.
-/

namespace CubeQuery

/-- A compiled clause (`CompiledFilter`). -/
structure Filter where
  /-- The condition on cubes. -/
  query : Predicate
  /-- The names of the fields that the clause uses. -/
  fieldsUsed : TextSet

namespace Filter

/-- The filter of one comparison on a field (`single_use`). -/
def single (field : Field) (comparison : Comparison) : Filter :=
  ⟨.leaf comparison, TextSet.ofList [field.usage]⟩

/-- The comparison of a number that an operator demands (`compile_number`). -/
def numberComparison (operator : Operator) (target : String) (n : Int) : Comparison :=
  match operator with
  | .equal => .equals target (.int n)
  | .greater => .greaterThan target n
  | .less => .lessThan target n

/-- What is known of a clause without the card index. -/
inductive Plan where
  /-- The filter is complete. -/
  | settled (filter : Filter)
  /-- The filter needs the cubes of a card. -/
  | lookup (field : Field) (card : String)

/-- The field of a clause, if it takes the clause's operator (`resolve_field`). -/
def resolveField (clause : Clause) : Except FilterError Field :=
  match Field.ofName? clause.field with
  | none =>
    .error (.unknownField clause.field
      (Suggestion.closest clause.field (Field.all.map (·.name))))
  | some field =>
    if field.supports clause.operator then .ok field
    else .error (.unsupportedOperator field.name clause.operator.symbol.toString)

/-- The plan for a field with an operator and a value (`compile_string`, `compile_number`,
    `resolve_category`). -/
def planField (field : Field) (clause : Clause) : Except FilterError Plan :=
  match field.kind with
  | .text => .ok (.settled (single field (.contains field.target clause.value)))
  | .number =>
    match Number.ofText? clause.value with
    | some n =>
      .ok (.settled (single field (numberComparison clause.operator field.target n)))
    | none => .error (.invalidValue field.name clause.value "an integer")
  | .category =>
    match Category.resolve clause.value with
    | .ok query => .ok (.settled ⟨query, query.fields⟩)
    | .error e => .error e
  | .card => .ok (.lookup field clause.value)

/-- All that a clause alone decides (`make_filter` up to `compile_card_lookup`). -/
def plan (text : String) : Except FilterError Plan :=
  match Clause.tokenize text with
  | .error e => .error e
  | .ok clause =>
    match resolveField clause with
    | .error e => .error e
    | .ok field => planField field clause

/-- The filter for a card that is in these cubes (`compile_card_lookup`). -/
def ofCubes (field : Field) (cubes : TextSet) : Filter :=
  single field (.memberOf field.target cubes)

/-- The filter of a clause (`make_filter`). `find` answers with the cubes of a card, or with the
    reason why it cannot tell. -/
def compile {m : Type → Type} [Monad m] (find : String → m (Except String TextSet))
    (text : String) : m (Except FilterError Filter) :=
  match plan text with
  | .error e => pure (.error e)
  | .ok (.settled filter) => pure (.ok filter)
  | .ok (.lookup field card) => do
    match ← find card with
    | .ok cubes => pure (.ok (ofCubes field cubes))
    | .error reason => pure (.error (.cardLookup card reason))

/-- The document of a filter. -/
def document (filter : Filter) : Json :=
  .object [("query", filter.query.document), ("fieldsUsed", .texts filter.fieldsUsed.toList)]

end Filter

/-- The document of a reason. -/
def FilterError.document (e : FilterError) : Json :=
  .object [("code", .text e.code), ("message", .text e.message)]

/-- The answer to a clause as a document, in which one of two members is null
    (`FilterResponse`). -/
def Filter.response : Except FilterError Filter → Json
  | .ok filter => .object [("err", .null), ("filter", filter.document)]
  | .error e => .object [("err", e.document), ("filter", .null)]

end CubeQuery
