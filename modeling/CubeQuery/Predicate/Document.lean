import CubeQuery.Json.Basic
import CubeQuery.Predicate.Basic
import CubeQuery.Predicate.Pattern

/-!
# Query documents

The document that asks a catalog for the cubes of a predicate. A leaf is an
object with the field as its only key, and a conjunction or disjunction is an
object with the key `$and` or `$or` over the documents of its parts.
-/

namespace CubeQuery

/-- The value in a document (`value_to_json`). -/
def Operand.document : Operand → Json
  | text s => .text s
  | int n => .int n
  | flag b => .bool b
  | set members => .texts members.toList

/-- What a document demands of the field of a comparison. -/
def Comparison.condition (c : Comparison) : Json :=
  match c.relation, c.value, c.ignoreCase with
  | .equal, .text s, true =>
    .object [("$options", .text "i"), ("$regex", .text (Pattern.literal s))]
  | .equal, value, _ => value.document
  | .greater, value, _ => .object [("$gt", value.document)]
  | .less, value, _ => .object [("$lt", value.document)]
  | .oneOf, value, _ => .object [("$in", value.document)]

/-- The document of a comparison (`comparison_to_mongo`). -/
def Comparison.document (c : Comparison) : Json := .object [(c.field, c.condition)]

namespace Predicate

mutual

/-- The document of a predicate (`to_mongo`). -/
def document : Predicate → Json
  | leaf c => c.document
  | all parts => .object [("$and", .array (documents parts))]
  | any parts => .object [("$or", .array (documents parts))]

/-- The documents of several predicates. -/
def documents : List Predicate → List Json
  | [] => []
  | p :: rest => document p :: documents rest

end

end Predicate

end CubeQuery
