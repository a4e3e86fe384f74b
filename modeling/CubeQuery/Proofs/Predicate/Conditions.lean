import CubeQuery.Proofs.Predicate.Faithful
import CubeQuery.Proofs.CardIndex.Operations

/-!
# Conditions of query documents

A query document holds conditions on fields, through connectives of any depth.
They are the conditions of the predicate's leaves, in their order, so the fields
that a predicate is said to compare are the ones that its document constrains.

* `Json.conditions`: the conditions of a document, read off its keys alone.
* `conditions_document`: the conditions of a predicate's document are its leaves'.
* `mem_fields_iff`: the fields of a predicate are those that its document constrains.
* `IsWellFormed`: connectives join two parts, and every value fits its comparison.
-/

namespace CubeQuery

/-! ## Documents -/

namespace Json

mutual

/-- The conditions of a query document: every key that is no connective, with what it demands. -/
def conditions : Json → List (String × Json)
  | object members => conditionsOfMembers members
  | _ => []

/-- The conditions of the members of an object. -/
def conditionsOfMembers : List (String × Json) → List (String × Json)
  | [] => []
  | (key, value) :: rest =>
    (if key = "$and" ∨ key = "$or" then conditionsBelow value else [(key, value)]) ++
      conditionsOfMembers rest

/-- The conditions of the documents in an array. -/
def conditionsBelow : Json → List (String × Json)
  | array items => conditionsOfItems items
  | _ => []

/-- The conditions of several documents. -/
def conditionsOfItems : List Json → List (String × Json)
  | [] => []
  | item :: rest => conditions item ++ conditionsOfItems rest

end

/-- The fields that a query document constrains. -/
def constrained (document : Json) : List String := document.conditions.map Prod.fst

end Json

/-! ## Leaves -/

namespace Predicate

mutual

/-- The comparisons at the leaves, from left to right. -/
def leaves : Predicate → List Comparison
  | leaf c => [c]
  | all parts => leavesOf parts
  | any parts => leavesOf parts

/-- The comparisons at the leaves of several predicates, from left to right. -/
def leavesOf : List Predicate → List Comparison
  | [] => []
  | p :: rest => leaves p ++ leavesOf rest

end

mutual

theorem leafFields_eq_map (p : Predicate) : p.leafFields = p.leaves.map (·.field) := by
  match p with
  | leaf c => rfl
  | all parts => rw [leafFields, leaves, leafFieldsOf_eq_map parts]
  | any parts => rw [leafFields, leaves, leafFieldsOf_eq_map parts]

theorem leafFieldsOf_eq_map (parts : List Predicate) :
    leafFieldsOf parts = (leavesOf parts).map (·.field) := by
  match parts with
  | [] => rfl
  | p :: rest =>
    rw [leafFieldsOf, leavesOf, List.map_append, leafFields_eq_map p, leafFieldsOf_eq_map rest]

end

mutual

/-- The conditions of a predicate's document are those of its leaves. -/
theorem conditions_document (p : Predicate) (hp : p.IsPlain) :
    p.document.conditions = p.leaves.map fun c => (c.field, c.condition) := by
  match p with
  | leaf c =>
    obtain ⟨hand, hor⟩ := hp c.field List.mem_cons_self
    have hplain : ¬ (c.field = "$and" ∨ c.field = "$or") := fun h => h.elim hand hor
    rw [document, Comparison.document, Json.conditions, Json.conditionsOfMembers, if_neg hplain]
    rfl
  | all parts =>
    rw [document, Json.conditions, Json.conditionsOfMembers, if_pos (.inl rfl),
      Json.conditionsBelow, Json.conditionsOfMembers, List.append_nil, leaves]
    exact conditions_documents parts hp
  | any parts =>
    rw [document, Json.conditions, Json.conditionsOfMembers, if_pos (.inr rfl),
      Json.conditionsBelow, Json.conditionsOfMembers, List.append_nil, leaves]
    exact conditions_documents parts hp

theorem conditions_documents (parts : List Predicate)
    (hparts : ∀ field ∈ leafFieldsOf parts, field ≠ "$and" ∧ field ≠ "$or") :
    Json.conditionsOfItems (documents parts) =
      (leavesOf parts).map fun c => (c.field, c.condition) := by
  match parts with
  | [] => rfl
  | p :: rest =>
    rw [leafFieldsOf] at hparts
    have hfirst : p.IsPlain := fun field h => hparts field (List.mem_append_left _ h)
    have hrest : ∀ field ∈ leafFieldsOf rest, field ≠ "$and" ∧ field ≠ "$or" :=
      fun field h => hparts field (List.mem_append_right _ h)
    rw [documents, Json.conditionsOfItems, conditions_document p hfirst,
      conditions_documents rest hrest, leavesOf, List.map_append]

end

/-- A document constrains the fields of the leaves, in their order. -/
theorem constrained_document {p : Predicate} (hp : p.IsPlain) :
    p.document.constrained = p.leafFields := by
  rw [Json.constrained, conditions_document p hp, List.map_map, leafFields_eq_map]
  rfl

/-- The fields of a predicate are those that its document constrains. -/
theorem mem_fields_iff {p : Predicate} (hp : p.IsPlain) {key : String} :
    key ∈ p.fields ↔ key ∈ p.document.constrained := by
  rw [constrained_document hp, fields, TextSet.mem_ofList]

theorem fields_ascending (p : Predicate) :
    p.fields.toList.Pairwise fun a b => Text.bytes a < Text.bytes b :=
  p.fields.ascending.imp Text.bytes_lt

end Predicate

/-! ## Well-formed predicates -/

/-- The value and the flag of a comparison fit its relation: an order is one of integers,
    membership is in a set, and case is ignored only in the equality with a text. -/
structure Comparison.IsFit (c : Comparison) : Prop where
  order : c.relation = .greater ∨ c.relation = .less → ∃ n, c.value = .int n
  membership : c.relation = .oneOf → ∃ members, c.value = .set members
  ignoreCase : c.ignoreCase = true → c.relation = .equal ∧ ∃ s, c.value = .text s

/-- Every connective joins two parts, and every comparison is fit. -/
inductive Predicate.IsWellFormed : Predicate → Prop
  | leaf {c : Comparison} : c.IsFit → IsWellFormed (.leaf c)
  | all {p q : Predicate} : IsWellFormed p → IsWellFormed q → IsWellFormed (.all [p, q])
  | any {p q : Predicate} : IsWellFormed p → IsWellFormed q → IsWellFormed (.any [p, q])

end CubeQuery
