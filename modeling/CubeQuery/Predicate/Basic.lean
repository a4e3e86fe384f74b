import CubeQuery.Text.Set

/-!
# Predicates over the catalog

A predicate is a tree of conjunctions and disjunctions whose leaves compare one
field of the catalog with a value.
-/

namespace CubeQuery

/-- How a field is compared with a value (`CompareOp`). -/
inductive Relation where
  | equal
  | greater
  | less
  | oneOf
deriving DecidableEq, Repr

/-- A value to compare with (`Value`). -/
inductive Operand where
  | text (s : String)
  | int (n : Int)
  | flag (b : Bool)
  | set (members : TextSet)
deriving DecidableEq

/-- The comparison of a field with a value (`Comparison`). -/
structure Comparison where
  field : String
  relation : Relation
  value : Operand
  /-- For equality with a text: containment, without regard to case. -/
  ignoreCase : Bool
deriving DecidableEq

namespace Comparison

/-- The field contains the text, without regard to case (`matches`). -/
def contains (field text : String) : Comparison := ⟨field, .equal, .text text, true⟩

/-- The field has exactly the value (`equals`). -/
def equals (field : String) (value : Operand) : Comparison := ⟨field, .equal, value, false⟩

/-- The field is greater than the number (`greater_than`). -/
def greaterThan (field : String) (n : Int) : Comparison := ⟨field, .greater, .int n, false⟩

/-- The field is less than the number (`less_than`). -/
def lessThan (field : String) (n : Int) : Comparison := ⟨field, .less, .int n, false⟩

/-- The field is a member of the set (`member_of`). -/
def memberOf (field : String) (members : TextSet) : Comparison :=
  ⟨field, .oneOf, .set members, false⟩

end Comparison

/-- A condition on a cube of the catalog (`Predicate`). -/
inductive Predicate where
  | leaf (comparison : Comparison)
  /-- Every part holds. -/
  | all (parts : List Predicate)
  /-- Some part holds. -/
  | any (parts : List Predicate)

namespace Predicate

instance : Inhabited Predicate := ⟨all []⟩

/-- Both predicates hold (`and`). -/
def and (p q : Predicate) : Predicate := all [p, q]

/-- One of two predicates holds (`or`). -/
def or (p q : Predicate) : Predicate := any [p, q]

mutual

/-- The fields of the leaves, from left to right (`collect_fields`). -/
def leafFields : Predicate → List String
  | leaf c => [c.field]
  | all parts => leafFieldsOf parts
  | any parts => leafFieldsOf parts

/-- The fields of the leaves of several predicates, from left to right. -/
def leafFieldsOf : List Predicate → List String
  | [] => []
  | p :: rest => leafFields p ++ leafFieldsOf rest

end

/-- The set of the fields that the predicate compares (`referenced_fields`). -/
def fields (p : Predicate) : TextSet := TextSet.ofList p.leafFields

end Predicate

end CubeQuery
