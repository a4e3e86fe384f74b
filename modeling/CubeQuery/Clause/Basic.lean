/-!
# Filter clauses

A clause names a field, an operator and a value, as in `decks>5`.
-/

namespace CubeQuery

/-- The operators of clauses (`Operator`). -/
inductive Operator where
  /-- Equality, or containment for text. -/
  | equal
  | greater
  | less
deriving DecidableEq, Repr

namespace Operator

/-- The character that writes the operator (`symbol`). -/
def symbol : Operator → Char
  | equal => ':'
  | greater => '>'
  | less => '<'

/-- The operator that a character writes (`from_char`). -/
def ofChar? (c : Char) : Option Operator :=
  if c = ':' then some equal
  else if c = '>' then some greater
  else if c = '<' then some less
  else none

end Operator

/-- A clause in its three parts (`ParsedClause`). -/
structure Clause where
  /-- The name of the field, as typed. -/
  field : String
  operator : Operator
  /-- The value without its quotes and escapes. -/
  value : String
deriving DecidableEq, Repr

end CubeQuery
