/-!
# Reasons why a clause has no filter

The reasons are plain data. Each has a message for people and a code for
programs.
-/

namespace CubeQuery

/-- Why a clause could not be made into a filter (`FilterError`). -/
inductive FilterError where
  /-- There is nothing but blanks. -/
  | emptyExpression
  /-- The clause has not the shape of a field, an operator and a value. The position
      is a byte offset into the trimmed clause. -/
  | malformed (detail : String) (position : Nat)
  | unknownField (field : String) (suggestion : Option String)
  | unsupportedOperator (field operator : String)
  | invalidValue (field value expected : String)
  | unknownCategory (value : String) (suggestion : Option String)
  /-- The card index could not answer. -/
  | cardLookup (card detail : String)
deriving DecidableEq, Repr

namespace FilterError

/-- The end of a message that offers a name (`did_you_mean`). -/
def offer : Option String → String
  | some name => ". Did you mean '" ++ name ++ "'?"
  | none => ""

/-- The message for people. -/
def message : FilterError → String
  | emptyExpression => "filter expression is empty"
  | malformed detail position =>
    "malformed filter at position " ++ toString position ++ ": " ++ detail
  | unknownField field suggestion => "unknown filter field '" ++ field ++ "'" ++ offer suggestion
  | unsupportedOperator field operator =>
    "operator '" ++ operator ++ "' is not supported for field '" ++ field ++ "'"
  | invalidValue field value expected =>
    "invalid value '" ++ value ++ "' for field '" ++ field ++ "' (expected " ++ expected ++ ")"
  | unknownCategory value suggestion => "unknown category '" ++ value ++ "'" ++ offer suggestion
  | cardLookup card detail => "card lookup for '" ++ card ++ "' failed: " ++ detail

/-- The code for programs (`code`). -/
def code : FilterError → String
  | emptyExpression => "PARSE_ERROR"
  | malformed .. => "PARSE_ERROR"
  | unknownField .. => "UNKNOWN_FIELD"
  | unsupportedOperator .. => "UNSUPPORTED_OPERATOR"
  | invalidValue .. => "INVALID_VALUE"
  | unknownCategory .. => "UNKNOWN_CATEGORY"
  | cardLookup .. => "CARD_LOOKUP_ERROR"

end FilterError

end CubeQuery
