import CubeQuery.Clause.Basic
import CubeQuery.FilterError
import CubeQuery.Text.Blank

/-!
# Reading clauses

A clause is a name of ASCII letters, digits and underscores, the character of an
operator, and a value. The value is bare, without blanks, or stands between two
quotes of one kind, where a backslash takes the next character as it is.

What is wrong with a text that is no clause is a `Clause.Fault` at a position, counted
in bytes of UTF-8.
-/

namespace CubeQuery

/-- What is wrong with the shape of a clause. -/
inductive Clause.Fault where
  /-- The clause does not start with a name, but with this character or its end. -/
  | noField (found : Option Char)
  | noOperator (field : String) (found : Option Char)
  | noValue (field : String) (operator : Operator)
  | openQuote (quote : Char)
  | textAfterQuote
  | blankInValue
deriving DecidableEq, Repr

/-- The message for people. -/
def Clause.Fault.message : Clause.Fault → String
  | noField none => "expected a field name"
  | noField (some c) =>
    if (Operator.ofChar? c).isSome then "missing field name before '" ++ c.toString ++ "'"
    else "expected a field name, found '" ++ c.toString ++ "'"
  | noOperator field none => "expected an operator after '" ++ field ++ "'"
  | noOperator field (some c) =>
    "expected one of ':', '>', '<' after '" ++ field ++ "', found '" ++ c.toString ++ "'"
  | noValue field operator =>
    "missing value after '" ++ field ++ operator.symbol.toString ++ "'"
  | openQuote quote => "unterminated " ++ quote.toString ++ " quote"
  | textAfterQuote => "unexpected text after quoted value"
  | blankInValue =>
    "unexpected whitespace in value (quote values containing spaces; " ++
      "only one clause is supported)"

/-- A fault and the byte offset where it shows. -/
structure LexError where
  fault : Clause.Fault
  position : Nat
deriving DecidableEq, Repr

/-- The reason to give for a text that is no clause (`parse`). -/
def LexError.toFilterError (e : LexError) : FilterError := .malformed e.fault.message e.position

namespace Clause

/-- A character of a field name (`read_identifier`). -/
def isNameChar (c : Char) : Bool := c.isAlphanum || c == '_'

/-- A character that opens and closes a quoted value. -/
def isQuote (c : Char) : Bool := c == '"' || c == '\x27'

/-- Reads on to the closing quote: the value and what follows the quote, or nothing when no quote
    closes the value (`read_quoted_string`). -/
def readQuoted (quote : Char) : List Char → Option (List Char × List Char)
  | [] => none
  | c :: rest =>
    if c = quote then some ([], rest)
    else if c = '\\' then
      match rest with
      | [] => none
      | escaped :: rest' => (readQuoted quote rest').map fun (v, r) => (escaped :: v, r)
    else (readQuoted quote rest).map fun (v, r) => (c :: v, r)

/-- Reads the value of a clause, all that stands after the operator (the end of `tokenize`,
    with `read_bare_value`). The value starts at byte `start`. An empty value is left to the
    caller. -/
def readValue (start : Nat) (cs : List Char) : Except LexError (List Char) :=
  match cs with
  | [] => .ok []
  | c :: rest =>
    if isQuote c then
      match readQuoted c rest with
      | none => .error ⟨.openQuote c, start⟩
      | some (value, []) => .ok value
      | some (_, after@(_ :: _)) =>
        .error ⟨.textAfterQuote, start + (Text.width cs - Text.width after)⟩
    else
      let head := cs.takeWhile (!Text.isBlank ·)
      if head.length < cs.length then .error ⟨.blankInValue, start + Text.width head⟩
      else .ok cs

/-- Reads a clause from a text that is not trimmed (`tokenize` of a `Lexer`). -/
def lexChars (cs : List Char) : Except LexError Clause :=
  let name := cs.takeWhile isNameChar
  let rest := cs.dropWhile isNameChar
  let field := String.ofList name
  if name.isEmpty then .error ⟨.noField rest.head?, 0⟩
  else
    match rest with
    | [] => .error ⟨.noOperator field none, Text.width name⟩
    | c :: after =>
      match Operator.ofChar? c with
      | none => .error ⟨.noOperator field (some c), Text.width name⟩
      | some operator =>
        let start := Text.width name + c.utf8Size
        match readValue start after with
        | .error e => .error e
        | .ok [] => .error ⟨.noValue field operator, start⟩
        | .ok value => .ok ⟨field, operator, String.ofList value⟩

/-- Reads a clause from a text as it stands, blanks at its ends included. -/
def lex (text : String) : Except FilterError Clause :=
  (lexChars text.toList).mapError LexError.toFilterError

/-- Reads a clause from a text, without regard to blanks at its ends (`tokenize`). -/
def tokenize (text : String) : Except FilterError Clause :=
  match Text.trim text.toList with
  | [] => .error .emptyExpression
  | cs => (lexChars cs).mapError LexError.toFilterError

end Clause

end CubeQuery
