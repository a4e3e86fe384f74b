/-!
# What is wrong with a pattern

The faults of a text that is no regular expression. An error is shown with the
pattern and with carets under the place of the fault, and under a second place
if the fault lies in two.
-/

namespace CubeQuery.Regex

/-- What is wrong with a pattern. -/
inductive Fault where
  | classEscapeInvalid
  | classRangeInvalid
  | classRangeLiteral
  | classUnclosed
  | decimalEmpty
  | decimalInvalid
  | hexEmpty
  | hexNoScalar
  | hexInvalidDigit
  | escapeTruncated
  | escapeUnknown
  | flagDanglingNegation
  | flagDuplicate
  | flagRepeatedNegation
  | flagTruncated
  | flagUnknown
  | nameDuplicate
  | nameEmpty
  | nameInvalid
  | nameTruncated
  | groupUnclosed
  | groupUnopened
  | countInvalid
  | countEmpty
  | countUnclosed
  | nothingToRepeat
  | wordBoundaryUnclosed
  | wordBoundaryUnknown
  | wordBoundaryTruncated
  | unicodeClassInvalid
  | backreference
  | lookAround
  | tooDeep
  | unicodeNotAllowed
  | invalidText
  | propertyUnknown
  | propertyValueUnknown
deriving DecidableEq, Repr

/-- The greatest depth to which the parts of a pattern may lie in each other. -/
def depthLimit : Nat := 250

/-- The message for people. -/
def Fault.message : Fault → String
  | classEscapeInvalid => "invalid escape sequence found in character class"
  | classRangeInvalid => "invalid character class range, the start must be <= the end"
  | classRangeLiteral => "invalid range boundary, must be a literal"
  | classUnclosed => "unclosed character class"
  | decimalEmpty => "decimal literal empty"
  | decimalInvalid => "decimal literal invalid"
  | hexEmpty => "hexadecimal literal empty"
  | hexNoScalar => "hexadecimal literal is not a Unicode scalar value"
  | hexInvalidDigit => "invalid hexadecimal digit"
  | escapeTruncated => "incomplete escape sequence, reached end of pattern prematurely"
  | escapeUnknown => "unrecognized escape sequence"
  | flagDanglingNegation => "dangling flag negation operator"
  | flagDuplicate => "duplicate flag"
  | flagRepeatedNegation => "flag negation operator repeated"
  | flagTruncated => "expected flag but got end of regex"
  | flagUnknown => "unrecognized flag"
  | nameDuplicate => "duplicate capture group name"
  | nameEmpty => "empty capture group name"
  | nameInvalid => "invalid capture group character"
  | nameTruncated => "unclosed capture group name"
  | groupUnclosed => "unclosed group"
  | groupUnopened => "unopened group"
  | countInvalid => "invalid repetition count range, the start must be <= the end"
  | countEmpty => "repetition quantifier expects a valid decimal"
  | countUnclosed => "unclosed counted repetition"
  | nothingToRepeat => "repetition operator missing expression"
  | wordBoundaryUnclosed =>
    "special word boundary assertion is either unclosed or contains an invalid character"
  | wordBoundaryUnknown =>
    "unrecognized special word boundary assertion, " ++
      "valid choices are: start, end, start-half or end-half"
  | wordBoundaryTruncated =>
    "found either the beginning of a special word boundary or a bounded repetition " ++
      "on a \\b with an opening brace, but no closing brace"
  | unicodeClassInvalid => "invalid Unicode character class"
  | backreference => "backreferences are not supported"
  | lookAround => "look-around, including look-ahead and look-behind, is not supported"
  | tooDeep =>
    "exceed the maximum number of nested parentheses/brackets (" ++ toString depthLimit ++ ")"
  | unicodeNotAllowed => "Unicode not allowed here"
  | invalidText => "pattern can match invalid UTF-8"
  | propertyUnknown => "Unicode property not found"
  | propertyValueUnknown => "Unicode property value not found"

/-- A part of a pattern, from the character at `start` to the one before `stop`. -/
structure Span where
  start : Nat
  stop : Nat
deriving DecidableEq, Repr

/-- A fault and where it lies. -/
structure Error where
  fault : Fault
  span : Span
  /-- A second place, which is at fault together with the first. -/
  other : Option Span
deriving DecidableEq, Repr

/-! ## Showing errors -/

/-- A place in a pattern by line and column, both counted from zero. -/
structure Place where
  line : Nat
  column : Nat

/-- The place of the character at an index. -/
def placeOf (pattern : List Char) (index : Nat) : Place :=
  let before := pattern.take index
  ⟨before.count '\n', (before.reverse.takeWhile (· ≠ '\n')).length⟩

/-- Cuts a carriage return off the end of a line. -/
def cutReturn (line : String) : String :=
  match line.toList.reverse with
  | '\r' :: rest => String.ofList rest.reverse
  | _ => line

/-- The lines of a pattern, without the characters that end them. -/
def linesOf (pattern : String) : List String :=
  match (pattern.splitOn "\n").reverse with
  | "" :: rest => (rest.map cutReturn).reverse
  | last :: rest => (last :: rest.map cutReturn).reverse
  | [] => []

/-- The spans of an error in the order of the pattern. -/
def Error.spans (e : Error) : List Span :=
  match e.other with
  | none => [e.span]
  | some other => if other.start < e.span.start then [other, e.span] else [e.span, other]

/-- The columns of the carets under a line, as pairs of a first column and a number. -/
def caretsOn (pattern : List Char) (line : Nat) (spans : List Span) : List (Nat × Nat) :=
  spans.filterMap fun span =>
    let first := placeOf pattern span.start
    let last := placeOf pattern span.stop
    if first.line = line ∧ last.line = line then
      some (first.column, max 1 (last.column - first.column))
    else none

/-- A line of carets. -/
def caretLine (carets : List (Nat × Nat)) : List Char :=
  carets.foldl (fun drawn (first, count) =>
    drawn ++ List.replicate (first - drawn.length) ' ' ++ List.replicate count '^') []

/-- What stands before a line of the pattern: a margin, or the number of the line. -/
def margin (width : Nat) (line : Nat) : String :=
  if width = 0 then "    "
  else
    let digits := toString (line + 1)
    String.ofList (List.replicate (width - digits.length) ' ') ++ digits ++ ": "

/-- The pattern with carets under the spans. -/
def notated (pattern : String) (spans : List Span) : String :=
  let lines := linesOf pattern
  let count := lines.length + if pattern.toList.getLast? = some '\n' then 1 else 0
  let width := if count ≤ 1 then 0 else (toString count).length
  let padding := if width = 0 then 4 else width + 2
  String.join (lines.zipIdx.map fun (text, line) =>
    let carets := caretsOn pattern.toList line spans
    margin width line ++ text ++ "\n" ++
      if carets.isEmpty then ""
      else String.ofList (List.replicate padding ' ' ++ caretLine carets) ++ "\n")

/-- Where the spans lie that go over several lines. -/
def spanNotes (pattern : List Char) (spans : List Span) : List String :=
  spans.filterMap fun span =>
    let first := placeOf pattern span.start
    let last := placeOf pattern span.stop
    if first.line = last.line then none
    else
      some ("on line " ++ toString (first.line + 1) ++ " (column " ++
        toString (first.column + 1) ++ ") through line " ++ toString (last.line + 1) ++
        " (column " ++ toString last.column ++ ")")

/-- The message for people, with the pattern. -/
def Error.render (pattern : String) (e : Error) : String :=
  let drawing := notated pattern e.spans
  let body :=
    if pattern.toList.contains '\n' then
      let divider := String.ofList (List.replicate 79 '~') ++ "\n"
      let notes := spanNotes pattern.toList e.spans
      divider ++ drawing ++ divider ++
        if notes.isEmpty then "" else "\n".intercalate notes ++ "\n"
    else drawing
  "regex parse error:\n" ++ body ++ "error: " ++ e.fault.message

end CubeQuery.Regex
