/-!
# Literal patterns

A text as a regular expression that matches the text itself: every character
with a meaning of its own in expressions has a backslash before it.
-/

namespace CubeQuery.Pattern

/-- The characters with a meaning of their own. -/
def metacharacters : List Char :=
  ['\\', '.', '+', '*', '?', '(', ')', '|', '[', ']', '\x7b', '\x7d', '^', '$', '#', '&', '-',
    '~']

/-- One character of a literal pattern. -/
def literalChar (c : Char) : List Char := if metacharacters.contains c then ['\\', c] else [c]

/-- The pattern that matches a text literally. -/
def literal (text : String) : String := String.ofList (text.toList.flatMap literalChar)

end CubeQuery.Pattern
