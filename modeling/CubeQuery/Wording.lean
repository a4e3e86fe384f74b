import CubeQuery.Json.Fault

/-!
# Wording

What the readers of documents say of a document that they cannot read. Errors
repeat it word for word, after a start of their own. What holds of the messages
and the output of the program holds for any wording: a run reads no more than
one document of each kind, so a text for each kind of fault is any text.

The program takes the wording of its own readers.
-/

namespace CubeQuery

/-- The words of the readers of documents. -/
class Wording where
  /-- What is wrong with a card index. -/
  ofIndex : Json.Fault → String
  /-- What is wrong with a document of settings. -/
  ofSettings : String

/-- The wording of the program's own readers. -/
instance Wording.own : Wording where
  ofIndex
    | .mistyped => "a value has the wrong type"
    | .malformed => "the text is malformed"
    | .truncated => "the text ends too early"
  ofSettings := "the document is malformed"

end CubeQuery
