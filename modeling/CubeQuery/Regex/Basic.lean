import CubeQuery.Regex.CharSet

/-!
# Regular expressions

A regular expression and the question whether it matches somewhere in a text.
The answer is found for all places of the text at once: a `Marks` list has a
mark for each place, and `Regex.advance` tells which places a match can reach
from the marked ones.
-/

namespace CubeQuery

/-- A condition on a place in a text, which takes no character. -/
inductive Look where
  | textStart
  | textEnd
  /-- The start of a line. With `crlf`, a carriage return ends a line as well. -/
  | lineStart (crlf : Bool)
  | lineEnd (crlf : Bool)
  /-- A character of the set is on one side, and none on the other. -/
  | wordBoundary (word : CharSet)
  | noWordBoundary (word : CharSet)
  | wordStart (word : CharSet)
  | wordEnd (word : CharSet)
  /-- No character of the set is before the place. -/
  | wordStartHalf (word : CharSet)
  /-- No character of the set is after the place. -/
  | wordEndHalf (word : CharSet)
deriving DecidableEq, Repr

namespace Look

/-- Whether a line starts between two characters. -/
def startsLine (crlf : Bool) (before after : Option Char) : Bool :=
  match before with
  | none => true
  | some '\n' => true
  | some '\r' => crlf && after != some '\n'
  | some _ => false

/-- Whether a line ends between two characters. -/
def endsLine (crlf : Bool) (before after : Option Char) : Bool :=
  match after with
  | none => true
  | some '\n' => !crlf || before != some '\r'
  | some '\r' => crlf
  | some _ => false

/-- Whether the condition holds between two characters, of which the first is missing at
    the start and the second at the end of a text. -/
def holds (look : Look) (before after : Option Char) : Bool :=
  match look with
  | textStart => before.isNone
  | textEnd => after.isNone
  | lineStart crlf => startsLine crlf before after
  | lineEnd crlf => endsLine crlf before after
  | wordBoundary word => before.any word.contains != after.any word.contains
  | noWordBoundary word => before.any word.contains == after.any word.contains
  | wordStart word => !before.any word.contains && after.any word.contains
  | wordEnd word => before.any word.contains && !after.any word.contains
  | wordStartHalf word => !before.any word.contains
  | wordEndHalf word => !after.any word.contains

end Look

/-- A regular expression. -/
inductive Regex where
  | empty
  | literal (text : List Char)
  | set (set : CharSet)
  | look (look : Look)
  /-- A group with a number, under which a match of it is kept. -/
  | group (index : Nat) (body : Regex)
  | seq (first second : Regex)
  | alt (one other : Regex)
  /-- At least `min` and at most `max` repetitions, as many as possible if the repetition
      is greedy, and else as few as possible. -/
  | repeated (min : Nat) (max : Option Nat) (isGreedy : Bool) (body : Regex)
deriving DecidableEq, Repr

/-- A mark for each place of a text, from its start to its end. -/
abbrev Marks := List Bool

namespace Marks

/-- The marks of two lists together. -/
def join (a b : Marks) : Marks := List.zipWith (· || ·) a b

/-- Whether there is a mark. -/
def isAny (marks : Marks) : Bool := marks.any id

/-- The marks after exactly `count` steps. -/
def steps (step : Marks → Marks) : Nat → Marks → Marks
  | 0, marks => marks
  | count + 1, marks =>
    let next := step marks
    if next = marks then marks else steps step count next

/-- The marks after at most `count` steps. -/
def closure (step : Marks → Marks) : Nat → Marks → Marks
  | 0, marks => marks
  | count + 1, marks =>
    let next := marks.join (step marks)
    if next = marks then marks else closure step count next

end Marks

namespace Regex

/-- The places of a text, each as the character before and the character after it. -/
def places (text : List Char) : List (Option Char × Option Char) :=
  List.zip (none :: text.map some) (text.map some ++ [none])

/-- The places where a match that starts at a marked place can end. -/
def advance (text : List Char) : Regex → Marks → Marks
  | empty, marks => marks
  | literal cs, marks =>
    cs.foldl (fun marks c => false :: List.zipWith (fun mark d => mark && c == d) marks text) marks
  | set s, marks => false :: List.zipWith (fun mark c => mark && s.contains c) marks text
  | look l, marks =>
    List.zipWith (fun mark (before, after) => mark && l.holds before after) marks (places text)
  | group _ body, marks => advance text body marks
  | seq first second, marks => advance text second (advance text first marks)
  | alt one other, marks => (advance text one marks).join (advance text other marks)
  | repeated min max _ body, marks =>
    let step := fun marks => advance text body marks
    Marks.closure step ((max.map (· - min)).getD marks.length) (Marks.steps step min marks)

/-- Whether the expression matches somewhere in a text. -/
def isMatch (regex : Regex) (text : String) : Bool :=
  let cs := text.toList
  (regex.advance cs (List.replicate (cs.length + 1) true)).isAny

end Regex

end CubeQuery
