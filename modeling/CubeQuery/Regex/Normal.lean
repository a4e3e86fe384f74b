import CubeQuery.Regex.Basic

/-!
# Normal forms

Expressions are put together so that the same expression is not written in many
ways: texts that follow each other are one text, a class of one character is a
text, sequences and alternatives are not nested in themselves, and what all
alternatives start with stands in front of them.

A sequence is kept as `seq p (seq q r)`, and alternatives in the same way.
-/

namespace CubeQuery.Regex

/-! ## Lengths -/

/-- The number of bytes of a character. -/
def byteLength (c : Char) : Nat := c.utf8Size

/-- The number of bytes of a text. -/
def textLength (text : List Char) : Nat := text.foldl (fun n c => n + byteLength c) 0

/-- The least number of bytes that a match takes. A class without characters has none. -/
def minLength? : Regex → Option Nat
  | empty => some 0
  | literal text => some (textLength text)
  | set s => s.ranges.head?.map fun range => byteLength (Char.ofNat range.first)
  | look _ => some 0
  | group _ body => body.minLength?
  | seq first second =>
    match first.minLength?, second.minLength? with
    | some m, some n => some (m + n)
    | _, _ => none
  | alt one other =>
    match one.minLength?, other.minLength? with
    | some m, some n => some (min m n)
    | _, _ => none
  | repeated least _ _ body => body.minLength?.map (least * ·)

/-- Whether a match takes no characters. -/
def isWidthless : Regex → Bool
  | empty => true
  | look _ => true
  | group _ body => body.isWidthless
  | seq first second => first.isWidthless && second.isWidthless
  | alt one other => one.isWidthless && other.isWidthless
  | repeated _ most _ body => most.isSome && body.isWidthless
  | literal _ => false
  | set _ => false

/-! ## Sequences -/

/-- The parts of a sequence. -/
def parts : Regex → List Regex
  | empty => []
  | seq first second => first :: second.parts
  | regex => [regex]

/-- The alternatives. -/
def alternatives : Regex → List Regex
  | alt one other => one :: other.alternatives
  | regex => [regex]

/-- The expression of a class. -/
def ofSet (s : CharSet) : Regex :=
  match s.only? with
  | some c => literal [c]
  | none => set s

/-- Puts a part in front of others, and joins texts. -/
def consPart : Regex → List Regex → List Regex
  | literal text, literal more :: rest => literal (text ++ more) :: rest
  | part, rest => part :: rest

/-- The sequence of parts that need no further joining. -/
def chain : List Regex → Regex
  | [] => empty
  | [only] => only
  | first :: rest => seq first (chain rest)

/-- The expressions one after the other. -/
def sequence (regexes : List Regex) : Regex :=
  chain ((regexes.flatMap parts).foldr consPart [])

/-! ## Alternatives -/

/-- The alternatives of a list that need no further joining. -/
def choice : List Regex → Regex
  | [] => set CharSet.empty
  | [only] => only
  | first :: rest => alt first (choice rest)

/-- The only character of a text. -/
def singleChar? : Regex → Option Char
  | literal [c] => some c
  | _ => none

/-- The characters of a class. -/
def classSet? : Regex → Option CharSet
  | set s => some s
  | _ => none

/-- A class in place of alternatives that are characters, or that are classes. -/
def mergedClass? (regexes : List Regex) : Option Regex :=
  match regexes.mapM singleChar?, regexes.mapM classSet? with
  | some chars, _ => some (ofSet (CharSet.unionAll (chars.map CharSet.single)))
  | none, some sets => some (ofSet (CharSet.unionAll sets))
  | none, none => none

/-- The parts of a sequence of two parts at least. -/
def longParts : Regex → List Regex
  | seq first second => first :: second.parts
  | _ => []

/-- The parts with which both of two lists start. -/
def commonStart : List Regex → List Regex → List Regex
  | a :: as, b :: bs => if a = b then a :: commonStart as bs else []
  | _, _ => []

/-- The number of parts of an expression. -/
def size : Regex → Nat
  | group _ body => body.size + 1
  | seq first second => first.size + second.size + 1
  | alt one other => one.size + other.size + 1
  | repeated _ _ _ body => body.size + 1
  | _ => 1

/-- One of the expressions. Whatever they all start with is taken out as long as that is
    possible, at most `limit` times. -/
def alternationWithin : Nat → List Regex → Regex
  | 0, regexes => choice regexes
  | limit + 1, regexes =>
    match regexes.flatMap alternatives with
    | [] => choice []
    | [only] => only
    | first :: rest =>
      let start := rest.foldl (fun start r => commonStart start r.longParts) first.longParts
      match mergedClass? (first :: rest), start with
      | some merged, _ => merged
      | none, [] => choice (first :: rest)
      | none, start =>
        let ends := (first :: rest).map fun r => chain (r.longParts.drop start.length)
        sequence (start ++ [alternationWithin limit ends])

/-- One of the expressions. -/
def alternation (regexes : List Regex) : Regex :=
  alternationWithin (regexes.foldl (fun n r => n + r.size) 1) regexes

/-! ## Repetitions -/

/-- The repetition of an expression. What takes no characters is repeated once at most. -/
def repetition (least : Nat) (most : Option Nat) (isGreedy : Bool) (body : Regex) : Regex :=
  let (least, most) :=
    if body.isWidthless then (min least 1, some (min (most.getD 1) 1)) else (least, most)
  if most = some 0 then empty
  else if least = 1 && most = some 1 then body
  else repeated least most isGreedy body

end CubeQuery.Regex
