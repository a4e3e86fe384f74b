import CubeQuery.Regex.Escape

/-!
# Classes in brackets

A class in brackets holds characters, ranges, other classes and operations on
what stands left and right of them. Operations take all that is to their left,
and have no precedence.
-/

namespace CubeQuery.Regex

/-- An operation on sets of characters. -/
inductive SetOperation where
  | intersection
  | difference
  | symmetricDifference
deriving DecidableEq, Repr

/-- What an operation makes of two sets. -/
def SetOperation.apply : SetOperation → CharSet → CharSet → CharSet
  | intersection => CharSet.intersection
  | difference => CharSet.difference
  | symmetricDifference => CharSet.symmetricDifference

/-- A part of a class. -/
structure Member where
  chars : CharSet
  span : Span
  nesting : Nesting

namespace Member

/-- A part that holds no others. -/
def simple (chars : CharSet) (span : Span) : Member := ⟨chars, span, .flat⟩

/-- The part that members next to each other make. Without members it stands at `mark`. -/
def union (mark : Nat) (members : List Member) : Member :=
  match members with
  | [] => simple .empty ⟨mark, mark⟩
  | [only] => only
  | first :: rest =>
    let span : Span := ⟨first.span.start, (rest.getLast?.getD first).span.stop⟩
    ⟨CharSet.unionAll ((first :: rest).map chars), span,
      .around span (.ofAll ((first :: rest).map nesting))⟩

/-- The part that an operation makes of two others. -/
def operate (operation : SetOperation) (mode : Option Caseless) (left right : Member) : Member :=
  let span : Span := ⟨left.span.start, right.span.stop⟩
  ⟨operation.apply (left.chars.caselessIf mode) (right.chars.caselessIf mode), span,
    .around span (.beside left.nesting right.nesting)⟩

end Member

/-- A class of which the opening bracket has been read. -/
structure OpenClass where
  /-- The opening bracket and what belongs to it. -/
  opening : Span
  negated : Bool
  /-- An operation that waits for its right side. -/
  pending : Option (SetOperation × Member)
  /-- Where the right side of the last operation starts. -/
  mark : Nat
  /-- What stands right of the last operation, the last member first. -/
  members : List Member

namespace OpenClass

/-- The class with one more member. -/
def add (cls : OpenClass) (member : Member) : OpenClass :=
  { cls with members := member :: cls.members }

/-- What the class holds so far. -/
def contents (cls : OpenClass) (flags : Flags) : Member :=
  let right := Member.union cls.mark cls.members.reverse
  match cls.pending with
  | none => right
  | some (operation, left) => Member.operate operation flags.caselessMode left right

/-- The class with an operation on what it holds so far. The right side starts at `mark`. -/
def operate (cls : OpenClass) (flags : Flags) (operation : SetOperation) (mark : Nat) :
    OpenClass :=
  { cls with pending := some (operation, cls.contents flags), mark := mark, members := [] }

end OpenClass

/-- A class of ASCII characters by its name, with its length in the pattern. -/
def asciiClass? (pattern : List Char) : Option (CharSet × Bool × Nat) :=
  match pattern with
  | '[' :: ':' :: rest =>
    let negated := rest.head? == some '^'
    let rest := if negated then rest.tail else rest
    let name := rest.takeWhile (· ≠ ':')
    if [':', ']'].isPrefixOf (rest.drop name.length) then
      (CharSet.ofAsciiName? (String.ofList name)).map fun found =>
        (found, negated, name.length + 4 + negated.toNat)
    else none
  | _ => none

namespace Read

/-- Reads the hyphens at the start of a class, each of which stands for itself. -/
def hyphens (start : Nat) : Nat → Read (List Member)
  | 0 => return []
  | limit + 1 => do
    if (← peek) = some '-' then
      let mark ← here
      next
      if (← peek).isNone then fail .classUnclosed start start
      return .simple (.single '-') ⟨mark, mark + 1⟩ :: (← hyphens start limit)
    else return []

/-- Goes on unless the pattern ends within the opening of a class. -/
def withinOpening (start : Nat) : Read Unit := do
  if (← peek).isNone then fail .classUnclosed start (← here)

/-- Reads the opening of a class: its bracket, a sign of negation, and hyphens or a
    bracket that stand for themselves. -/
def classOpening : Read OpenClass := do
  let start ← here
  next
  withinOpening start
  let negated := (← peek) == some '^'
  if negated then
    next
    withinOpening start
  let mark ← here
  let members ← hyphens start (← get).rest.length
  if members.isEmpty && (← peek) = some ']' then
    next
    withinOpening start
    return ⟨⟨start, ← here⟩, negated, none, mark, [.simple (.single ']') ⟨mark, mark + 1⟩]⟩
  else return ⟨⟨start, ← here⟩, negated, none, mark, members.reverse⟩

/-- Reads a character or an escape in a class. -/
def classToken : Read Token := do
  match ← peek with
  | some '\\' => escape
  | some c =>
    let start ← here
    skip 1
    return .literal c false ⟨start, start + 1⟩
  | none => fail .classUnclosed (← here) (← here)

/-- Looks at what a character in a class means. -/
def classLiteral (c : Char) (isByte : Bool) (span : Span) : Read Unit := do
  if !(← flags).unicode && 0x80 ≤ c.toNat then
    refuse (if isByte then .invalidText else .unicodeNotAllowed) span

/-- The part of a class that a character or an escape is. -/
def classMember (token : Token) : Read Member := do
  match token with
  | .literal c isByte span =>
    classLiteral c isByte span
    return .simple (.single c) span
  | .chars found span => return .simple found span
  | .place _ span => fail .classEscapeInvalid span.start span.stop

/-- The part of a class that a range is. -/
def classRange (first last : Token) : Read Member := do
  match first, last with
  | .literal a aIsByte aSpan, .literal b bIsByte bSpan =>
    if b < a then fail .classRangeInvalid aSpan.start bSpan.stop
    else
      classLiteral a aIsByte aSpan
      classLiteral b bIsByte bSpan
      return .simple (.interval a b) ⟨aSpan.start, bSpan.stop⟩
  | .literal .., other => fail .classRangeLiteral other.span.start other.span.stop
  | other, _ => fail .classRangeLiteral other.span.start other.span.stop

/-- Reads a character, an escape or a range in a class. -/
def classItem (opening : Span) : Read Member := do
  let first ← classToken
  skipFiller
  match ← peek with
  | none => fail .classUnclosed opening.start opening.stop
  | some '-' =>
    let after ← peekPast
    if after = some ']' || after = some '-' then classMember first
    else
      next
      if (← peek).isNone then fail .classUnclosed opening.start opening.stop
      classRange first (← classToken)
  | some _ => classMember first

/-- Closes a class at its bracket. -/
def closeClass (cls : OpenClass) : Read Member := do
  skip 1
  let flags ← flags
  let span : Span := ⟨cls.opening.start, ← here⟩
  if cls.negated && !flags.unicode then refuse .invalidText span
  let contents := cls.contents flags
  let chars := (contents.chars.caselessIf flags.caselessMode).complementIf cls.negated
  return ⟨chars, span, .around span contents.nesting⟩

/-- Reads on in a class up to its closing bracket. Every step reads a character at least,
    so that a limit of the number of characters is never reached. -/
def classBody : Nat → OpenClass → Read Member
  | 0, cls => fail .classUnclosed cls.opening.start cls.opening.stop
  | limit + 1, cls => do
    skipFiller
    let flags ← flags
    let operate (operation : SetOperation) : Read Member := do
      skip 2
      classBody limit (cls.operate flags operation (← here))
    match ← peek, ← peekSecond with
    | none, _ => fail .classUnclosed cls.opening.start cls.opening.stop
    | some '[', _ =>
      match asciiClass? (← get).rest with
      | some (found, negated, length) =>
        let start ← here
        skip length
        let span : Span := ⟨start, ← here⟩
        if negated && !flags.unicode then refuse .invalidText span
        let chars := (found.caselessIf flags.caselessMode).complementIf negated
        classBody limit (cls.add (.simple chars span))
      | none =>
        let inner ← classBody limit (← classOpening)
        classBody limit (cls.add inner)
    | some ']', _ => closeClass cls
    | some '&', some '&' => operate .intersection
    | some '-', some '-' => operate .difference
    | some '~', some '~' => operate .symmetricDifference
    | some _, _ =>
      let item ← classItem cls.opening
      classBody limit (cls.add item)

/-- Reads a class from its opening bracket on. -/
def bracketClass : Read Member := do
  let cls ← classOpening
  classBody ((← get).rest.length + 1) cls

end Read

end CubeQuery.Regex
