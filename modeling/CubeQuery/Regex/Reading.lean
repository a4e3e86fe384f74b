import CubeQuery.Regex.Nesting
import CubeQuery.Text.Blank

/-!
# Reading patterns

The state of a reader of patterns, and its first steps. A fault of the shape of
a pattern ends the reading at once. A fault of what a well-formed part means is
only kept: it is told when the whole pattern has been read, and the first one
counts.
-/

namespace CubeQuery.Regex

/-- The flags of a pattern, which groups can change. -/
structure Flags where
  /-- The case of letters does not matter. -/
  caseless : Bool
  /-- Anchors match at lines, too. -/
  multiLine : Bool
  /-- A dot matches the end of a line, too. -/
  dotAll : Bool
  /-- Lazy and greedy repetitions change places. -/
  swapGreed : Bool
  /-- Classes are those of Unicode. -/
  unicode : Bool
  /-- Carriage returns end lines, too. -/
  crlf : Bool
  /-- Blanks and comments in the pattern are left out. -/
  verbose : Bool
deriving DecidableEq, Repr

/-- The flags at the start of a pattern. -/
def Flags.initial : Flags := ⟨false, false, false, false, true, false, false⟩

/-- A reader's state. -/
structure Reading where
  rest : List Char
  /-- The number of characters that have been read. -/
  index : Nat
  flags : Flags
  /-- The number of groups that have been opened. -/
  groups : Nat
  /-- The names of groups and where they stand. -/
  names : List (String × Span)
  /-- What is wrong with the meaning of a part. -/
  refusal : Option Error

/-- A step in reading a pattern. -/
abbrev Read := StateT Reading (Except Error)

namespace Read

/-- Ends the reading. -/
def fail {α : Type} (fault : Fault) (start stop : Nat) : Read α := fun _ =>
  .error ⟨fault, ⟨start, stop⟩, none⟩

/-- Keeps a fault in the meaning of a part. -/
def refuse (fault : Fault) (span : Span) : Read Unit :=
  modify fun r =>
    { r with refusal := r.refusal.or (some ⟨fault, span, none⟩) }

/-- The number of characters that have been read. -/
def here : Read Nat := return (← get).index

/-- The next character. -/
def peek : Read (Option Char) := return (← get).rest.head?

/-- The character after the next one. -/
def peekSecond : Read (Option Char) := return (← get).rest.tail.head?

/-- The flags that hold here. -/
def flags : Read Flags := return (← get).flags

/-- Sets the flags. -/
def setFlags (flags : Flags) : Read Unit := modify fun r => { r with flags := flags }

/-- The number of a group that is opened here. -/
def nextGroup : Read Nat := do
  modify fun r => { r with groups := r.groups + 1 }
  return (← get).groups

/-- Passes over a number of characters. -/
def skip (count : Nat) : Read Unit :=
  modify fun r =>
    { r with rest := r.rest.drop count, index := r.index + (r.rest.take count).length }

/-- The number of characters in the blanks and comments at the front. -/
def fillerLength (inComment : Bool) : List Char → Nat
  | [] => 0
  | c :: rest =>
    if inComment then 1 + fillerLength (c ≠ '\n') rest
    else if Text.isBlank c then 1 + fillerLength false rest
    else if c = '#' then 1 + fillerLength true rest
    else 0

/-- Passes over blanks and comments, where the flags leave them out. -/
def skipFiller : Read Unit := do
  let r ← get
  if r.flags.verbose then skip (fillerLength false r.rest)

/-- Passes over the next character and the filler after it. -/
def next : Read Unit := do
  skip 1
  skipFiller

/-- Passes over the first word of a list that is next, and tells whether there is one. -/
def skipOneOf (words : List String) : Read Bool := do
  let rest := (← get).rest
  match words.find? fun word => word.toList.isPrefixOf rest with
  | some word =>
    skip word.length
    return true
  | none => return false

/-- The first character that is neither blank nor the first mark of a comment. -/
def pastFiller (inComment : Bool) : List Char → Option Char
  | [] => none
  | c :: rest =>
    if Text.isBlank c then pastFiller inComment rest
    else if c = '#' && !inComment then pastFiller true rest
    else some c

/-- The character after the next one, without regard to filler. -/
def peekPast : Read (Option Char) := do
  let r ← get
  let after := r.rest.tail
  return if r.flags.verbose then (pastFiller false after).or after.head? else after.head?

/-- Reads characters of a kind, with filler between them. At most `limit` are read. -/
def takeWhile (kind : Char → Bool) : Nat → Read (List Char)
  | 0 => return []
  | limit + 1 => do
    match ← peek with
    | some c =>
      if kind c then
        next
        return c :: (← takeWhile kind limit)
      else return []
    | none => return []

/-- Reads all characters of a kind, with filler between them. -/
def takeAll (kind : Char → Bool) : Read (List Char) := do
  takeWhile kind (← get).rest.length

end Read

end CubeQuery.Regex
