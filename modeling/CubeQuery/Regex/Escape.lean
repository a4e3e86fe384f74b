import CubeQuery.Regex.Basic
import CubeQuery.Regex.Property
import CubeQuery.Regex.Reading
import CubeQuery.Text.Hex

/-!
# Escapes in patterns

What a backslash starts: a character, a class of characters or a condition on a
place. The same escapes are read inside and outside of brackets.
-/

namespace CubeQuery.Regex

/-- A part of a pattern that is no group and no class in brackets. -/
inductive Token where
  /-- A character. `isByte` tells that it is written as a byte. -/
  | literal (c : Char) (isByte : Bool) (span : Span)
  | chars (chars : CharSet) (span : Span)
  | place (look : Look) (span : Span)

/-- Where the part stands. -/
def Token.span : Token → Span
  | literal _ _ span => span
  | chars _ span => span
  | place _ span => span

/-- How far case is ignored. -/
def Flags.caselessMode (flags : Flags) : Option Caseless :=
  if flags.caseless then some (if flags.unicode then .unicode else .ascii) else none

/-- The characters of words. -/
def Flags.word (flags : Flags) : CharSet :=
  if flags.unicode then CharSet.word else CharSet.asciiWord

/-- A character with a meaning of its own in patterns. -/
def isMeta (c : Char) : Bool :=
  ['\\', '.', '+', '*', '?', '(', ')', '|', '[', ']', '\x7b', '\x7d', '^', '$', '#', '&', '-',
    '~'].contains c

/-- A character that stands for itself after a backslash. -/
def isEscapable (c : Char) : Bool :=
  isMeta c || (c.toNat < 0x80 && !c.isAlphanum && c ≠ '<' && c ≠ '>')

/-- The character that a letter stands for after a backslash. -/
def controlEscape? : Char → Option Char
  | 'a' => some '\x07'
  | 'f' => some '\x0c'
  | 't' => some '\t'
  | 'n' => some '\n'
  | 'r' => some '\r'
  | 'v' => some '\x0b'
  | _ => none

/-- The number of digits that follow a letter for a character by its code point. -/
def hexDigits : Char → Nat
  | 'x' => 2
  | 'u' => 4
  | _ => 8

/-- The character that hexadecimal digits write. -/
def scalar? (digits : List Char) : Option Char :=
  (Text.hexNumber? digits).bind fun n => if n.isValidChar then some (Char.ofNat n) else none

namespace Read

/-- Reads a given number of hexadecimal digits. The digits after the first are looked for
    behind filler. -/
def hexFixed : Nat → Read (List Char)
  | 0 => return []
  | count + 1 => do
    let origin ← here
    match ← peek with
    | none => fail .escapeTruncated origin origin
    | some c =>
      if (Text.hexValue? c).isSome then
        next
        return c :: (← hexFixed count)
      else fail .hexInvalidDigit origin (origin + 1)

/-- Reads hexadecimal digits up to a closing brace. -/
def hexBraced : Read Char := do
  let brace ← here
  next
  let digits ← takeAll fun c => (Text.hexValue? c).isSome
  let stop ← here
  match ← peek with
  | none => fail .escapeTruncated brace stop
  | some '\x7d' =>
    next
    if digits.isEmpty then fail .hexEmpty brace (← here)
    else
      match scalar? digits with
      | some c => return c
      | none => fail .hexNoScalar (brace + 1) stop
  | some _ => fail .hexInvalidDigit stop (stop + 1)

/-- Reads a character by its code point, from the letter after the backslash on. -/
def hexEscape (start : Nat) (letter : Char) : Read Token := do
  next
  match ← peek with
  | none => fail .escapeTruncated (← here) (← here)
  | some '\x7b' => do
    let c ← hexBraced
    return .literal c false ⟨start, ← here⟩
  | some _ =>
    let first ← here
    let digits ← hexFixed (hexDigits letter)
    match scalar? digits with
    | some c => return .literal c (letter = 'x') ⟨start, ← here⟩
    | none => fail .hexNoScalar first (← here)

/-- What stands before and after the first occurrence of a word. -/
def splitAtWord (word : List Char) : List Char → Option (List Char × List Char)
  | [] => none
  | c :: rest =>
    if word.isPrefixOf (c :: rest) then some ([], (c :: rest).drop word.length)
    else (splitAtWord word rest).map fun (before, after) => (c :: before, after)

/-- The property that a text in braces names, and whether an inequality negates it. -/
def propertyOf (name : List Char) : PropertyQuery × Bool :=
  match splitAtWord ['!', '='] name, splitAtWord [':'] name, splitAtWord ['='] name with
  | some (before, after), _, _ => (.valued (String.ofList before) (String.ofList after), true)
  | none, some (before, after), _ =>
    (.valued (String.ofList before) (String.ofList after), false)
  | none, none, some (before, after) =>
    (.valued (String.ofList before) (String.ofList after), false)
  | none, none, none => (.named (String.ofList name), false)

/-- Reads the name of a property, from the letter after the backslash on. -/
def propertyName : Read (PropertyQuery × Bool) := do
  next
  let origin ← here
  match ← peek with
  | none => fail .escapeTruncated origin origin
  | some '\x7b' =>
    next
    let name ← takeAll (· ≠ '\x7d')
    match ← peek with
    | none => fail .escapeTruncated (← here) (← here)
    | some _ =>
      skip 1
      return propertyOf name
  | some '\\' => fail .unicodeClassInvalid origin (origin + 1)
  | some c =>
    next
    return (.named c.toString, false)

/-- Reads a class by a property. -/
def propertyEscape (start : Nat) (negated : Bool) : Read Token := do
  let (query, isUnequal) ← propertyName
  let span : Span := ⟨start, ← here⟩
  let flags ← flags
  if flags.unicode then
    match query.chars with
    | .ok found =>
      return .chars
        ((found.caselessIf flags.caselessMode).complementIf (negated != isUnequal)) span
    | .error fault =>
      refuse fault span
      return .chars .empty span
  else
    refuse .unicodeNotAllowed span
    return .chars .empty span

/-- Reads one of the classes for digits, blanks and words. -/
def letterClass (start : Nat) (unicode ascii : CharSet) (negated : Bool) : Read Token := do
  skip 1
  let span : Span := ⟨start, ← here⟩
  let flags ← flags
  if negated && !flags.unicode then refuse .invalidText span
  return .chars ((if flags.unicode then unicode else ascii).complementIf negated) span

/-- The condition on words with a name. -/
def wordLook? (word : CharSet) : String → Option Look
  | "start" => some (.wordStart word)
  | "end" => some (.wordEnd word)
  | "start-half" => some (.wordStartHalf word)
  | "end-half" => some (.wordEndHalf word)
  | _ => none

/-- Reads what may follow a word boundary in braces. A brace that starts with anything but
    a name is left to be read as a repetition. -/
def wordBoundary (start : Nat) : Read Look := do
  let word := (← flags).word
  let before ← get
  if before.rest.head? ≠ some '\x7b' then return .wordBoundary word
  next
  let first ← here
  let isNameChar (c : Char) : Bool := c.isAlpha || c == '-'
  match ← peek with
  | none => fail .wordBoundaryTruncated start first
  | some c =>
    if !isNameChar c then
      modify fun _ => before
      return .wordBoundary word
    else
      let name ← takeAll isNameChar
      let stop ← here
      if (← peek) = some '\x7d' then
        skip 1
        match wordLook? word (String.ofList name) with
        | some found => return found
        | none => fail .wordBoundaryUnknown first stop
      else fail .wordBoundaryUnclosed before.index stop

/-- Reads an escape from the backslash on. -/
def escape : Read Token := do
  let start ← here
  skip 1
  match ← peek with
  | none => fail .escapeTruncated start (start + 1)
  | some c =>
    if c.isDigit then fail .backreference start (start + 2)
    else if c = 'x' || c = 'u' || c = 'U' then hexEscape start c
    else if c = 'p' || c = 'P' then propertyEscape start (c = 'P')
    else if c = 'd' || c = 'D' then
      letterClass start CharSet.digit CharSet.asciiDigit (c = 'D')
    else if c = 's' || c = 'S' then
      letterClass start CharSet.space CharSet.asciiSpace (c = 'S')
    else if c = 'w' || c = 'W' then
      letterClass start CharSet.word CharSet.asciiWord (c = 'W')
    else
      skip 1
      let span : Span := ⟨start, ← here⟩
      let word := (← flags).word
      if isEscapable c then return .literal c false span
      else
        match controlEscape? c, c with
        | some control, _ => return .literal control false span
        | none, 'A' => return .place .textStart span
        | none, 'z' => return .place .textEnd span
        | none, 'b' =>
          let found ← wordBoundary start
          return .place found ⟨start, ← here⟩
        | none, 'B' => return .place (.noWordBoundary word) span
        | none, '<' => return .place (.wordStart word) span
        | none, '>' => return .place (.wordEnd word) span
        | none, _ => fail .escapeUnknown span.start span.stop

end Read

end CubeQuery.Regex
