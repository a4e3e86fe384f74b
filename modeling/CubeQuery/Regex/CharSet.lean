import CubeQuery.Text.Alphabet
import CubeQuery.Text.CaseFold
import CubeQuery.Text.GeneralCategory

/-!
# Sets of characters

What one place of a regular expression can match. A set is kept as ranges of code
points in ascending order, with a gap between any two of them, so that equal sets
are written alike.
-/

namespace CubeQuery

/-- The code points from `first` to `last`. -/
structure CodeRange where
  first : Nat
  last : Nat
deriving DecidableEq, Repr

/-- Whether a code point is in the range. -/
def CodeRange.holds (range : CodeRange) (n : Nat) : Bool := range.first ≤ n && n ≤ range.last

/-- How far the case of letters is ignored. -/
inductive Caseless where
  /-- The case of ASCII letters. -/
  | ascii
  /-- The case of all letters. -/
  | unicode
deriving DecidableEq, Repr

/-- The characters that count as the same. -/
def Caseless.variants : Caseless → Char → List Char
  | .ascii => Text.asciiCaseVariants
  | .unicode => Text.caseVariants

/-- The characters that count as the same as another one. -/
def Caseless.letters : Caseless → List Char
  | .ascii => Text.asciiLetters
  | .unicode => Text.caseLetters

/-- A set of characters. -/
structure CharSet where
  ranges : List CodeRange
deriving DecidableEq, Repr

namespace CharSet

/-- Whether a character is in the set. -/
def contains (a : CharSet) (c : Char) : Bool := a.ranges.any (·.holds c.toNat)

/-! ## Ranges in order -/

/-- Joins a range that starts no later than the others with those that it meets. -/
def joinTo (range : CodeRange) : List CodeRange → List CodeRange
  | [] => [range]
  | other :: rest =>
    if other.first ≤ range.last + 1 then joinTo ⟨range.first, max range.last other.last⟩ rest
    else range :: joinTo other rest

/-- The set of the characters of ranges in any order. -/
def ofRanges (ranges : List CodeRange) : CharSet :=
  match ranges.mergeSort fun a b => a.first ≤ b.first with
  | [] => ⟨[]⟩
  | first :: rest => ⟨joinTo first rest⟩

/-- The ranges of a run. -/
def rangesOf (run : Text.Run) : List CodeRange :=
  if run.step = 1 then [⟨run.first, run.last⟩]
  else
    (List.range ((run.last - run.first) / run.step + 1)).map fun i =>
      ⟨run.first + i * run.step, run.first + i * run.step⟩

/-- The set of the characters of runs. -/
def runs (runs : List Text.Run) : CharSet := ofRanges (runs.flatMap rangesOf)

/-- The set without characters. -/
def empty : CharSet := ⟨[]⟩

/-- The characters between two, both included. -/
def interval (first last : Char) : CharSet := ⟨[⟨first.toNat, last.toNat⟩]⟩

/-- The set of one character. -/
def single (c : Char) : CharSet := interval c c

/-- All characters. -/
def all : CharSet := interval '\x00' (Char.ofNat 0x10FFFF)

/-! ## Operations -/

/-- The characters of two sets. -/
def union (a b : CharSet) : CharSet := ofRanges (a.ranges ++ b.ranges)

/-- The characters of a list of sets. -/
def unionAll (sets : List CharSet) : CharSet := ofRanges (sets.flatMap ranges)

/-- A range without surrogates, which are no characters. -/
def scalars (range : CodeRange) : List CodeRange :=
  [CodeRange.mk range.first (min range.last 0xD7FF),
    CodeRange.mk (max range.first 0xE000) range.last].filter fun r => r.first ≤ r.last

/-- The ranges between those of a list, from a code point on. -/
def gaps (start : Nat) : List CodeRange → List CodeRange
  | [] => if start ≤ 0x10FFFF then [⟨start, 0x10FFFF⟩] else []
  | range :: rest =>
    let others := gaps (range.last + 1) rest
    if start < range.first then ⟨start, range.first - 1⟩ :: others else others

/-- The characters that are not in a set. -/
def complement (a : CharSet) : CharSet := ⟨(gaps 0 a.ranges).flatMap scalars⟩

/-- The characters in both sets. -/
def intersection (a b : CharSet) : CharSet := complement (union (complement a) (complement b))

/-- The characters of one set that are not in the other. -/
def difference (a b : CharSet) : CharSet := intersection a (complement b)

/-- The characters that are in one of two sets alone. -/
def symmetricDifference (a b : CharSet) : CharSet := difference (union a b) (intersection a b)

/-- The set with all variants of its characters. -/
def caseless (mode : Caseless) (a : CharSet) : CharSet :=
  let variants := (mode.letters.filter a.contains).flatMap mode.variants
  ofRanges (a.ranges ++ variants.map fun c => ⟨c.toNat, c.toNat⟩)

/-- The complement of a set, if it is asked for. -/
def complementIf (negated : Bool) (a : CharSet) : CharSet := if negated then complement a else a

/-- The variants of a set's characters, if they are asked for. -/
def caselessIf (mode : Option Caseless) (a : CharSet) : CharSet :=
  match mode with
  | some mode => caseless mode a
  | none => a

/-- The only character of a set. -/
def only? (a : CharSet) : Option Char :=
  match a.ranges with
  | [range] => if range.first = range.last then some (Char.ofNat range.first) else none
  | _ => none

/-- Whether the set has ASCII characters alone. -/
def isAscii (a : CharSet) : Bool := a.ranges.all (·.last ≤ 0x7F)

/-! ## Classes of ASCII characters -/

/-- The ASCII digits. -/
def asciiDigit : CharSet := interval '0' '9'

/-- The blank ASCII characters. -/
def asciiSpace : CharSet := unionAll [interval '\t' '\r', single ' ']

/-- The ASCII characters of words. -/
def asciiWord : CharSet :=
  unionAll [interval '0' '9', interval 'A' 'Z', single '_', interval 'a' 'z']

/-- The class of ASCII characters with a name. -/
def ofAsciiName? : String → Option CharSet
  | "alnum" => some (unionAll [interval '0' '9', interval 'A' 'Z', interval 'a' 'z'])
  | "alpha" => some (unionAll [interval 'A' 'Z', interval 'a' 'z'])
  | "ascii" => some (interval '\x00' '\x7f')
  | "blank" => some (unionAll [single '\t', single ' '])
  | "cntrl" => some (unionAll [interval '\x00' '\x1f', single '\x7f'])
  | "digit" => some asciiDigit
  | "graph" => some (interval '!' '~')
  | "lower" => some (interval 'a' 'z')
  | "print" => some (interval ' ' '~')
  | "punct" =>
    some (unionAll [interval '!' '\x2f', interval ':' '@', interval '[' '\x60',
      interval '\x7b' '~'])
  | "space" => some asciiSpace
  | "upper" => some (interval 'A' 'Z')
  | "word" => some asciiWord
  | "xdigit" => some (unionAll [interval '0' '9', interval 'A' 'F', interval 'a' 'f'])
  | _ => none

/-! ## Classes of Unicode characters -/

/-- The characters of several categories. -/
def ofCategories (categories : List Text.GeneralCategory) : CharSet :=
  runs (categories.flatMap (·.runs))

/-- The characters that are assigned. -/
def assigned : CharSet := ofCategories Text.GeneralCategory.assigned

/-- The decimal digits of all scripts. -/
def digit : CharSet := ofCategories [.decimalDigit]

/-- The blank characters. -/
def space : CharSet :=
  runs [⟨0x9, 0xD, 1⟩, ⟨0x20, 0x20, 1⟩, ⟨0x85, 0x85, 1⟩, ⟨0xA0, 0xA0, 1⟩,
    ⟨0x1680, 0x1680, 1⟩, ⟨0x2000, 0x200A, 1⟩, ⟨0x2028, 0x2029, 1⟩, ⟨0x202F, 0x202F, 1⟩,
    ⟨0x205F, 0x205F, 1⟩, ⟨0x3000, 0x3000, 1⟩]

/-- The characters that join their neighbours or keep them apart. -/
def joiner : CharSet := interval '\u200c' '\u200d'

/-- The letters, and the numbers and symbols that stand for letters. -/
def letterLike : CharSet :=
  union (ofCategories (Text.GeneralCategory.letters ++ [.letterNumber]))
    (runs Text.enclosedLetters)

/-- What a script is spelled with: letters and the marks of its alphabet. -/
def alphabetic : CharSet :=
  union letterLike
    (difference (ofCategories [.nonspacingMark, .spacingMark]) (runs Text.modifyingMarks))

/-- The small letters, and what is written like one. -/
def lowercase : CharSet := union (ofCategories [.lowerLetter]) (runs Text.otherSmallLetters)

/-- The capital letters, and what is written like one. -/
def uppercase : CharSet := union (ofCategories [.upperLetter]) (runs Text.otherCapitals)

/-- The characters of words: letters, marks, digits, connectors and joiners. -/
def word : CharSet :=
  unionAll [letterLike, ofCategories (Text.GeneralCategory.marks ++ [.decimalDigit, .connector]),
    joiner]

/-- The characters with which a name may start. -/
def nameStart : CharSet :=
  difference
    (union (ofCategories (Text.GeneralCategory.letters ++ [.letterNumber]))
      (runs Text.otherNameStarts))
    (runs Text.syntaxLetters)

/-- The characters of names. -/
def namePart : CharSet :=
  unionAll [nameStart,
    ofCategories [.nonspacingMark, .spacingMark, .decimalDigit, .connector],
    runs Text.otherNameParts]

end CharSet

end CubeQuery
