import CubeQuery.Text.CaseTable

/-!
# Lowercasing

Full lowercasing of a text, where a capital sigma at the end of a word becomes
`ς` and `İ` becomes two characters, and comparison that ignores the case of
ASCII letters only.
-/

namespace CubeQuery.Text

/-- A character that has a case and is not skipped in looking for a letter's
    neighbour. -/
def isCased (c : Char) : Bool := inRanges casedRanges c.toNat

/-- A character that is skipped in looking for a letter's neighbour. -/
def isCaseIgnorable (c : Char) : Bool := inRanges caseIgnorableRanges c.toNat

/-- The lowercase form of a character, when it is a single character. -/
def lowerSimple (c : Char) : Char :=
  match caseRuns.find? (·.holds c.toNat) with
  | some run => Char.ofNat (run.lower c.toNat)
  | none => c

/-- The lowercase form of a character on its own. -/
def lowerChar (c : Char) : List Char :=
  if c = 'İ' then ['i', '\u0307'] else [lowerSimple c]

/-- Whether the first character that is not skipped is cased. -/
def meetsCased (cs : List Char) : Bool :=
  match cs.dropWhile isCaseIgnorable with
  | [] => false
  | c :: _ => isCased c

/-- A sigma between `before` (nearest character first) and `after` ends a word. -/
def endsWord (before after : List Char) : Bool :=
  meetsCased before && !meetsCased after

/-- The lowercase form of a character between `before` (nearest character first)
    and `after`. -/
def lowerBetween (before : List Char) (c : Char) (after : List Char) : List Char :=
  if c = 'Σ' then [if endsWord before after then 'ς' else 'σ'] else lowerChar c

/-- The lowercase form of a text that follows `before` (nearest character first). -/
def lowerAfter (before : List Char) : List Char → List Char
  | [] => []
  | c :: rest => lowerBetween before c rest ++ lowerAfter (c :: before) rest

/-- The lowercase form of a text. -/
def lower (cs : List Char) : List Char := lowerAfter [] cs

/-- The lowercase form of a text. -/
def lowercase (text : String) : String := String.ofList (lower text.toList)

/-- Equality up to the case of ASCII letters. -/
def sameIgnoringAsciiCase (a b : String) : Bool :=
  a.toList.map Char.toLower == b.toList.map Char.toLower

end CubeQuery.Text
