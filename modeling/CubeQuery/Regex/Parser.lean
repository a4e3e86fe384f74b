import CubeQuery.Regex.Brackets
import CubeQuery.Regex.Program

/-!
# Regular expressions from patterns

A pattern is read from left to right: alternatives of parts, which are groups,
classes, characters and conditions, each with repetitions after it. Flags hold
from where they are set to the end of their group.
-/

namespace CubeQuery.Regex

/-- A flag, or the sign that negates those after it. -/
inductive FlagItem where
  | negation
  | flag (letter : Char)
deriving DecidableEq, Repr

/-- The flags with one of them set. -/
def Flags.update (flags : Flags) (letter : Char) (value : Bool) : Flags :=
  match letter with
  | 'i' => { flags with caseless := value }
  | 'm' => { flags with multiLine := value }
  | 's' => { flags with dotAll := value }
  | 'U' => { flags with swapGreed := value }
  | 'u' => { flags with unicode := value }
  | 'R' => { flags with crlf := value }
  | 'x' => { flags with verbose := value }
  | _ => flags

/-- Whether a letter is that of a flag. -/
def isFlagLetter (c : Char) : Bool := ['i', 'm', 's', 'U', 'u', 'R', 'x'].contains c

/-- The flags after a list of changes. -/
def Flags.change (flags : Flags) (items : List FlagItem) : Flags :=
  (items.foldl (fun (flags, value) item =>
    match item with
    | .negation => (flags, false)
    | .flag letter => (flags.update letter value, value)) (flags, true)).1

/-- A part of a pattern that has been read. -/
structure Part where
  /-- What the part matches. A part that only sets flags matches nothing of a text. -/
  regex : Option Regex
  span : Span
  nesting : Nesting

namespace Part

/-- A part that holds no others. -/
def simple (regex : Option Regex) (span : Span) : Part := ⟨regex, span, .flat⟩

/-- The part as an expression. -/
def toRegex (part : Part) : Regex := part.regex.getD .empty

/-- The part that several others make, put together by `join`. Without parts it is empty. -/
def several (join : List Regex → Regex) (span : Span) : List Part → Part
  | [] => simple (some .empty) span
  | [only] => only
  | many =>
    ⟨some (join (many.map toRegex)), span, .around span (.ofAll (many.map nesting))⟩

/-- The repetition of a part up to the place `stop`. -/
def repeated (part : Part) (least : Nat) (most : Option Nat) (isGreedy : Bool) (stop : Nat) :
    Part :=
  let span : Span := ⟨part.span.start, stop⟩
  ⟨some (Regex.repetition least most isGreedy part.toRegex), span, .around span part.nesting⟩

/-- A part as a group, which is numbered if what it matches is kept. -/
def grouped (part : Part) (index : Option Nat) (span : Span) : Part :=
  let regex :=
    match index with
    | some index => Regex.group index part.toRegex
    | none => part.toRegex
  ⟨some regex, span, .around span part.nesting⟩

end Part

/-- The parts of a group so far. -/
structure Branches where
  /-- Where the group's first alternative starts. -/
  start : Nat
  /-- The alternatives that are complete, the last one first. -/
  complete : List Part
  /-- Where the present alternative starts. -/
  mark : Nat
  /-- The parts of the present alternative, the last one first. -/
  parts : List Part

namespace Branches

/-- A group without parts that starts at a place. -/
def startAt (start : Nat) : Branches := ⟨start, [], start, []⟩

/-- The group with one more part. -/
def add (branches : Branches) (part : Part) : Branches :=
  { branches with parts := part :: branches.parts }

/-- The present alternative, which ends at `stop`. -/
def present (branches : Branches) (stop : Nat) : Part :=
  .several sequence ⟨branches.mark, stop⟩ branches.parts.reverse

/-- The group with a new alternative after the bar at `stop`. -/
def divide (branches : Branches) (stop : Nat) : Branches :=
  { branches with
    complete := branches.present stop :: branches.complete
    mark := stop + 1
    parts := [] }

/-- The whole group, which ends at `stop`. -/
def finish (branches : Branches) (stop : Nat) : Part :=
  .several alternation ⟨branches.start, stop⟩
    (branches.present stop :: branches.complete).reverse

end Branches

namespace Read

/-! ## Groups -/

/-- Whether a character can be in the name of a group. -/
def isGroupNameChar (isFirst : Bool) (c : Char) : Bool :=
  c == '_' || CharSet.alphabetic.contains c ||
    (!isFirst && (c == '.' || c == '[' || c == ']' ||
      (CharSet.ofCategories Text.GeneralCategory.numbers).contains c))

/-- Reads the name of a group up to its closing bracket. -/
def groupName : Read Unit := do
  let r ← get
  let name := r.rest.takeWhile (· ≠ '>')
  let bad? := name.zipIdx.find? fun (c, i) => !isGroupNameChar (i == 0) c
  match bad? with
  | some (_, i) => fail .nameInvalid (r.index + i) (r.index + i + 1)
  | none =>
    let span : Span := ⟨r.index, r.index + name.length⟩
    skip (name.length + 1)
    if name.length = r.rest.length then fail .nameTruncated span.stop span.stop
    else if name.isEmpty then fail .nameEmpty r.index r.index
    else
      match r.names.lookup (String.ofList name) with
      | some first => fun _ => .error ⟨.nameDuplicate, span, some first⟩
      | none => modify fun r => { r with names := (String.ofList name, span) :: r.names }

/-- Reads flags up to a colon or the closing bracket of their group, after those that have
    been read with their places. -/
def flagItems : Nat → List (FlagItem × Span) → Read (List (FlagItem × Span))
  | 0, items => return items
  | limit + 1, items => do
    let mark ← here
    let span : Span := ⟨mark, mark + 1⟩
    match ← peek with
    | none => fail .flagTruncated mark mark
    | some ':' => return items
    | some ')' => return items
    | some c =>
      if c ≠ '-' && !isFlagLetter c then fail .flagUnknown mark (mark + 1)
      else
        let item := if c = '-' then FlagItem.negation else .flag c
        match items.lookup item with
        | some first =>
          fun _ => .error ⟨if c = '-' then .flagRepeatedNegation else .flagDuplicate, span,
            some first⟩
        | none =>
          skip 1
          flagItems limit (items ++ [(item, span)])

/-- What the opening of a group is. -/
inductive GroupOpening where
  /-- It is the whole group, and sets flags. -/
  | flags (flags : Flags)
  /-- The parts of the group follow, with these flags. A group whose match is kept has a
      number. -/
  | body (flags : Flags) (index : Option Nat)

/-- Reads flags and what follows them. -/
def flagGroup (start inner : Nat) : Read GroupOpening := do
  if (← peek).isNone then fail .groupUnclosed start (start + 1)
  let items ← flagItems ((← get).rest.length + 1) []
  match items.getLast? with
  | some (.negation, span) => fail .flagDanglingNegation span.start span.stop
  | _ =>
    let isWhole := (← peek) = some ')'
    skip 1
    let flags := (← flags).change (items.map (·.1))
    if !isWhole then return .body flags none
    else if items.isEmpty then fail .nothingToRepeat inner inner
    else return .flags flags

/-- Reads the opening of a group from its bracket on. -/
def groupOpening : Read GroupOpening := do
  let start ← here
  next
  let inner ← here
  if ← skipOneOf ["?=", "?!", "?<=", "?<!"] then fail .lookAround start (← here)
  else if ← skipOneOf ["?P<", "?<"] then
    let index ← nextGroup
    groupName
    return .body (← flags) (some index)
  else if ← skipOneOf ["?"] then flagGroup start inner
  else
    let index ← nextGroup
    return .body (← flags) (some index)

/-! ## Repetitions -/

/-- The last part, which a repetition is about. -/
def lastPart (branches : Branches) : Read (Part × Branches) := do
  match branches.parts with
  | part :: parts =>
    if part.regex.isSome then return (part, { branches with parts := parts })
    else fail .nothingToRepeat (← here) (← here)
  | [] => fail .nothingToRepeat (← here) (← here)

/-- Passes over the sign that changes how greedy a repetition is, and tells whether it is
    greedy. -/
def greed : Read Bool := do
  let isSigned := (← peek) = some '?'
  if isSigned then skip 1
  return (← flags).swapGreed == isSigned

/-- Reads a sign for a repetition. -/
def repetition (branches : Branches) (least : Nat) (most : Option Nat) : Read Branches := do
  let (part, branches) ← lastPart branches
  skip 1
  let isGreedy ← greed
  return branches.add (part.repeated least most isGreedy (← here))

/-- Reads a number, or tells what is wrong with it. -/
def decimal : Read (Except Error Nat) := do
  let r ← get
  skip (r.rest.takeWhile Text.isBlank).length
  let start ← here
  let digits ← takeAll Char.isDigit
  let span : Span := ⟨start, ← here⟩
  let _ ← takeAll Text.isBlank
  let value := digits.foldl (fun n c => 10 * n + (c.toNat - '0'.toNat)) 0
  if digits.isEmpty then return .error ⟨.countEmpty, span, none⟩
  else if value < 4294967296 then return .ok value
  else return .error ⟨.decimalInvalid, span, none⟩

/-- Reads the numbers of a repetition after its opening brace. -/
def counts (start : Nat) : Read (Nat × Option Nat) := do
  let unclosed {α : Type} : Read α := do fail .countUnclosed start (← here)
  let least ← decimal
  match ← peek with
  | none => unclosed
  | some ',' =>
    next
    match ← peek with
    | none => unclosed
    | some '\x7d' => return (← least, none)
    | some _ =>
      let low ← least
      let high ← (← decimal)
      return (low, some high)
  | some _ =>
    let exact ← least
    return (exact, some exact)

/-- Reads a repetition with numbers in braces. -/
def countedRepetition (branches : Branches) : Read Branches := do
  let start ← here
  let (part, branches) ← lastPart branches
  next
  if (← peek).isNone then fail .countUnclosed start (← here)
  let (least, most) ← counts start
  if (← peek) ≠ some '\x7d' then fail .countUnclosed start (← here)
  next
  let isGreedy ← greed
  if most.any (· < least) then fail .countInvalid start (← here)
  return branches.add (part.repeated least most isGreedy (← here))

/-! ## Parts -/

/-- The expression of a character. -/
def literal (c : Char) (isByte : Bool) (span : Span) : Read Regex := do
  let flags ← flags
  if !flags.unicode && isByte && 0x80 ≤ c.toNat then refuse .invalidText span
  return Regex.ofSet ((CharSet.single c).caselessIf flags.caselessMode)

/-- The characters that a dot matches. -/
def dotSet (flags : Flags) : CharSet :=
  if flags.dotAll then .all
  else if flags.crlf then ((CharSet.single '\n').union (CharSet.single '\r')).complement
  else (CharSet.single '\n').complement

/-- The start of a text or a line. -/
def caret (flags : Flags) : Look :=
  if flags.multiLine then .lineStart flags.crlf else .textStart

/-- The end of a text or a line. -/
def dollar (flags : Flags) : Look := if flags.multiLine then .lineEnd flags.crlf else .textEnd

/-- Reads what a part matches that is no group and no class in brackets. -/
def simpleRegex (c : Char) : Read Regex := do
  let start ← here
  let flags ← flags
  match c with
  | '\\' =>
    match ← escape with
    | .literal c isByte span => literal c isByte span
    | .chars found _ => return Regex.ofSet found
    | .place found _ => return .look found
  | '.' =>
    skip 1
    if !flags.unicode then refuse .invalidText ⟨start, start + 1⟩
    return Regex.ofSet (dotSet flags)
  | '^' =>
    skip 1
    return .look (caret flags)
  | '$' =>
    skip 1
    return .look (dollar flags)
  | c =>
    skip 1
    literal c false ⟨start, start + 1⟩

/-- Reads a part that is no group and no class in brackets. -/
def simplePart (c : Char) : Read Part := do
  let start ← here
  let regex ← simpleRegex c
  return .simple (some regex) ⟨start, ← here⟩

/-- Reads on in a group up to its end. `opening` is where the group's bracket stands; the
    whole pattern has none. Every step reads a character at least, so that a limit of the
    number of characters is never reached. -/
def groupBody (opening : Option Nat) : Nat → Branches → Read Part
  | 0, branches => return branches.finish branches.mark
  | limit + 1, branches => do
    skipFiller
    match ← peek, opening with
    | none, none => return branches.finish (← here)
    | none, some start => fail .groupUnclosed start (start + 1)
    | some ')', none => fail .groupUnopened (← here) ((← here) + 1)
    | some ')', some _ =>
      let stop ← here
      skip 1
      return branches.finish stop
    | some '(', _ =>
      let start ← here
      let outer ← flags
      match ← groupOpening with
      | .flags flags =>
        setFlags flags
        groupBody opening limit (branches.add (.simple none ⟨start, ← here⟩))
      | .body flags index =>
        setFlags flags
        let inner ← groupBody (some start) limit (Branches.startAt (← here))
        setFlags outer
        let group := inner.grouped index ⟨start, ← here⟩
        groupBody opening limit (branches.add group)
    | some '|', _ =>
      let stop ← here
      skip 1
      groupBody opening limit (branches.divide stop)
    | some '[', _ =>
      let found ← bracketClass
      let part : Part := ⟨some (Regex.ofSet found.chars), found.span, found.nesting⟩
      groupBody opening limit (branches.add part)
    | some '?', _ => groupBody opening limit (← repetition branches 0 (some 1))
    | some '*', _ => groupBody opening limit (← repetition branches 0 none)
    | some '+', _ => groupBody opening limit (← repetition branches 1 none)
    | some '\x7b', _ => groupBody opening limit (← countedRepetition branches)
    | some c, _ => groupBody opening limit (branches.add (← simplePart c))

end Read

/-! ## Whole patterns -/

/-- Why a pattern is no expression that can be used. -/
inductive Refusal where
  | malformed (error : Error)
  /-- The expression is too large when its repetitions are written out. -/
  | tooLarge
deriving DecidableEq, Repr

/-- The message for people, with the pattern. -/
def Refusal.message (pattern : String) : Refusal → String
  | malformed error => error.render pattern
  | tooLarge => "Compiled regex exceeds size limit of " ++ toString sizeLimit ++ " bytes."

/-- The expression that a pattern writes. Of the faults of a well-formed pattern, too deep a
    nesting counts first, then faults in the meaning of parts, and then the size. -/
def ofPattern (pattern : String) : Except Refusal Regex :=
  let cs := pattern.toList
  match (Read.groupBody none (cs.length + 1) (Branches.startAt 0)).run
      ⟨cs, 0, Flags.initial, 0, [], none⟩ with
  | .error e => .error (.malformed e)
  | .ok (part, reading) =>
    match part.nesting.atDepth? (depthLimit + 1), reading.refusal with
    | some span, _ => .error (.malformed ⟨.tooDeep, span, none⟩)
    | none, some e => .error (.malformed e)
    | none, none => if part.toRegex.isWithinLimit then .ok part.toRegex else .error .tooLarge

end CubeQuery.Regex
