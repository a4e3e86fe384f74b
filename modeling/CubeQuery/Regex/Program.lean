import Std.Data.HashMap
import CubeQuery.Regex.Normal
import CubeQuery.Text.ByteRange

/-!
# The size of an expression

An expression is carried out by an automaton that reads a text byte by byte, once
forwards and once backwards. The memory of each of the two is limited. Repetitions
are written out, so that a short pattern can be too large.

The states of an automaton are counted in the order in which they are laid down. A
class of characters shares the states of equal ends of its byte sequences, as far as
a table of recent states remembers them; a state is looked for at one place of the
table, which depends on the numbers of the states after it.
-/

namespace CubeQuery.Regex

/-- The greatest number of bytes that an automaton may take. -/
def sizeLimit : Nat := 10485760

/-- The direction in which an automaton reads. -/
inductive Direction where
  | forwards
  | backwards
deriving DecidableEq, Repr

/-! ## States -/

/-- What has been laid down of an automaton. -/
structure Layout where
  /-- The number of states. -/
  states : Nat
  /-- The bytes that states take beyond their fixed size. -/
  extra : Nat
deriving DecidableEq, Repr

/-- The number of bytes of a layout. -/
def Layout.size (layout : Layout) : Nat := 32 * layout.states + layout.extra

/-- A step in laying down an automaton, which fails when the automaton becomes too large. -/
abbrev Lay := StateT Layout Option

namespace Lay

/-- Adds a number of states with more bytes, and tells the number of the first. -/
def states (count extra : Nat) : Lay Nat := fun layout =>
  let grown : Layout := ⟨layout.states + count, layout.extra + extra⟩
  if grown.size ≤ sizeLimit then some (layout.states, grown) else none

/-- Adds a state that has one successor, or none. -/
def plain : Lay Nat := states 1 0

/-- Adds a state with a number of exits for ranges of bytes. -/
def branching (exits : Nat) : Lay Nat := states 1 (8 * exits)

/-- Notes the successors of a state that can have any number of them. -/
def successors (count : Nat) : Lay Unit := do
  let _ ← states 0 (4 * count)

end Lay

/-- The last state of a part: whether it can have any number of successors. -/
inductive Exit where
  | single
  | fork
deriving DecidableEq, Repr

/-- Connects the last state of a part with the next part. -/
def Exit.connect : Exit → Lay Unit
  | single => pure ()
  | fork => Lay.successors 1

/-! ## Classes of characters -/

/-- A digest of numbers, from which a place in a table follows. -/
def digest (numbers : List Nat) : UInt64 :=
  numbers.foldl (fun h n => (h ^^^ n.toUInt64) * 1099511628211) 14695981039346656037

/-- An exit of a state for a range of bytes, with the number of the next state. -/
structure Edge where
  range : Text.ByteRange
  next : Nat
deriving DecidableEq, Repr

/-- The numbers of an exit. -/
def Edge.numbers (edge : Edge) : List Nat := [edge.range.first, edge.range.last, edge.next]

/-- A table of states by their exits. A place of the table holds one state. -/
abbrev StateTable := Std.HashMap UInt64 (List Edge × Nat)

/-- A step in laying down a class. -/
abbrev LayClass := StateT StateTable Lay

/-- The state with given exits: one that the table remembers at its place, or a new one
    that `make` lays down. The table has `places` places. -/
def shared (places : UInt64) (edges : List Edge) (make : Lay Nat) : LayClass Nat := do
  let place := digest (edges.flatMap Edge.numbers) % places
  let known? := ((← get).get? place).filter (·.1 = edges)
  match known? with
  | some (_, state) => return state
  | none =>
    let state ← make
    modify (·.insert place (edges, state))
    return state

/-- Lays down the states for the ends of byte sequences, and tells the number of their first
    state. The sequences lead to the state `target`, and are shorter than `limit`. -/
def endsOf (target : Nat) : (limit : Nat) → List (List Text.ByteRange) → LayClass Nat
  | 0, _ => return target
  | limit + 1, sequences => do
    if sequences.all List.isEmpty then return target
    else
      let edges ← (sequences.splitBy fun a b => a.head? == b.head?).mapM fun alike => do
        let next ← endsOf target limit (alike.map List.tail)
        let range := ((alike.head?.bind List.head?)).getD Text.anyFollower
        return Edge.mk range next
      shared 10000 edges (Lay.branching edges.length)

/-- Lays down the states for one byte sequence from its end on, and tells the number of the
    first state to be entered. -/
def backFrom (target : Nat) : List Text.ByteRange → LayClass Nat
  | [] => return target
  | range :: rest => do
    let state ← shared 1000 [⟨range, target⟩] Lay.plain
    backFrom state rest

/-- The byte sequences of a class. -/
def sequencesOf (s : CharSet) : List (List Text.ByteRange) :=
  s.ranges.flatMap fun range => Text.byteRanges range.first range.last

/-- Lays down a class of ASCII characters with a number of ranges. -/
def layAscii (ranges : Nat) : Lay Exit := do
  let _ ← Lay.plain
  let _ ← Lay.branching ranges
  return .single

/-- Lays down a class of characters with the given byte sequences. -/
def laySequences (sequences : List (List Text.ByteRange)) : Direction → Lay Exit
  | .forwards => do
    let target ← Lay.plain
    let _ ← (endsOf target 5 sequences).run ∅
    return .single
  | .backwards => do
    let _ ← Lay.plain
    let target ← Lay.plain
    let _ ← (sequences.forM fun bytes => discard (backFrom target bytes)).run ∅
    Lay.successors sequences.length
    return .single

/-! ## Alternatives of texts -/

/-- The texts of a list up to each empty one, as lists. Empty texts before the first other
    text count once. -/
def untilEmpty (texts : List (List UInt8)) : List (List (List UInt8)) :=
  let step := fun (done : List (List (List UInt8)) × List (List UInt8)) (text : List UInt8) =>
    let (closed, present) := done
    if !text.isEmpty then (closed, present ++ [text])
    else if !closed.isEmpty && closed.all List.isEmpty && present.isEmpty then (closed, present)
    else (closed ++ [present], [])
  let (closed, last) := texts.foldl step ([], [])
  closed ++ [last]

/-- The layout of a tree of texts, which are shorter than `limit`. Texts with the same start
    share its states. -/
def treeLayout : (limit : Nat) → List (List UInt8) → Layout
  | 0, _ => ⟨0, 0⟩
  | limit + 1, texts =>
    let groups := untilEmpty texts
    let add (a b : Layout) : Layout := ⟨a.states + b.states, a.extra + b.extra⟩
    let groupLayout (group : List (List UInt8)) : Layout :=
      let bytes := (group.filterMap List.head?).eraseDups
      let own : Layout :=
        if bytes.isEmpty then ⟨0, 0⟩
        else ⟨1, if bytes.length = 1 then 0 else 8 * bytes.length⟩
      bytes.foldl (fun layout byte =>
        let tails := (group.filter fun text => text.head? = some byte).map List.tail
        if tails.all List.isEmpty then layout else add layout (treeLayout limit tails)) own
    let entries := (groups.filter (!·.isEmpty)).length + (groups.length - 1)
    groups.foldl (fun layout group => add layout (groupLayout group)) ⟨1, 4 * entries⟩

/-- The bytes of a text in the order in which they are read. -/
def bytesOf (direction : Direction) (text : List Char) : List UInt8 :=
  let bytes := text.flatMap String.utf8EncodeChar
  match direction with
  | .forwards => bytes
  | .backwards => bytes.reverse

/-- Lays down alternatives that are texts. -/
def layTexts (direction : Direction) (texts : List (List Char)) : Lay Exit := do
  let bytes := texts.map (bytesOf direction)
  let limit := bytes.foldl (fun n text => max n text.length) 0 + 1
  let tree := treeLayout limit bytes
  let _ ← Lay.plain
  let _ ← Lay.states tree.states tree.extra
  return .single

/-! ## Parts -/

/-- Lays down more copies of a part after one with the given exit. -/
def moreCopies (copy : Lay Exit) : Nat → Exit → Lay Exit
  | 0, exit, layout => some (exit, layout)
  | count + 1, exit, layout =>
    match (do exit.connect; copy : Lay Exit) layout with
    | none => none
    | some (exit, layout) => moreCopies copy count exit layout

/-- Lays down copies of a part one after the other. -/
def copies (copy : Lay Exit) : Nat → Lay Exit
  | 0 => do
    let _ ← Lay.plain
    return .single
  | count + 1 => do moreCopies copy count (← copy)

/-- Lays down copies of a part each of which can be left out together with those after it.
    The part before the first one has the given exit. -/
def optionalCopies (copy : Lay Exit) : Nat → Exit → Lay Exit
  | 0, exit, layout => some (exit, layout)
  | count + 1, exit, layout =>
    let step : Lay Exit := do
      let _ ← Lay.plain
      Lay.successors 2
      exit.connect
      copy
    match step layout with
    | none => none
    | some (exit, layout) => optionalCopies copy count exit layout

/-- Lays down a repetition without an end. A part that always takes a character needs one
    state more, and any other part three. -/
def unbounded (copy : Lay Exit) (isWide : Bool) : Nat → Lay Exit
  | 0 => do
    if isWide then
      let _ ← Lay.plain
      let exit ← copy
      Lay.successors 1
      exit.connect
      return .fork
    else
      let exit ← copy
      let _ ← Lay.states 3 0
      exit.connect
      Lay.successors 4
      return .single
  | 1 => do
    let exit ← copy
    let _ ← Lay.plain
    exit.connect
    Lay.successors 1
    return .fork
  | least + 1 => do
    let before ← copies copy least
    let exit ← copy
    let _ ← Lay.plain
    before.connect
    exit.connect
    Lay.successors 1
    return .fork

/-- Lays down a repetition. -/
def layRepetition (copy : Lay Exit) (isWide : Bool) (least : Nat) : Option Nat → Lay Exit
  | none => unbounded copy isWide least
  | some most => do
    if least = 0 && most = 1 then
      let _ ← Lay.plain
      let exit ← copy
      let _ ← Lay.plain
      Lay.successors 2
      exit.connect
      return .single
    else if least = most then copies copy least
    else
      let before ← copies copy least
      let _ ← Lay.plain
      let exit ← optionalCopies copy (most - least) before
      exit.connect
      return .single

/-- The text of an expression that is nothing else. -/
def text? : Regex → Option (List Char)
  | literal text => some text
  | _ => none

/-- Lays down further alternatives. Two states hold all of them together, and are laid down
    after the second one. -/
def layOthers (second : Lay Exit) (rest : List (Lay Exit)) : Lay Unit := do
  let exit ← second
  let _ ← Lay.states 2 0
  exit.connect
  Lay.successors 1
  rest.forM fun other => do
    let exit ← other
    exit.connect
    Lay.successors 1

/-- Lays down an expression whose alternatives are laid down by the given steps. -/
def layWhole (direction : Direction) (regex : Regex) (steps : List (Lay Exit)) : Lay Exit :=
  match regex.alternatives.mapM text?, steps with
  | some (first :: second :: rest), _ => layTexts direction (first :: second :: rest)
  | _, [] => layAscii 0
  | _, [only] => only
  | _, first :: second :: rest => do
    let exit ← first
    exit.connect
    Lay.successors 1
    layOthers second rest
    return .single

/-- The steps that lay down the alternatives of an expression. -/
def laySteps (direction : Direction) : Regex → List (Lay Exit)
  | empty => [do
    let _ ← Lay.plain
    return .single]
  | literal text => [do
    let _ ← Lay.states (textLength text) 0
    return .single]
  | set s =>
    [if s.isAscii then layAscii s.ranges.length else laySequences (sequencesOf s) direction]
  | look _ => [do
    let _ ← Lay.plain
    return .single]
  | group _ body =>
    let inner := layWhole direction body (laySteps direction body)
    match direction with
    | .backwards => [inner]
    | .forwards => [do
      let _ ← Lay.plain
      let exit ← inner
      let _ ← Lay.plain
      exit.connect
      return .single]
  | seq first second =>
    let first := layWhole direction first (laySteps direction first)
    let second := layWhole direction second (laySteps direction second)
    let (earlier, later) :=
      match direction with
      | .forwards => (first, second)
      | .backwards => (second, first)
    [do
      let exit ← earlier
      let last ← later
      exit.connect
      return last]
  | alt one other => layWhole direction one (laySteps direction one) :: laySteps direction other
  | repeated least most _ body =>
    let copy := layWhole direction body (laySteps direction body)
    [layRepetition copy (body.minLength?.any (0 < ·)) least most]

/-! ## Automata -/

/-- Whether every match is at the end of a text at which an automaton starts. -/
def isAnchored (direction : Direction) : Regex → Bool
  | look .textStart => direction = .forwards
  | look .textEnd => direction = .backwards
  | group _ body => body.isAnchored direction
  | repeated least _ _ body => 0 < least && body.isAnchored direction
  | seq first second =>
    match direction with
    | .forwards => first.isAnchored direction || (first.isWidthless && second.isAnchored direction)
    | .backwards =>
      second.isAnchored direction || (second.isWidthless && first.isAnchored direction)
  | alt one other => one.isAnchored direction && other.isAnchored direction
  | _ => false

/-- Lays down what passes over the bytes before a match. -/
def layLead (isAnchored : Bool) : Lay Unit := do
  let _ ← Lay.plain
  if !isAnchored then
    let _ ← layAscii 1
    Lay.successors 2

/-- Lays down the whole automaton of an expression. Forwards, it keeps the match as a group
    does. -/
def layAutomaton (direction : Direction) (regex : Regex) : Lay Unit := do
  layLead (regex.isAnchored direction)
  if direction = .forwards then
    let _ ← Lay.plain
  let exit ← layWhole direction regex (laySteps direction regex)
  exit.connect
  let _ ← Lay.plain
  if direction = .forwards then
    let _ ← Lay.plain

/-- Whether the automata of an expression keep to the limit. -/
def isWithinLimit (regex : Regex) : Bool :=
  ((layAutomaton .forwards regex).run ⟨0, 0⟩).isSome &&
    ((layAutomaton .backwards regex).run ⟨0, 0⟩).isSome

end CubeQuery.Regex
