/-!
# Writing texts in TOML

A text is written in the plainest of the four ways that takes it as it is. Only
when a character has to be escaped in every way, or the quotes leave no choice,
it is written with escapes.
-/

namespace CubeQuery.Toml

/-- What of a text decides how it is written. -/
structure Traits where
  /-- It holds a control other than a tab and a line feed. -/
  control : Bool
  backslash : Bool
  newline : Bool
  /-- The longest run of double quotes. -/
  doubleRun : Nat
  /-- The longest run of single quotes. -/
  singleRun : Nat

/-- A control that can only be written as an escape. -/
def isControl (c : Char) : Bool :=
  c != '\t' && c != '\n' && (c.toNat < 0x20 || c.toNat == 0x7F)

/-- The longest run of a character, where `current` of it have just been seen. -/
def longestRun (c : Char) (current : Nat) : List Char → Nat
  | [] => current
  | d :: rest =>
    if d = c then longestRun c (current + 1) rest else max current (longestRun c 0 rest)

/-- The traits of a text. -/
def traits (cs : List Char) : Traits where
  control := cs.any isControl
  backslash := cs.contains '\\'
  newline := cs.contains '\n'
  doubleRun := longestRun '"' 0 cs
  singleRun := longestRun '\x27' 0 cs

/-- A way to write a text. -/
inductive Quoting where
  | basic
  | literal
  | multiBasic
  | multiLiteral
deriving DecidableEq, Repr

/-- The way in which a text with these traits is written. -/
def Traits.quoting (t : Traits) : Quoting :=
  if !t.control && !t.backslash && t.doubleRun == 0 && !t.newline then .basic
  else if !t.control && t.singleRun == 0 && !t.newline then .literal
  else if !t.control && !t.backslash && t.doubleRun ≤ 2 then .multiBasic
  else if !t.control && t.singleRun ≤ 2 then .multiLiteral
  else if t.newline then .multiBasic
  else .basic

/-- The four digits of an escape. -/
def hexQuad (n : Nat) : List Char :=
  [n / 4096 % 16, n / 256 % 16, n / 16 % 16, n % 16].map fun d => (Nat.digitChar d).toUpper

/-- One character between double quotes, other than a quote. A line feed stays as it is only
    in a text over several lines. -/
def escaped (isMulti : Bool) (c : Char) : List Char :=
  match c with
  | '\x08' => ['\\', 'b']
  | '\t' => ['\\', 't']
  | '\n' => if isMulti then ['\n'] else ['\\', 'n']
  | '\x0c' => ['\\', 'f']
  | '\r' => ['\\', 'r']
  | '\\' => ['\\', '\\']
  | c => if isControl c then ['\\', 'u'] ++ hexQuad c.toNat else [c]

/-- The characters between double quotes. At most `limit` quotes stand in a row without an
    escape, and `run` of them have just been written. -/
def escapedText (isMulti : Bool) (limit run : Nat) : List Char → List Char
  | [] => []
  | c :: rest =>
    if c = '"' then
      if limit < run + 1 then '\\' :: '"' :: escapedText isMulti limit 0 rest
      else '"' :: escapedText isMulti limit (run + 1) rest
    else escaped isMulti c ++ escapedText isMulti limit 0 rest

/-- The line end after the opening quotes of a text over several lines. It is not part of
    the text, and is left out when the text has one line. -/
def firstNewline (cs : List Char) : List Char := if cs.contains '\n' then ['\n'] else []

/-- The written form of a text in a given way. -/
def writtenAs (quoting : Quoting) (cs : List Char) : List Char :=
  match quoting with
  | .basic => ['"'] ++ escapedText false 0 0 cs ++ ['"']
  | .literal => ['\x27'] ++ cs ++ ['\x27']
  | .multiBasic =>
    ['"', '"', '"'] ++ firstNewline cs ++ escapedText true 2 0 cs ++ ['"', '"', '"']
  | .multiLiteral =>
    ['\x27', '\x27', '\x27'] ++ firstNewline cs ++ cs ++ ['\x27', '\x27', '\x27']

/-- The written form of a text. -/
def writtenText (s : String) : String :=
  String.ofList (writtenAs (traits s.toList).quoting s.toList)

end CubeQuery.Toml
