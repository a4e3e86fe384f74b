import CubeQuery.Text.Hex

/-!
# Texts in TOML

A text is written in one of four ways: between double quotes, where a backslash
starts an escape, or between single quotes, where it does not, and each of them
on one line with one quote or over several lines with three.

A reader takes the characters after the opening quotes and returns the text and
what follows the closing quotes.
-/

namespace CubeQuery.Toml

/-- A character that may stand in a line: a tab, or no control. -/
def isLineChar (c : Char) : Bool := c == '\t' || (0x20 ≤ c.toNat && c.toNat ≠ 0x7F)

/-- A space or a tab. -/
def isSpace (c : Char) : Bool := c == ' ' || c == '\t'

/-- Passes over spaces and tabs. -/
def skipSpace (cs : List Char) : List Char := cs.dropWhile isSpace

/-- Passes over the end of a line, if it is here. -/
def newline? (cs : List Char) : Option (List Char) :=
  match cs with
  | '\n' :: rest => some rest
  | '\r' :: '\n' :: rest => some rest
  | _ => none

/-- The character that hexadecimal digits write. -/
def scalar? (digits : List Char) : Option Char :=
  (Text.hexNumber? digits).bind fun n => if n.isValidChar then some (Char.ofNat n) else none

/-- Reads a character that is written as a number of exactly `count` digits. -/
def readCode (count : Nat) (cs : List Char) : Option (Char × List Char) :=
  if cs.length < count then none else (scalar? (cs.take count)).map (·, cs.drop count)

theorem readCode_length_le {count : Nat} {cs rest : List Char} {c : Char}
    (h : readCode count cs = some (c, rest)) : rest.length ≤ cs.length := by
  unfold readCode at h
  split at h
  · simp at h
  · obtain ⟨d, -, hd⟩ := Option.map_eq_some_iff.1 h
    simp only [Prod.mk.injEq] at hd
    obtain ⟨-, rfl⟩ := hd
    simp

/-- Reads an escape whose backslash has been read. -/
def readEscape (cs : List Char) : Option (Char × List Char) :=
  match cs with
  | 'b' :: rest => some ('\x08', rest)
  | 't' :: rest => some ('\t', rest)
  | 'n' :: rest => some ('\n', rest)
  | 'f' :: rest => some ('\x0c', rest)
  | 'r' :: rest => some ('\r', rest)
  | '"' :: rest => some ('"', rest)
  | '\\' :: rest => some ('\\', rest)
  | 'u' :: rest => readCode 4 rest
  | 'U' :: rest => readCode 8 rest
  | _ => none

theorem readEscape_shorter {cs rest : List Char} {c : Char}
    (h : readEscape cs = some (c, rest)) : rest.length < cs.length := by
  unfold readEscape at h
  split at h <;> grind [→ readCode_length_le]

/-- Reads a text on one line between double quotes. -/
def readBasic (cs : List Char) : Option (List Char × List Char) :=
  match cs with
  | [] => none
  | c :: rest =>
    if c = '"' then some ([], rest)
    else if c = '\\' then
      match h : readEscape rest with
      | none => none
      | some (d, rest') =>
        have := readEscape_shorter h
        (readBasic rest').map fun (content, left) => (d :: content, left)
    else if isLineChar c then (readBasic rest).map fun (content, left) => (c :: content, left)
    else none
termination_by cs.length
decreasing_by all_goals grind

/-- Reads a text on one line between single quotes. -/
def readLiteral : List Char → Option (List Char × List Char)
  | [] => none
  | c :: rest =>
    if c = '\x27' then some ([], rest)
    else if isLineChar c then (readLiteral rest).map fun (content, left) => (c :: content, left)
    else none

/-- Reads the quotes that stand before three closing ones, which have been read together
    with them: up to two, as the start of the rest. -/
def extraQuotes (quote : Char) (cs : List Char) : List Char × List Char :=
  match cs with
  | a :: b :: rest =>
    if a = quote then if b = quote then ([a, b], rest) else ([a], b :: rest) else ([], cs)
  | [a] => if a = quote then ([a], []) else ([], [a])
  | [] => ([], [])

/-- Passes over spaces, tabs and line ends. -/
def skipLines (cs : List Char) : List Char :=
  match cs with
  | '\r' :: '\n' :: rest => skipLines rest
  | c :: rest => if isSpace c || c == '\n' then skipLines rest else cs
  | [] => []

theorem skipLines_length_le (cs : List Char) : (skipLines cs).length ≤ cs.length := by
  fun_induction skipLines cs <;> grind

/-- Passes over a line end and all spaces after it, when there is nothing but spaces before
    it. -/
def continuation? (cs : List Char) : Option (List Char) :=
  (newline? (skipSpace cs)).map skipLines

theorem skipSpace_length_le (cs : List Char) : (skipSpace cs).length ≤ cs.length :=
  (List.dropWhile_sublist isSpace).length_le

theorem newline?_shorter {cs rest : List Char} (h : newline? cs = some rest) :
    rest.length < cs.length := by
  unfold newline? at h
  grind

theorem continuation?_shorter {cs rest : List Char} (h : continuation? cs = some rest) :
    rest.length < cs.length := by
  obtain ⟨left, hl, rfl⟩ := Option.map_eq_some_iff.1 h
  have h1 := newline?_shorter hl
  have h2 := skipSpace_length_le cs
  have h3 := skipLines_length_le left
  omega

/-- Reads a text over several lines between double quotes. A backslash at the end of a line
    takes away the line end and the space that follows it. -/
def readMultiBasic (cs : List Char) : Option (List Char × List Char) :=
  match cs with
  | [] => none
  | '"' :: '"' :: '"' :: rest => some (extraQuotes '"' rest)
  | '\r' :: '\n' :: rest => (readMultiBasic rest).map fun (content, left) => ('\n' :: content, left)
  | c :: rest =>
    if c = '\\' then
      match h : continuation? rest with
      | some rest' =>
        have := continuation?_shorter h
        readMultiBasic rest'
      | none =>
        match h : readEscape rest with
        | none => none
        | some (d, rest') =>
          have := readEscape_shorter h
          (readMultiBasic rest').map fun (content, left) => (d :: content, left)
    else if isLineChar c || c == '\n' then
      (readMultiBasic rest).map fun (content, left) => (c :: content, left)
    else none
termination_by cs.length
decreasing_by all_goals grind

/-- Reads a text over several lines between single quotes. -/
def readMultiLiteral : List Char → Option (List Char × List Char)
  | [] => none
  | '\x27' :: '\x27' :: '\x27' :: rest => some (extraQuotes '\x27' rest)
  | '\r' :: '\n' :: rest =>
    (readMultiLiteral rest).map fun (content, left) => ('\n' :: content, left)
  | c :: rest =>
    if isLineChar c || c == '\n' then
      (readMultiLiteral rest).map fun (content, left) => (c :: content, left)
    else none

/-- Passes over a line end right after the opening quotes of a text over several lines. -/
def skipFirstNewline (cs : List Char) : List Char := (newline? cs).getD cs

/-- Reads a text in any of the four ways. -/
def readText (cs : List Char) : Option (List Char × List Char) :=
  match cs with
  | '"' :: '"' :: '"' :: rest => readMultiBasic (skipFirstNewline rest)
  | '\x27' :: '\x27' :: '\x27' :: rest => readMultiLiteral (skipFirstNewline rest)
  | '"' :: rest => readBasic rest
  | '\x27' :: rest => readLiteral rest
  | _ => none

end CubeQuery.Toml
