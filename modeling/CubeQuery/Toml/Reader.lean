import CubeQuery.Toml.Scalar
import CubeQuery.Toml.Text

/-!
# Reading TOML documents

A document is a sequence of lines: pairs of a key and a value, headers of
tables, and lines with nothing but a comment. It is read from top to bottom into
one table. A document with any fault has no value.

Lists and inline tables can be nested, up to a limit.
-/

namespace CubeQuery.Toml

/-- The number of lists and inline tables that can be open at once. -/
def nestingLimit : Nat := 79

/-- The number of parts that a key can have. -/
def keyLimit : Nat := 79

/-- Reads parts with something between them, at most `limit` of them. -/
def readSeparated {α : Type} (part : List Char → Option (α × List Char))
    (separator : List Char → Option (List Char)) :
    Nat → List Char → Option (List α × List Char)
  | 0, _ => none
  | limit + 1, cs =>
    match part cs with
    | none => none
    | some (a, rest) =>
      match separator rest with
      | none => some ([a], rest)
      | some rest' =>
        (readSeparated part separator limit rest').map fun (more, left) => (a :: more, left)

/-! ## Keys -/

/-- A character of a key without quotes. -/
def isKeyChar (c : Char) : Bool := c.isAlphanum || c == '_' || c == '-'

/-- Reads one part of a key, and the space around it. -/
def readKeyPart (cs : List Char) : Option (String × List Char) :=
  let finish (part : List Char × List Char) := (String.ofList part.1, skipSpace part.2)
  match skipSpace cs with
  | '"' :: rest => (readBasic rest).map finish
  | '\x27' :: rest => (readLiteral rest).map finish
  | cs =>
    let name := cs.takeWhile isKeyChar
    if name.isEmpty then none else some (finish (name, cs.dropWhile isKeyChar))

/-- Reads a key of one or more parts: the parts before the last one, and the last one. -/
def readKey (cs : List Char) : Option ((List String × String) × List Char) :=
  match readSeparated readKeyPart (expect '.') (cs.length + 1) cs with
  | none => none
  | some (parts, rest) =>
    match parts.getLast? with
    | none => none
    | some last =>
      if parts.length ≤ keyLimit then some ((parts.dropLast, last), rest) else none

/-! ## Space between values -/

/-- Passes over a comment, if one starts here. -/
def skipComment (cs : List Char) : List Char :=
  match cs with
  | '#' :: rest => rest.dropWhile isLineChar
  | _ => cs

/-- Passes over space, comments and line ends. After a comment, the line has to end. At most
    `limit` lines are passed. -/
def skipFiller : Nat → List Char → Option (List Char)
  | 0, _ => none
  | limit + 1, cs =>
    match skipSpace cs with
    | '#' :: rest => (newline? (rest.dropWhile isLineChar)).bind (skipFiller limit)
    | '\n' :: rest => skipFiller limit rest
    | '\r' :: rest => (newline? ('\r' :: rest)).bind (skipFiller limit)
    | other => some other

/-- Passes over space, comments and line ends. -/
def skipAround (cs : List Char) : Option (List Char) := skipFiller (cs.length + 1) cs

/-- Passes over the rest of a line: space, a comment, and the end of the line or of the
    document. -/
def skipLineEnd (cs : List Char) : Option (List Char) :=
  match skipComment (skipSpace cs) with
  | [] => some []
  | rest => newline? rest

/-! ## Values -/

/-- Reads an item of a list, and the space around it. -/
def readItem (value : List Char → Option (Toml × List Char)) (cs : List Char) :
    Option (Toml × List Char) := do
  let cs ← skipAround cs
  let (item, cs) ← value cs
  let cs ← skipAround cs
  some (item, cs)

/-- Passes over a comma after which another item follows. -/
def itemComma (cs : List Char) : Option (List Char) :=
  match cs with
  | ',' :: rest =>
    match skipAround rest with
    | some (']' :: _) => none
    | _ => some rest
  | _ => none

/-- Passes over a comma before the end of a list, if there is one. -/
def skipLastComma (cs : List Char) : List Char :=
  match cs with
  | ',' :: rest => rest
  | _ => cs

/-- Reads the items of a list whose opening bracket has been read, with the closing one. -/
def readListItems (value : List Char → Option (Toml × List Char)) (cs : List Char) :
    Option (Toml × List Char) := do
  let start ← skipAround cs
  match start with
  | ']' :: rest => some (list [], rest)
  | _ => do
    let (items, cs) ← readSeparated (readItem value) itemComma (cs.length + 1) cs
    let cs ← skipAround (skipLastComma cs)
    let rest ← expect ']' cs
    some (list items, rest)

/-- Reads a pair of an inline table, and the space around it. -/
def readInlinePair (value : List Char → Option (Toml × List Char)) (cs : List Char) :
    Option (((List String × String) × Toml) × List Char) := do
  let (key, cs) ← readKey cs
  let cs ← expect '=' cs
  let (item, cs) ← value (skipSpace cs)
  some ((key, item), skipSpace cs)

/-- The members of pairs that are written in one piece. -/
def ofPairs (pairs : List ((List String × String) × Toml)) : Option Members :=
  pairs.foldlM (fun members ((path, key), value) => addPair path key value .sealed members) []

/-- Reads the pairs of an inline table whose opening bracket has been read, with the closing
    one. -/
def readInlineTable (value : List Char → Option (Toml × List Char)) (cs : List Char) :
    Option (Toml × List Char) := do
  match skipSpace cs with
  | '\x7d' :: rest => some (table .sealed [], rest)
  | _ => do
    let (pairs, cs) ← readSeparated (readInlinePair value) (expect ',') (cs.length + 1) cs
    let rest ← expect '\x7d' cs
    let members ← ofPairs pairs
    some (table .sealed members, rest)

/-- Reads a value that is a text. -/
def readTextValue (cs : List Char) : Option (Toml × List Char) :=
  (readText cs).map fun (s, rest) => (text (String.ofList s), rest)

/-- Reads a value with at most `depth` lists and inline tables inside each other. -/
def readValue (depth : Nat) (cs : List Char) : Option (Toml × List Char) :=
  match cs with
  | '"' :: _ => readTextValue cs
  | '\x27' :: _ => readTextValue cs
  | '[' :: rest =>
    match depth with
    | 0 => none
    | depth + 1 => readListItems (readValue depth) rest
  | '\x7b' :: rest =>
    match depth with
    | 0 => none
    | depth + 1 => readInlineTable (readValue depth) rest
  | _ => readScalar cs

/-! ## Documents -/

/-- A document that is being read: its table so far, and the path of the last header. -/
structure Draft where
  root : Members
  header : List String

/-- Reads a header whose opening bracket has been read. -/
def readHeader (draft : Draft) (cs : List Char) : Option (Draft × List Char) :=
  match cs with
  | '[' :: rest => do
    let ((path, key), cs) ← readKey rest
    let cs ← expect ']' cs
    let cs ← expect ']' cs
    let root ← descend false (fun _ members => declareNext key members) path .declared draft.root
    let cs ← skipLineEnd cs
    some (⟨root, path ++ [key]⟩, cs)
  | rest => do
    let ((path, key), cs) ← readKey rest
    let cs ← expect ']' cs
    let root ← descend false (fun _ members => declare key members) path .declared draft.root
    let cs ← skipLineEnd cs
    some (⟨root, path ++ [key]⟩, cs)

/-- Reads a line with a key and a value. -/
def readPair (draft : Draft) (cs : List Char) : Option (Draft × List Char) := do
  let ((path, key), cs) ← readKey cs
  let cs ← expect '=' cs
  let (value, cs) ← readValue nestingLimit (skipSpace cs)
  let cs ← skipLineEnd cs
  let root ← descend false (addPair path key value) draft.header .declared draft.root
  some (⟨root, draft.header⟩, cs)

/-- Reads at most `limit` lines, to the end of the document. -/
def readLines : Nat → Draft → List Char → Option Members
  | 0, _, _ => none
  | limit + 1, draft, cs =>
    match skipSpace cs with
    | [] => some draft.root
    | '[' :: rest =>
      match readHeader draft rest with
      | none => none
      | some (draft', rest') => readLines limit draft' rest'
    | '#' :: rest => (skipLineEnd ('#' :: rest)).bind (readLines limit draft)
    | '\n' :: rest => readLines limit draft rest
    | '\r' :: rest => (newline? ('\r' :: rest)).bind (readLines limit draft)
    | other =>
      match readPair draft other with
      | none => none
      | some (draft', rest') => readLines limit draft' rest'

/-- The mark that may stand before a document. -/
def byteOrderMark : Char := '\ufeff'

/-- The table of a document. -/
def read (document : String) : Option Members :=
  let cs :=
    match document.toList with
    | c :: rest => if c = byteOrderMark then rest else c :: rest
    | [] => []
  readLines (cs.length + 1) ⟨[], []⟩ cs

end CubeQuery.Toml
