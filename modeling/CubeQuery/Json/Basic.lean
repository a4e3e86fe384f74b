/-!
# JSON values and their written form

A value is written over several lines, indented by two spaces a level, with the
members of an object in the order in which they are held. Texts keep every
character but the quote, the backslash and the controls.
-/

namespace CubeQuery

/-- A JSON value whose numbers are integers. -/
inductive Json where
  | null
  | bool (b : Bool)
  | int (n : Int)
  | text (s : String)
  | array (items : List Json)
  | object (members : List (String × Json))

namespace Json

instance : Inhabited Json := ⟨null⟩

/-- The digits of a control character's escape. -/
def hexPair (n : Nat) : List Char := [Nat.digitChar (n / 16), Nat.digitChar (n % 16)]

/-- One character of a written text. -/
def writtenChar (c : Char) : List Char :=
  match c with
  | '"' => ['\\', '"']
  | '\\' => ['\\', '\\']
  | '\x08' => ['\\', 'b']
  | '\x0c' => ['\\', 'f']
  | '\n' => ['\\', 'n']
  | '\r' => ['\\', 'r']
  | '\t' => ['\\', 't']
  | c => if c.toNat < 0x20 then ['\\', 'u', '0', '0'] ++ hexPair c.toNat else [c]

/-- A text between its quotes. -/
def writtenText (s : String) : List Char :=
  '"' :: (s.toList.flatMap writtenChar ++ ['"'])

/-- The start of a line at a level of nesting. -/
def lineStart (level : Nat) : List Char := '\n' :: List.replicate (2 * level) ' '

mutual

/-- The written form of a value at a level of nesting. -/
def written (level : Nat) : Json → List Char
  | null => "null".toList
  | bool true => "true".toList
  | bool false => "false".toList
  | int n => (toString n).toList
  | text s => writtenText s
  | array [] => ['[', ']']
  | array (v :: rest) =>
    '[' :: (lineStart (level + 1) ++ (written (level + 1) v ++
      (writtenItems (level + 1) rest ++ (lineStart level ++ [']']))))
  | object [] => ['\x7b', '\x7d']
  | object ((k, v) :: rest) =>
    '\x7b' :: (lineStart (level + 1) ++ (writtenText k ++ (':' :: ' ' :: (written (level + 1) v ++
      (writtenMembers (level + 1) rest ++ (lineStart level ++ ['\x7d']))))))

/-- The items of an array after the first. -/
def writtenItems (level : Nat) : List Json → List Char
  | [] => []
  | v :: rest => ',' :: (lineStart level ++ (written level v ++ writtenItems level rest))

/-- The members of an object after the first. -/
def writtenMembers (level : Nat) : List (String × Json) → List Char
  | [] => []
  | (k, v) :: rest =>
    ',' :: (lineStart level ++ (writtenText k ++ (':' :: ' ' :: (written level v ++
      writtenMembers level rest))))

end

/-- The written form of a value. -/
def render (v : Json) : String := String.ofList (written 0 v)

/-- An array of texts. -/
def texts (items : List String) : Json := array (items.map text)

end Json

end CubeQuery
