/-!
# Blank characters

The characters of Unicode's `White_Space` property, and the text that remains
when they are cut off both ends.
-/

namespace CubeQuery.Text

/-- A character with Unicode's `White_Space` property. -/
def isBlank (c : Char) : Bool :=
  let n := c.toNat
  (0x09 ≤ n && n ≤ 0x0D) || n == 0x20 || n == 0x85 || n == 0xA0 || n == 0x1680 ||
    (0x2000 ≤ n && n ≤ 0x200A) || n == 0x2028 || n == 0x2029 || n == 0x202F ||
    n == 0x205F || n == 0x3000

/-- Cuts the blanks off the front. -/
def trimStart (cs : List Char) : List Char := cs.dropWhile isBlank

/-- Cuts the blanks off the back. -/
def trimEnd (cs : List Char) : List Char := (cs.reverse.dropWhile isBlank).reverse

/-- Cuts the blanks off both ends. -/
def trim (cs : List Char) : List Char := trimEnd (trimStart cs)

/-- The bytes that the UTF-8 form of a text takes. -/
def width (cs : List Char) : Nat := cs.foldr (fun c n => c.utf8Size + n) 0

/-- Pads a text with spaces on the right up to `columns` characters. A longer text
    is left as it is. -/
def padRight (columns : Nat) (text : String) : String :=
  text ++ String.ofList (List.replicate (columns - text.length) ' ')

end CubeQuery.Text
