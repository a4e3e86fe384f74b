/-!
# Edit distance

The least number of single-character insertions, deletions and replacements
that turn one text into another.

The distance of `a` to every suffix of `b` makes a row, the longest suffix
first. The row of `c :: a` follows from the row of `a`, so a table of one row at
a time gives the distance.
-/

namespace CubeQuery.Text

/-- The row of the empty text: the lengths of the suffixes of `b`. -/
def lengthRow : List Char → List Nat
  | [] => [0]
  | _ :: b => (b.length + 1) :: lengthRow b

/-- The row of `c :: a` over the suffixes of `b`, from the row of `a`. -/
def nextRow (c : Char) : List Char → List Nat → List Nat
  | [], row => [row.headD 0 + 1]
  | x :: b, row =>
    let tail := nextRow c b row.tail
    let replaced := row.tail.headD 0 + (if c = x then 0 else 1)
    min (min (row.headD 0 + 1) (tail.headD 0 + 1)) replaced :: tail

/-- The row of `a` over the suffixes of `b`. -/
def distanceRow (a b : List Char) : List Nat :=
  a.foldr (fun c row => nextRow c b row) (lengthRow b)

/-- The edit distance of two texts. -/
def distance (a b : String) : Nat := (distanceRow a.toList b.toList).headD 0

end CubeQuery.Text
