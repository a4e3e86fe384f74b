/-!
# Characters as bytes

The characters between two, as sequences of ranges of bytes: a character is in the
range exactly if its bytes in UTF-8 are in the ranges of one of the sequences, place
by place. The sequences come in ascending order.
-/

namespace CubeQuery.Text

/-- The bytes from `first` to `last`. -/
structure ByteRange where
  first : Nat
  last : Nat
deriving DecidableEq, Repr

/-- The range of all bytes that follow the first byte of a character. -/
def anyFollower : ByteRange := ⟨0x80, 0xBF⟩

/-- The sequences for the numbers from `low` to `high`, which are written with `followers`
    digits to the base 64 after a first byte. `mark` is added to the first byte. -/
def digitRanges (mark : Nat) : (followers low high : Nat) → List (List ByteRange)
  | 0, low, high => [[⟨mark + low, mark + high⟩]]
  | followers + 1, low, high =>
    let unit := Nat.pow 64 (followers + 1)
    let top (digit : Nat) (rest : List (List ByteRange)) : List (List ByteRange) :=
      rest.map (⟨mark + digit, mark + digit⟩ :: ·)
    let lowest := low / unit
    let highest := high / unit
    if lowest = highest then
      top lowest (digitRanges 0x80 followers (low % unit) (high % unit))
    else
      let isLowCut := low % unit ≠ 0
      let isHighCut := high % unit ≠ unit - 1
      let first := if isLowCut then lowest + 1 else lowest
      let stop := if isHighCut then highest else highest + 1
      (if isLowCut then top lowest (digitRanges 0x80 followers (low % unit) (unit - 1)) else []) ++
        (if first < stop then
          [⟨mark + first, mark + stop - 1⟩ :: List.replicate (followers + 1) anyFollower]
        else []) ++
        (if isHighCut then top highest (digitRanges 0x80 followers 0 (high % unit)) else [])

/-- The code points with characters of one length: the first, the last, the number of bytes
    after the first one and what is added to the first byte. -/
def lengthClasses : List (Nat × Nat × Nat × Nat) :=
  [(0x0, 0x7F, 0, 0), (0x80, 0x7FF, 1, 0xC0), (0x800, 0xD7FF, 2, 0xE0), (0xE000, 0xFFFF, 2, 0xE0),
    (0x10000, 0x10FFFF, 3, 0xF0)]

/-- The sequences for the code points from `low` to `high` that are characters. -/
def byteRanges (low high : Nat) : List (List ByteRange) :=
  lengthClasses.flatMap fun (first, last, followers, mark) =>
    if max low first ≤ min high last then
      digitRanges mark followers (max low first) (min high last)
    else []

end CubeQuery.Text
