import CubeQuery.Number
import CubeQuery.Toml.Value

/-!
# Numbers, dates and flags in TOML

These values are runs of letters, digits and a few signs. A run is taken as a
whole and then recognised.
-/

namespace CubeQuery.Toml

/-- A character of a number, a date, a time or a flag. -/
def isWordChar (c : Char) : Bool :=
  c.isAlphanum || c == '+' || c == '-' || c == '_' || c == '.' || c == ':'

/-! ## Integers -/

/-- Takes the underscores out of digits. Each has to stand between two digits. -/
def ungroup (isDigit : Char → Bool) : List Char → Option (List Char)
  | [] => none
  | [c] => if isDigit c then some [c] else none
  | c :: '_' :: rest => if isDigit c then (ungroup isDigit rest).map (c :: ·) else none
  | c :: d :: rest => if isDigit c then (ungroup isDigit (d :: rest)).map (c :: ·) else none

/-- The value of a digit in a base up to sixteen. -/
def digitValue? (base : Nat) (c : Char) : Option Nat :=
  let n :=
    if c.isDigit then c.toNat - '0'.toNat
    else if 'a' ≤ c ∧ c ≤ 'f' then c.toNat - 'a'.toNat + 10
    else if 'A' ≤ c ∧ c ≤ 'F' then c.toNat - 'A'.toNat + 10
    else base
  if n < base then some n else none

/-- The number that digits write in a base. -/
def numberIn (base : Nat) (digits : List Char) : Nat :=
  digits.foldl (fun n c => base * n + (digitValue? base c).getD 0) 0

/-- The number that grouped digits write in a base. -/
def groupedNumber? (base : Nat) (cs : List Char) : Option Nat :=
  (ungroup (fun c => (digitValue? base c).isSome) cs).map (numberIn base)

/-- The digits of a whole number in base ten, where only zero starts with a zero. -/
def wholeDigits? (cs : List Char) : Option (List Char) :=
  (ungroup Char.isDigit cs).filter fun digits => digits = ['0'] || digits.head? ≠ some '0'

/-- A sign, where none is a plus, and what follows it. -/
def splitSign (cs : List Char) : Bool × List Char :=
  match cs with
  | '-' :: rest => (true, rest)
  | '+' :: rest => (false, rest)
  | _ => (false, cs)

/-- An integer of 64 bits. -/
def inRange? (n : Int) : Option Int :=
  if Number.least ≤ n ∧ n ≤ Number.greatest then some n else none

/-- The integer that a word writes. -/
def int? (word : List Char) : Option Int :=
  match word with
  | '0' :: 'x' :: digits => (groupedNumber? 16 digits).bind fun n => inRange? n
  | '0' :: 'o' :: digits => (groupedNumber? 8 digits).bind fun n => inRange? n
  | '0' :: 'b' :: digits => (groupedNumber? 2 digits).bind fun n => inRange? n
  | _ =>
    let (isNegative, rest) := splitSign word
    (wholeDigits? rest).bind fun digits =>
      inRange? (if isNegative then -(numberIn 10 digits : Int) else numberIn 10 digits)

/-! ## Numbers with a fraction or an exponent -/

/-- The exponent that follows a number: none is zero. -/
def exponent? (cs : List Char) : Option Int :=
  match cs with
  | [] => some 0
  | c :: rest =>
    if c = 'e' ∨ c = 'E' then
      let (isNegative, digits) := splitSign rest
      (ungroup Char.isDigit digits).map fun ds =>
        if isNegative then -(numberIn 10 ds : Int) else numberIn 10 ds
    else none

/-- Whether a significand with a power of ten is rounded to no finite double. -/
def isInfinite (significand : Nat) (exponent : Int) : Bool :=
  let size := (Nat.toDigits 10 significand).length + exponent
  significand != 0 && (310 < size || (300 < size &&
    (Nat.pow 2 54 - 1) * Nat.pow 2 970 * Nat.pow 10 (-exponent).toNat ≤
      significand * Nat.pow 10 exponent.toNat))

/-- Whether a number without its sign has a fraction or an exponent, with its significand
    and its power of ten. -/
def decimal? (cs : List Char) : Option (Nat × Int) :=
  let isMark (c : Char) := c == '.' || c == 'e' || c == 'E'
  match wholeDigits? (cs.takeWhile (!isMark ·)), cs.dropWhile (!isMark ·) with
  | some whole, '.' :: rest =>
    let isExponent (c : Char) := c == 'e' || c == 'E'
    match ungroup Char.isDigit (rest.takeWhile (!isExponent ·)),
        exponent? (rest.dropWhile (!isExponent ·)) with
    | some fraction, some e => some (numberIn 10 (whole ++ fraction), e - fraction.length)
    | _, _ => none
  | some whole, rest@(_ :: _) => (exponent? rest).map fun e => (numberIn 10 whole, e)
  | _, _ => none

/-- Whether a word writes a number that is not whole. A positive number must not be rounded
    to infinity, but infinity itself can be written. -/
def isReal (word : List Char) : Bool :=
  let (isNegative, rest) := splitSign word
  rest == ['i', 'n', 'f'] || rest == ['n', 'a', 'n'] ||
    match decimal? rest with
    | some (significand, exponent) => isNegative || !isInfinite significand exponent
    | none => false

/-! ## Dates and times -/

/-- The number of exactly `count` digits at the front. -/
def digits? (count : Nat) (cs : List Char) : Option (Nat × List Char) :=
  let ds := cs.take count
  if ds.length = count ∧ ds.all Char.isDigit then some (numberIn 10 ds, cs.drop count) else none

/-- The days of a month. -/
def daysIn (year month : Nat) : Nat :=
  if month = 2 then
    if year % 4 = 0 ∧ (year % 100 ≠ 0 ∨ year % 400 = 0) then 29 else 28
  else if month = 4 ∨ month = 6 ∨ month = 9 ∨ month = 11 then 30
  else 31

/-- Reads a character. -/
def expect (c : Char) (cs : List Char) : Option (List Char) :=
  match cs with
  | d :: rest => if d = c then some rest else none
  | [] => none

/-- Reads a date. -/
def readDate (cs : List Char) : Option (List Char) := do
  let (year, cs) ← digits? 4 cs
  let cs ← expect '-' cs
  let (month, cs) ← digits? 2 cs
  let cs ← expect '-' cs
  let (day, cs) ← digits? 2 cs
  if 1 ≤ month ∧ month ≤ 12 ∧ 1 ≤ day ∧ day ≤ daysIn year month then some cs else none

/-- Reads a fraction of a second, if there is one. -/
def readSecondFraction (cs : List Char) : Option (List Char) :=
  match cs with
  | '.' :: d :: rest => if d.isDigit then some (rest.dropWhile Char.isDigit) else none
  | '.' :: [] => none
  | _ => some cs

/-- Reads a time of day. A minute can have a leap second. -/
def readTime (cs : List Char) : Option (List Char) := do
  let (hour, cs) ← digits? 2 cs
  let cs ← expect ':' cs
  let (minute, cs) ← digits? 2 cs
  let cs ← expect ':' cs
  let (second, cs) ← digits? 2 cs
  if hour ≤ 23 ∧ minute ≤ 59 ∧ second ≤ 60 then readSecondFraction cs else none

/-- Whether the rest of a word is an offset from universal time, or nothing. -/
def isOffset (cs : List Char) : Bool :=
  match cs with
  | [] => true
  | ['Z'] => true
  | ['z'] => true
  | sign :: rest =>
    (sign == '+' || sign == '-') &&
      match digits? 2 rest with
      | some (hour, ':' :: rest') =>
        match digits? 2 rest' with
        | some (minute, []) => hour ≤ 23 && minute ≤ 59
        | _ => false
      | _ => false

/-- Whether a word is a date alone. -/
def isDate (word : List Char) : Bool := readDate word == some []

/-- Whether a word is a time with or without an offset. -/
def isTimeWithOffset (word : List Char) : Bool :=
  match readTime word with
  | some rest => isOffset rest
  | none => false

/-- Whether a word is a date, a time, or both with a letter between them. -/
def isMoment (word : List Char) : Bool :=
  readTime word == some [] ||
    match readDate word with
    | some [] => true
    | some (c :: rest) => (c == 'T' || c == 't') && isTimeWithOffset rest
    | none => false

/-! ## Words -/

/-- The value that a word writes. -/
def ofWord? (word : List Char) : Option Toml :=
  if word = "true".toList then some (flag true)
  else if word = "false".toList then some (flag false)
  else if isMoment word then some moment
  else if isReal word then some real
  else (int? word).map int

/-- Reads a value that is a word. A date and a time may be divided by one space. -/
def readScalar (cs : List Char) : Option (Toml × List Char) :=
  let word := cs.takeWhile isWordChar
  let rest := cs.dropWhile isWordChar
  match rest with
  | ' ' :: c :: rest' =>
    if isDate word && c.isDigit then
      if isTimeWithOffset ((c :: rest').takeWhile isWordChar) then
        some (moment, (c :: rest').dropWhile isWordChar)
      else none
    else (ofWord? word).map (·, rest)
  | _ => (ofWord? word).map (·, rest)

end CubeQuery.Toml
