import CubeQuery.Json.Scalar

/-!
# Values of the wrong type

When a value is not of the type that is wanted, a word, a number or a text is
still read to its end, so that a fault inside it comes first. A number can also
be too large: it is held as a significand below `2^64` and a power of ten, and
their product as a double with 53 significant bits.
-/

namespace CubeQuery.Json

/-- The value of a decimal digit. -/
def digitValue (c : Char) : Nat := c.toNat - '0'.toNat

/-- Appends digits to a significand while it stays below `2^64`: the significand and
    the number of digits that were left out. -/
def gather (significand : Nat) : List Char → Nat × Nat
  | [] => (significand, 0)
  | d :: ds =>
    let next := 10 * significand + digitValue d
    if next < Nat.pow 2 64 then gather next ds else (significand, ds.length + 1)

/-- The double nearest to a natural number, as a natural number. A tie goes to the even
    neighbour. -/
def toDouble (n : Nat) : Nat :=
  let bits := n.log2 + 1
  if bits ≤ 53 then n
  else
    let unit := Nat.pow 2 (bits - 53)
    let q := n / unit
    let r := n % unit
    if unit < 2 * r || (unit == 2 * r && q % 2 == 1) then (q + 1) * unit else q * unit

/-- Whether a significand with a power of ten is beyond the greatest double. -/
def isTooLarge (significand : Nat) (exponent : Int) : Bool :=
  significand != 0 && 0 ≤ exponent &&
    (308 < exponent ||
      Nat.pow 2 1024 ≤ toDouble (toDouble significand * toDouble (Nat.pow 10 exponent.toNat)))

/-- The fault of a complete number: its size, or else its type. -/
def sizeFault (significand : Nat) (exponent : Int) : Fault :=
  if isTooLarge significand exponent then .malformed else .mistyped

/-- The fault of a number from the exponent on. -/
def exponentFault (significand : Nat) (exponent : Int) (cs : List Char) : Fault :=
  match cs with
  | c :: rest =>
    if c = 'e' ∨ c = 'E' then
      let sign : Int := if rest.head? = some '-' then -1 else 1
      match skipSign rest with
      | [] => .truncated
      | d :: ds =>
        if d.isDigit then
          let written := (d :: ds).takeWhile Char.isDigit
          let n := written.foldl (fun n c => 10 * n + digitValue c) 0
          sizeFault significand (exponent + sign * n)
        else .malformed
    else sizeFault significand exponent
  | [] => sizeFault significand exponent

/-- The fault of a number from the fraction on, where `extra` digits of the whole part
    have been left out. -/
def fractionFault (significand extra : Nat) (cs : List Char) : Fault :=
  match cs with
  | '.' :: [] => .truncated
  | '.' :: d :: rest =>
    if d.isDigit then
      let digits := (d :: rest).takeWhile Char.isDigit
      let (significand', dropped) := gather significand digits
      exponentFault significand' (extra - (digits.length - dropped : Nat)) (skipDigits rest)
    else .malformed
  | _ => exponentFault significand extra cs

/-- The fault of a number without its sign, where no number is wanted. -/
def numberFault (cs : List Char) : Fault :=
  match cs with
  | [] => .truncated
  | '0' :: rest =>
    match rest with
    | c :: _ => if c.isDigit then .malformed else fractionFault 0 0 rest
    | [] => .mistyped
  | c :: rest =>
    if c.isDigit then
      let (significand, extra) := gather 0 ((c :: rest).takeWhile Char.isDigit)
      fractionFault significand extra (skipDigits rest)
    else .malformed

/-- The fault of a value that was read where another type is wanted. -/
def faultOf {α : Type} : Except Fault α → Fault
  | .error e => e
  | .ok _ => .mistyped

/-- The fault of a value that starts here, where another type is wanted. -/
def wrongType (cs : List Char) : Fault :=
  match cs with
  | [] => .truncated
  | 'n' :: rest => faultOf (skipWord ['u', 'l', 'l'] rest)
  | 't' :: rest => faultOf (skipWord ['r', 'u', 'e'] rest)
  | 'f' :: rest => faultOf (skipWord ['a', 'l', 's', 'e'] rest)
  | '-' :: rest => numberFault rest
  | '"' :: rest => faultOf (readText rest)
  | '[' :: _ => .mistyped
  | '\x7b' :: _ => .mistyped
  | c :: _ => if c.isDigit then numberFault cs else .malformed

end CubeQuery.Json
