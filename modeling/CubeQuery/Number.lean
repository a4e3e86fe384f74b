/-!
# Integers in clauses

An integer is written as an optional sign and ASCII digits, with any number of
leading zeros, and has to fit into 64 bits with a sign.
-/

namespace CubeQuery.Number

/-- The number that decimal digits write, or nothing if some character is no digit. -/
def ofDigits? (cs : List Char) : Option Nat :=
  if cs.isEmpty || !cs.all Char.isDigit then none
  else some (cs.foldl (fun n c => 10 * n + (c.toNat - '0'.toNat)) 0)

/-- The least integer of 64 bits. -/
def least : Int := -9223372036854775808

/-- The greatest integer of 64 bits. -/
def greatest : Int := 9223372036854775807

/-- The integer that a sign and digits write. -/
def ofSigned? (cs : List Char) : Option Int :=
  match cs with
  | '+' :: digits => (ofDigits? digits).map Int.ofNat
  | '-' :: digits => (ofDigits? digits).map fun n => -Int.ofNat n
  | digits => (ofDigits? digits).map Int.ofNat

/-- The integer that a text writes, if it has 64 bits. -/
def ofText? (text : String) : Option Int :=
  (ofSigned? text.toList).filter fun n => least ≤ n && n ≤ greatest

end CubeQuery.Number
