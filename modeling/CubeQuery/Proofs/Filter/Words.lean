import CubeQuery.Number
import CubeQuery.Text.Case
import Mathlib.Data.List.Forall2
import Mathlib.Data.Nat.Digits.Defs
import Mathlib.Tactic.SplitIfs

/-!
# The words of a clause

What a name and a number in a clause stand for, said without regard to how they
are compared and read.

* `sameIgnoringAsciiCase_iff`: two texts are taken for the same name iff they
  differ at most in the case of ASCII letters.
* `ofText?_eq_some_iff`: a number is read iff the text denotes it in decimal and
  it has 64 bits.
-/

namespace CubeQuery

namespace Text

/-! ## Names -/

/-- `d` is the small letter of the capital `c` of ASCII. -/
def IsSmallOf (d c : Char) : Prop := 'A' ≤ c ∧ c ≤ 'Z' ∧ d.toNat = c.toNat + 32

/-- Two characters are equal, or one is the small letter of the other. -/
def SameLetter (c d : Char) : Prop := c = d ∨ IsSmallOf d c ∨ IsSmallOf c d

/-- Two texts differ at most in the case of ASCII letters. -/
def SameName (a b : String) : Prop := List.Forall₂ SameLetter a.toList b.toList

theorem toNat_toLower (c : Char) :
    c.toLower.toNat = if 'A' ≤ c ∧ c ≤ 'Z' then c.toNat + 32 else c.toNat := by
  by_cases h : 'A' ≤ c ∧ c ≤ 'Z'
  · have hle : c.val.toNat ≤ 90 := h.2
    have hlower : c.toLower.val = c.val + 32 := congrArg Char.val (dif_pos h)
    rw [if_pos h]
    show c.toLower.val.toNat = c.val.toNat + 32
    rw [hlower, UInt32.toNat_add]
    show (c.val.toNat + 32) % 2 ^ 32 = c.val.toNat + 32
    omega
  · have hlower : c.toLower = c := dif_neg h
    rw [if_neg h, hlower]

theorem toLower_eq_iff {c d : Char} : c.toLower = d.toLower ↔ SameLetter c d := by
  rw [← Char.toNat_inj, toNat_toLower, toNat_toLower, SameLetter, IsSmallOf, IsSmallOf,
    ← Char.toNat_inj]
  show (if 65 ≤ c.toNat ∧ c.toNat ≤ 90 then c.toNat + 32 else c.toNat) =
      (if 65 ≤ d.toNat ∧ d.toNat ≤ 90 then d.toNat + 32 else d.toNat) ↔
    c.toNat = d.toNat ∨ (65 ≤ c.toNat ∧ c.toNat ≤ 90 ∧ d.toNat = c.toNat + 32) ∨
      (65 ≤ d.toNat ∧ d.toNat ≤ 90 ∧ c.toNat = d.toNat + 32)
  split_ifs <;> omega

/-- The comparison of names is the one letter by letter. -/
theorem sameIgnoringAsciiCase_iff {a b : String} :
    sameIgnoringAsciiCase a b = true ↔ SameName a b := by
  rw [sameIgnoringAsciiCase, beq_iff_eq, SameName, ← List.forall₂_eq_eq_eq,
    List.forall₂_map_left_iff, List.forall₂_map_right_iff]
  simp only [toLower_eq_iff]

theorem SameName.refl (name : String) : SameName name name :=
  sameIgnoringAsciiCase_iff.mp (beq_self_eq_true _)

end Text

namespace Number

/-! ## Integers -/

/-- The number that decimal digits write, the last of them for the ones. -/
def digitsValue (digits : List Char) : ℕ :=
  Nat.ofDigits 10 (digits.reverse.map fun c => c.toNat - '0'.toNat)

/-- A text denotes an integer of 64 bits: it is one sign at most, and then one decimal digit of
    ASCII or more. -/
def Denotes (text : String) (n : ℤ) : Prop :=
  ∃ sign digits : List Char, text.toList = sign ++ digits ∧ digits ≠ [] ∧
    (∀ c ∈ digits, '0' ≤ c ∧ c ≤ '9') ∧
    ((sign = [] ∨ sign = ['+']) ∧ n = digitsValue digits ∨
      sign = ['-'] ∧ n = -digitsValue digits) ∧
    -2 ^ 63 ≤ n ∧ n ≤ 2 ^ 63 - 1

theorem isDigit_iff {c : Char} : c.isDigit = true ↔ '0' ≤ c ∧ c ≤ '9' := by
  rw [Char.isDigit, Bool.and_eq_true, decide_eq_true_eq, decide_eq_true_eq]
  rfl

theorem ofDigits?_eq_some_iff {cs : List Char} {n : ℕ} :
    ofDigits? cs = some n ↔
      cs ≠ [] ∧ (∀ c ∈ cs, '0' ≤ c ∧ c ≤ '9') ∧ n = digitsValue cs := by
  have hvalue : cs.foldl (fun n c => 10 * n + (c.toNat - '0'.toNat)) 0 = digitsValue cs := by
    rw [digitsValue, Nat.ofDigits_eq_foldr, List.foldr_map, List.foldr_reverse]
    simp only [Nat.cast_id, Nat.add_comm]
  rw [ofDigits?, hvalue]
  simp only [← isDigit_iff, ← List.all_eq_true]
  cases cs with
  | nil => simp
  | cons c cs =>
    cases h : (c :: cs).all Char.isDigit <;> simp [eq_comm]

theorem ofSigned?_eq_some_iff {cs : List Char} {n : ℤ} :
    ofSigned? cs = some n ↔ ∃ sign digits : List Char, cs = sign ++ digits ∧ digits ≠ [] ∧
      (∀ c ∈ digits, '0' ≤ c ∧ c ≤ '9') ∧
      ((sign = [] ∨ sign = ['+']) ∧ n = digitsValue digits ∨
        sign = ['-'] ∧ n = -digitsValue digits) := by
  constructor
  · intro h
    unfold ofSigned? at h
    split at h
    · next digits =>
      obtain ⟨k, hk, rfl⟩ := Option.map_eq_some_iff.mp h
      obtain ⟨hne, hdigits, rfl⟩ := ofDigits?_eq_some_iff.mp hk
      exact ⟨['+'], digits, rfl, hne, hdigits, .inl ⟨.inr rfl, rfl⟩⟩
    · next digits =>
      obtain ⟨k, hk, rfl⟩ := Option.map_eq_some_iff.mp h
      obtain ⟨hne, hdigits, rfl⟩ := ofDigits?_eq_some_iff.mp hk
      exact ⟨['-'], digits, rfl, hne, hdigits, .inr ⟨rfl, rfl⟩⟩
    · obtain ⟨k, hk, rfl⟩ := Option.map_eq_some_iff.mp h
      obtain ⟨hne, hdigits, rfl⟩ := ofDigits?_eq_some_iff.mp hk
      exact ⟨[], cs, rfl, hne, hdigits, .inl ⟨.inl rfl, rfl⟩⟩
  · rintro ⟨sign, digits, rfl, hne, hdigits, h⟩
    have hread := ofDigits?_eq_some_iff.mpr ⟨hne, hdigits, rfl⟩
    rcases h with ⟨rfl | rfl, rfl⟩ | ⟨rfl, rfl⟩
    · -- A digit is no sign, so the digits are read as they stand.
      unfold ofSigned?
      rw [List.nil_append]
      split
      · exact absurd (hdigits '+' List.mem_cons_self) (by decide)
      · exact absurd (hdigits '-' List.mem_cons_self) (by decide)
      · rw [hread]
        rfl
    · show (ofDigits? digits).map Int.ofNat = _
      rw [hread]
      rfl
    · show ((ofDigits? digits).map fun n => -Int.ofNat n) = _
      rw [hread]
      rfl

/-- A number is read iff the text denotes it. -/
theorem ofText?_eq_some_iff {text : String} {n : ℤ} :
    ofText? text = some n ↔ Denotes text n := by
  rw [ofText?, Option.filter_eq_some_iff, ofSigned?_eq_some_iff]
  simp only [Bool.and_eq_true, decide_eq_true_eq]
  simp only [least, greatest]
  constructor
  · rintro ⟨⟨sign, digits, htext, hne, hdigits, hn⟩, hleast, hgreatest⟩
    exact ⟨sign, digits, htext, hne, hdigits, hn, by omega, by omega⟩
  · rintro ⟨sign, digits, htext, hne, hdigits, hn, hleast, hgreatest⟩
    exact ⟨⟨sign, digits, htext, hne, hdigits, hn⟩, by omega, by omega⟩

end Number

end CubeQuery
