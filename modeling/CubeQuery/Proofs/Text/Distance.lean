import CubeQuery.Text.Distance
import Mathlib.Order.Bounds.Basic
import Mathlib.Order.MinMax

/-!
# The distance is the least number of edits

An edit puts a character in, takes one out or replaces one, anywhere in the text.
The table of rows computes the least number of edits that lead from one text to
another.

* `charDistance_cons_cons`: one entry of the table, from its three neighbours.
* `edits_charDistance`: so many edits suffice.
* `charDistance_le_of_edit`: one edit makes a difference of one at most, hence
  `charDistance_le_of_edits`: fewer edits do not suffice.
* `isLeast_distance`: both together.
-/

namespace CubeQuery.Text

/-! ## Edits -/

/-- One edit leads from a text to another. -/
inductive Edit : List Char → List Char → Prop
  | insert (before after : List Char) (c : Char) : Edit (before ++ after) (before ++ c :: after)
  | delete (before after : List Char) (c : Char) : Edit (before ++ c :: after) (before ++ after)
  | replace (before after : List Char) (c d : Char) :
    Edit (before ++ c :: after) (before ++ d :: after)

/-- `Edits n a b`: edits, `n` of them one after the other, lead from `a` to `b`. -/
inductive Edits : ℕ → List Char → List Char → Prop
  | done (a : List Char) : Edits 0 a a
  | more {n : ℕ} {a b c : List Char} : Edit a b → Edits n b c → Edits (n + 1) a c

theorem Edit.cons {a b : List Char} (c : Char) (h : Edit a b) : Edit (c :: a) (c :: b) := by
  cases h with
  | insert before after d => exact .insert (c :: before) after d
  | delete before after d => exact .delete (c :: before) after d
  | replace before after d e => exact .replace (c :: before) after d e

theorem Edits.eq_of_zero {a b : List Char} (h : Edits 0 a b) : a = b := by
  cases h
  rfl

theorem Edits.cons {n : ℕ} {a b : List Char} (c : Char) (h : Edits n a b) :
    Edits n (c :: a) (c :: b) := by
  induction h with
  | done a => exact .done (c :: a)
  | more hedit _ ih => exact .more (hedit.cons c) ih

/-! ## The entries of the table -/

/-- The entry of the table for two texts. -/
def charDistance (a b : List Char) : ℕ := (distanceRow a b).headD 0

theorem tail_distanceRow (a : List Char) (x : Char) (b : List Char) :
    (distanceRow a (x :: b)).tail = distanceRow a b := by
  induction a with
  | nil => rfl
  | cons c a ih =>
    show nextRow c b (distanceRow a (x :: b)).tail = nextRow c b (distanceRow a b)
    rw [ih]

theorem charDistance_nil (b : List Char) : charDistance [] b = b.length := by
  cases b <;> rfl

theorem charDistance_cons_nil (c : Char) (a : List Char) :
    charDistance (c :: a) [] = charDistance a [] + 1 := rfl

/-- An entry follows from its three neighbours. -/
theorem charDistance_cons_cons (c : Char) (a : List Char) (x : Char) (b : List Char) :
    charDistance (c :: a) (x :: b) =
      min (min (charDistance a (x :: b) + 1) (charDistance (c :: a) b + 1))
        (charDistance a b + if c = x then 0 else 1) := by
  show min (min (charDistance a (x :: b) + 1)
      ((nextRow c b (distanceRow a (x :: b)).tail).headD 0 + 1))
    ((distanceRow a (x :: b)).tail.headD 0 + if c = x then 0 else 1) = _
  rw [tail_distanceRow]
  rfl

/-! ## So many edits suffice -/

theorem edits_of_nil (b : List Char) : Edits b.length [] b := by
  induction b with
  | nil => exact .done []
  | cons x b ih => exact .more (.insert [] [] x) (ih.cons x)

/-- So many edits suffice. Each neighbour stands for a first edit, or for a character that
    both texts start with. -/
theorem edits_charDistance (a b : List Char) : Edits (charDistance a b) a b := by
  induction a generalizing b with
  | nil =>
    rw [charDistance_nil]
    exact edits_of_nil b
  | cons c a iha =>
    induction b with
    | nil => exact .more (.delete [] a c) (iha [])
    | cons x b ihb =>
      rw [charDistance_cons_cons]
      rcases min_choice (min (charDistance a (x :: b) + 1) (charDistance (c :: a) b + 1))
        (charDistance a b + if c = x then 0 else 1) with h | h
      · rw [h]
        rcases min_choice (charDistance a (x :: b) + 1) (charDistance (c :: a) b + 1) with h' | h'
        · rw [h']
          exact .more (.delete [] a c) (iha (x :: b))
        · rw [h']
          exact .more (.insert [] (c :: a) x) (ihb.cons x)
      · rw [h]
        split_ifs with hcx
        · rw [hcx]
          exact (iha b).cons x
        · exact .more (.replace [] a c x) ((iha b).cons x)

/-! ## Fewer edits do not suffice -/

theorem charDistance_self (a : List Char) : charDistance a a = 0 := by
  induction a with
  | nil => rfl
  | cons c a ih =>
    rw [charDistance_cons_cons, if_pos rfl, ih]
    omega

theorem charDistance_cons_left_le (c : Char) (a b : List Char) :
    charDistance (c :: a) b ≤ charDistance a b + 1 := by
  cases b with
  | nil => exact le_of_eq (charDistance_cons_nil c a)
  | cons x b =>
    rw [charDistance_cons_cons]
    omega

theorem charDistance_cons_right_le (a : List Char) (x : Char) (b : List Char) :
    charDistance a (x :: b) ≤ charDistance a b + 1 := by
  cases a with
  | nil =>
    rw [charDistance_nil, charDistance_nil]
    exact le_refl _
  | cons c a =>
    rw [charDistance_cons_cons]
    omega

theorem charDistance_le_cons_left (c : Char) (a b : List Char) :
    charDistance a b ≤ charDistance (c :: a) b + 1 := by
  induction b with
  | nil =>
    rw [charDistance_cons_nil]
    omega
  | cons x b ih =>
    have hx := charDistance_cons_right_le a x b
    rw [charDistance_cons_cons]
    omega

theorem charDistance_replace_le (c d : Char) (a b : List Char) :
    charDistance (c :: a) b ≤ charDistance (d :: a) b + 1 := by
  induction b with
  | nil =>
    rw [charDistance_cons_nil, charDistance_cons_nil]
    omega
  | cons x b ih =>
    rw [charDistance_cons_cons, charDistance_cons_cons]
    split_ifs <;> omega

/-- A difference of one at most stays one at most behind a common first character. -/
theorem charDistance_cons_le {a a' : List Char}
    (h : ∀ b, charDistance a b ≤ charDistance a' b + 1) (c : Char) (b : List Char) :
    charDistance (c :: a) b ≤ charDistance (c :: a') b + 1 := by
  induction b with
  | nil =>
    have hnil := h []
    rw [charDistance_cons_nil, charDistance_cons_nil]
    omega
  | cons x b ih =>
    have hlong := h (x :: b)
    have hshort := h b
    rw [charDistance_cons_cons, charDistance_cons_cons]
    split_ifs <;> omega

theorem charDistance_append_le {a a' : List Char}
    (h : ∀ b, charDistance a b ≤ charDistance a' b + 1) (before b : List Char) :
    charDistance (before ++ a) b ≤ charDistance (before ++ a') b + 1 := by
  induction before generalizing b with
  | nil => exact h b
  | cons c before ih => exact charDistance_cons_le ih c b

/-- One edit makes a difference of one at most. -/
theorem charDistance_le_of_edit {a a' : List Char} (h : Edit a a') (b : List Char) :
    charDistance a b ≤ charDistance a' b + 1 := by
  cases h with
  | insert before after c => exact charDistance_append_le (charDistance_le_cons_left c after) _ b
  | delete before after c => exact charDistance_append_le (charDistance_cons_left_le c after) _ b
  | replace before after c d =>
    exact charDistance_append_le (charDistance_replace_le c d after) _ b

/-- Fewer edits do not suffice. -/
theorem charDistance_le_of_edits {n : ℕ} {a b : List Char} (h : Edits n a b) :
    charDistance a b ≤ n := by
  induction h with
  | done a => exact le_of_eq (charDistance_self a)
  | @more n a a' b hedit _ ih =>
    have hstep := charDistance_le_of_edit hedit b
    omega

/-- The distance is the least number of edits that lead from one text to the other. -/
theorem isLeast_distance (a b : String) :
    IsLeast {n | Edits n a.toList b.toList} (distance a b) :=
  ⟨edits_charDistance a.toList b.toList, fun _ h => charDistance_le_of_edits h⟩

theorem distance_eq_zero_iff {a b : String} : distance a b = 0 ↔ a = b := by
  constructor
  · intro h
    have hedits := (isLeast_distance a b).1
    rw [h] at hedits
    exact String.toList_inj.mp hedits.eq_of_zero
  · rintro rfl
    exact charDistance_self a.toList

end CubeQuery.Text
