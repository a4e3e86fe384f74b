import CubeQuery.Text.Case

/-!
# Characters that differ in case only

Two characters differ in case only when they fold to the same character. Most
characters fold to their lowercase form. A few small letters that are variants
of another small letter fold to that letter.
-/

namespace CubeQuery.Text

/-- The small letters that fold to another small letter, each with that letter. -/
def foldExceptions : List (Char × Char) :=
  [('\u00b5', '\u03bc'), ('\u017f', 's'), ('\u0345', '\u03b9'), ('\u03c2', '\u03c3'),
    ('\u03d0', '\u03b2'), ('\u03d1', '\u03b8'), ('\u03d5', '\u03c6'), ('\u03d6', '\u03c0'),
    ('\u03f0', '\u03ba'), ('\u03f1', '\u03c1'), ('\u03f5', '\u03b5'), ('\u1c80', '\u0432'),
    ('\u1c81', '\u0434'), ('\u1c82', '\u043e'), ('\u1c83', '\u0441'), ('\u1c84', '\u0442'),
    ('\u1c85', '\u0442'), ('\u1c86', '\u044a'), ('\u1c87', '\u0463'), ('\u1c88', '\ua64b'),
    ('\u1e9b', '\u1e61'), ('\u1fbe', '\u03b9'), ('\u1fd3', '\u0390'), ('\u1fe3', '\u03b0'),
    ('\ufb05', '\ufb06')]

/-- The character that stands for all that differ from a character in case only. -/
def foldCase (c : Char) : Char := (foldExceptions.lookup c).getD (lowerSimple c)

/-- The code point of the run whose lowercase form is `n`. -/
def CaseRun.source? (run : CaseRun) (n : Nat) : Option Nat :=
  let m := run.first + (n - run.target)
  if run.target ≤ n && run.holds m then some m else none

/-- The characters that fold to a character which folds to itself. -/
def foldSources (c : Char) : List Char :=
  c :: (caseRuns.filterMap (·.source? c.toNat)).map Char.ofNat ++
    (foldExceptions.filter (·.2 = c)).map (·.1)

/-- All characters that differ from a character in case only, itself included. -/
def caseVariants (c : Char) : List Char := foldSources (foldCase c)

/-- All characters that differ from another one in case only. -/
def caseLetters : List Char :=
  (caseRuns.flatMap fun run =>
    (List.range ((run.last - run.first) / run.step + 1)).flatMap fun i =>
      [Char.ofNat (run.first + i * run.step), Char.ofNat (run.target + i * run.step)]) ++
    foldExceptions.flatMap fun (variant, letter) => [variant, letter]

/-- The ASCII letters. -/
def asciiLetters : List Char :=
  (List.range 26).flatMap fun i => [Char.ofNat (0x41 + i), Char.ofNat (0x61 + i)]

/-- The same for the case of ASCII letters alone. -/
def asciiCaseVariants (c : Char) : List Char := [c.toLower, c.toUpper]

end CubeQuery.Text
