import CubeQuery.Proofs.Text.Lowering
import CubeQuery.Settings.Basic
import Mathlib.Data.Bool.AllAny

/-!
# Words for truth values

The words are compared after lowercasing by the rules for all letters. For the
letters of these words that is the same as ignoring the case of ASCII letters:
no other character becomes one of them.

* `lowercase_eq_iff`: lowercasing gives such a word only if ASCII letters differ in case.
* `flagOfWord?_eq_truthOf?`: the words are compared ignoring ASCII case.
-/

namespace CubeQuery

namespace Text

/-- The letters and digits of the words for truth values. -/
def wordLetters : List Char := ['t', 'r', 'u', 'e', 'y', 's', 'o', 'n', 'f', 'a', 'l', '1', '0']

theorem wordLetters_isSmallAscii : ∀ d ∈ wordLetters, IsSmallAscii d :=
  List.all_iff_forall_prop.mp (by decide)

end Text

namespace Settings

/-- The truth value that a text is a word for, when the case of ASCII letters is ignored. -/
def truthOf? (value : String) : Option Bool :=
  if ["true", "yes", "1", "on"].any (Text.sameIgnoringAsciiCase value) then some true
  else if ["false", "no", "0", "off"].any (Text.sameIgnoringAsciiCase value) then some false
  else none

theorem lowercase_eq_iff {word : String} (hword : ∀ d ∈ word.toList, d ∈ Text.wordLetters)
    {value : String} :
    Text.lowercase value = word ↔ Text.sameIgnoringAsciiCase value word = true := by
  have hsmall := fun d hd => Text.wordLetters_isSmallAscii d (hword d hd)
  have hlower : word.toList.map Char.toLower = word.toList :=
    (List.map_congr_left fun d hd => (hsmall d hd).2.1).trans (List.map_id word.toList)
  rw [Text.sameIgnoringAsciiCase, beq_iff_eq, hlower, ← Text.lowerAfter_eq_iff hsmall,
    Text.lowercase, Text.lower, ← String.toList_inj, String.toList_ofList]

theorem contains_lowercase {words : List String}
    (hwords : (words.all fun word => word.toList.all Text.wordLetters.contains) = true)
    (value : String) :
    words.contains (Text.lowercase value) = words.any (Text.sameIgnoringAsciiCase value) := by
  simp only [List.all_eq_true, List.contains_iff_mem] at hwords
  rw [Bool.eq_iff_iff, List.contains_iff_mem, List.any_eq_true]
  constructor
  · intro h
    exact ⟨_, h, (lowercase_eq_iff (hwords _ h)).mp rfl⟩
  · rintro ⟨word, hword, hsame⟩
    rw [(lowercase_eq_iff (hwords word hword)).mpr hsame]
    exact hword

/-- Among these words, lowercasing by the rules for all letters ignores no more than the case
    of ASCII letters. -/
theorem flagOfWord?_eq_truthOf? (value : String) : flagOfWord? value = truthOf? value := by
  rw [flagOfWord?, truthOf?, contains_lowercase (by decide), contains_lowercase (by decide)]

end Settings

end CubeQuery
