import CubeQuery.Text.GeneralCategory.Letter
import CubeQuery.Text.GeneralCategory.Mark
import CubeQuery.Text.GeneralCategory.Number
import CubeQuery.Text.GeneralCategory.Symbol

/-!
# General categories

Unicode's `General_Category` gives each character one of thirty categories. The
code points of a category are listed in tables, those without a character
excepted, which are in no table.
-/

namespace CubeQuery.Text

/-- Unicode's `General_Category`. -/
inductive GeneralCategory where
  | upperLetter
  | lowerLetter
  | titleLetter
  | modifierLetter
  | otherLetter
  | nonspacingMark
  | spacingMark
  | enclosingMark
  | decimalDigit
  | letterNumber
  | otherNumber
  | connector
  | dash
  | opening
  | closing
  | initialQuote
  | finalQuote
  | punctuation
  | mathSymbol
  | currencySymbol
  | modifierSymbol
  | symbol
  | space
  | lineSeparator
  | paragraphSeparator
  | control
  | format
  | surrogate
  | privateUse
  | unassigned
deriving DecidableEq, Repr

namespace GeneralCategory

/-- The characters of a category. Unassigned code points are listed nowhere, and
    surrogates are no characters. -/
def runs : GeneralCategory → List Run
  | upperLetter => upperLetters
  | lowerLetter => lowerLetters
  | titleLetter => titleLetters
  | modifierLetter => modifierLetters
  | otherLetter => otherLetters
  | nonspacingMark => nonspacingMarks
  | spacingMark => spacingMarks
  | enclosingMark => enclosingMarks
  | decimalDigit => decimalDigits
  | letterNumber => letterNumbers
  | otherNumber => otherNumbers
  | connector => connectors
  | dash => dashes
  | opening => openings
  | closing => closings
  | initialQuote => initialQuotes
  | finalQuote => finalQuotes
  | punctuation => otherPunctuation
  | mathSymbol => mathSymbols
  | currencySymbol => currencySymbols
  | modifierSymbol => modifierSymbols
  | symbol => otherSymbols
  | space => spaces
  | lineSeparator => lineSeparators
  | paragraphSeparator => paragraphSeparators
  | control => controls
  | format => formats
  | surrogate => []
  | privateUse => privateCodes
  | unassigned => []

/-- The letters. -/
def letters : List GeneralCategory :=
  [lowerLetter, upperLetter, otherLetter, modifierLetter, titleLetter]

/-- The combining marks. -/
def marks : List GeneralCategory := [nonspacingMark, spacingMark, enclosingMark]

/-- The numbers. -/
def numbers : List GeneralCategory := [decimalDigit, letterNumber, otherNumber]

/-- The punctuation. -/
def punctuations : List GeneralCategory :=
  [punctuation, opening, closing, dash, connector, initialQuote, finalQuote]

/-- The symbols. -/
def symbols : List GeneralCategory := [symbol, mathSymbol, currencySymbol, modifierSymbol]

/-- The separators. -/
def separators : List GeneralCategory := [space, lineSeparator, paragraphSeparator]

/-- The categories of other characters that are assigned. -/
def specials : List GeneralCategory := [control, format, privateUse]

/-- The categories of all characters that are assigned. -/
def assigned : List GeneralCategory :=
  letters ++ punctuations ++ numbers ++ symbols ++ separators ++ marks ++ specials

/-- The category of a character. -/
def ofChar (c : Char) : GeneralCategory :=
  (assigned.find? fun category => inRuns category.runs c.toNat).getD unassigned

end GeneralCategory

end CubeQuery.Text
