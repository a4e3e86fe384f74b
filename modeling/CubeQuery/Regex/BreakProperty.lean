import CubeQuery.Regex.BinaryProperty
import CubeQuery.Text.Break
import CubeQuery.Text.Script

/-!
# Properties for dividing text

The classes into which the Unicode standard sorts characters in order to tell where
a character, a word or a sentence of a text ends.
-/

namespace CubeQuery.CharSet

/-- The characters of one script, by its code. -/
def ofScriptCode (code : String) : CharSet :=
  ((Text.scripts.find? fun script => script.names.head? = some code).map
    fun script => runs script.runs).getD empty

/-- The syllables of Korean without a trailing consonant. -/
def openSyllable : CharSet := runs [⟨0xAC00, 0xD788, 28⟩]

/-- The separator of lines and that of paragraphs. -/
def lineOrParagraph : CharSet := ofCategories [.lineSeparator, .paragraphSeparator]

/-- The signs that stand before a number and enclose it. -/
def numberSign : CharSet := runs (Text.numberSigns.filter fun run => run.first ≠ 0x70F)

/-! ## Characters -/

/-- The characters that extend the one before them, colours of skin included. -/
def clusterExtend : CharSet := union extender (runs Text.emojiModifiers)

/-- The characters at which every cluster ends. -/
def clusterControl : CharSet :=
  difference
    (unionAll [lineOrParagraph, ofCategories [.control, .format],
      difference (runs Text.ignorable) assigned])
    (unionAll [single '\n', single '\r', joiner, runs Text.numberSigns, clusterExtend])

/-- The marks with room of their own that belong to the character before them. -/
def clusterSpacing : CharSet :=
  difference
    (union (difference (ofCategories [.spacingMark]) clusterExtend)
      (union (single '\u0e33') (single '\u0eb3')))
    (runs Text.looseMarks)

/-- The classes for dividing text into characters, with their names. -/
def clusterClasses : List (List String × CharSet) :=
  [(["cr"], single '\r'),
    (["lf"], single '\n'),
    (["control", "cn"], clusterControl),
    (["extend", "ex"], clusterExtend),
    (["l"], runs Text.leadingJamo),
    (["v"], runs Text.vowelJamo),
    (["t"], runs Text.trailingJamo),
    (["lv"], openSyllable),
    (["lvt"], difference (interval '가' '힣') openSyllable),
    (["prepend", "pp"], runs Text.prependers),
    (["regionalindicator", "ri"], regionalIndicator),
    (["spacingmark", "sm"], clusterSpacing),
    (["zwj"], single '\u200d')]

/-! ## Words -/

/-- The characters that extend a word without being letters of it. -/
def wordExtend : CharSet := union clusterExtend (ofCategories [.spacingMark])

/-- The characters of words in Katakana. -/
def wordKatakana : CharSet := union (ofScriptCode "Kana") (runs Text.katakanaSigns)

/-- The Hebrew letters. -/
def hebrewLetter : CharSet := intersection (ofScriptCode "Hebr") (ofCategories [.otherLetter])

/-- The letters of words that stand between blanks. -/
def wordLetter : CharSet :=
  difference (union alphabetic (runs Text.wordSigns))
    (unionAll [runs Text.ideographs, wordKatakana, runs Text.complexContext,
      ofScriptCode "Hira", wordExtend, hebrewLetter])

/-- The digits of numbers and what belongs to them. -/
def wordNumeric : CharSet := unionAll [digit, single '\u066b', numberSign]

/-- The characters that are passed over between the parts of a word. -/
def wordFormat : CharSet :=
  difference (ofCategories [.format])
    (unionAll [interval '\u200b' '\u200d', runs Text.numberSigns, wordExtend])

/-- The blanks that keep together. -/
def wordBlank : CharSet :=
  difference (ofCategories [.space]) (unionAll [single '\u00a0', single '\u2007', single '\u202f'])

/-- The classes for dividing text into words, with their names. -/
def wordClasses : List (List String × CharSet) :=
  [(["cr"], single '\r'),
    (["lf"], single '\n'),
    (["newline", "nl"], unionAll [interval '\x0b' '\x0c', single '\u0085', lineOrParagraph]),
    (["aletter", "le"], wordLetter),
    (["doublequote", "dq"], single '"'),
    (["extend"], wordExtend),
    (["extendnumlet", "ex"], union (ofCategories [.connector]) (single '\u202f')),
    (["format", "fo"], wordFormat),
    (["hebrewletter", "hl"], hebrewLetter),
    (["katakana", "ka"], wordKatakana),
    (["midletter", "ml"], runs Text.letterJoiners),
    (["midnum", "mn"], runs Text.numberJoiners),
    (["midnumlet", "mb"], runs Text.wordJoiners),
    (["numeric", "nu"], wordNumeric),
    (["regionalindicator", "ri"], regionalIndicator),
    (["singlequote", "sq"], single '\''),
    (["wsegspace"], wordBlank),
    (["zwj"], single '\u200d')]

/-! ## Sentences -/

/-- The characters that extend the one before them within a sentence. -/
def sentenceExtend : CharSet :=
  unionAll [extender, ofCategories [.spacingMark], single '\u200d']

/-- The signs that end a sentence or an abbreviation. -/
def sentencePoint : CharSet :=
  runs [⟨0x2E, 0x2E, 1⟩, ⟨0x2024, 0x2024, 1⟩, ⟨0xFE52, 0xFE52, 1⟩, ⟨0xFF0E, 0xFF0E, 1⟩]

/-- The signs that end a sentence and nothing else. -/
def sentenceEnd : CharSet := difference (runs Text.sentenceEnds) sentencePoint

/-- The small letters with which no sentence starts. -/
def sentenceLower : CharSet :=
  difference lowercase
    (unionAll [extender, interval '\u10d0' '\u10fa', interval '\u10fd' '\u10ff'])

/-- The letters with which a sentence starts. -/
def sentenceUpper : CharSet :=
  difference (union (ofCategories [.titleLetter]) uppercase) (interval '\u1c90' '\u1cbf')

/-- The letters that tell nothing about where a sentence starts. -/
def sentenceLetter : CharSet :=
  difference (union alphabetic (single '\u05f3'))
    (unionAll [sentenceLower, sentenceUpper, sentenceExtend])

/-- The brackets and quotes that can close a sentence. -/
def sentenceClose : CharSet :=
  difference
    (union (ofCategories [.opening, .closing, .initialQuote, .finalQuote]) (runs Text.otherClosers))
    (unionAll [single '\u05f3', sentencePoint, sentenceEnd])

/-- The classes for dividing text into sentences, with their names. -/
def sentenceClasses : List (List String × CharSet) :=
  [(["cr"], single '\r'),
    (["lf"], single '\n'),
    (["aterm", "at"], sentencePoint),
    (["close", "cl"], sentenceClose),
    (["extend", "ex"], sentenceExtend),
    (["format", "fo"],
      difference (ofCategories [.format]) (unionAll [joiner, numberSign, sentenceExtend])),
    (["lower", "lo"], sentenceLower),
    (["numeric", "nu"], unionAll [wordNumeric, single '\u066c']),
    (["oletter", "le"], sentenceLetter),
    (["scontinue", "sc"], runs Text.sentenceJoiners),
    (["sep", "se"], union (single '\u0085') lineOrParagraph),
    (["sp"],
      difference space (unionAll [single '\n', single '\r', single '\u0085', lineOrParagraph])),
    (["sterm", "st"], sentenceEnd),
    (["upper", "up"], sentenceUpper)]

/-- The characters of the class of a name. -/
def ofClass? (classes : List (List String × CharSet)) (name : String) : Option CharSet :=
  (classes.find? fun (names, _) => names.contains name).map (·.2)

end CubeQuery.CharSet
