import CubeQuery.Regex.CharSet
import CubeQuery.Text.CaseChange
import CubeQuery.Text.Diacritic
import CubeQuery.Text.Hidden
import CubeQuery.Text.Pictograph
import CubeQuery.Text.Punctuation
import CubeQuery.Text.Special

/-!
# Properties that a character has or has not

The sets of characters that have one of the properties of the Unicode standard
with two values. Most follow from general categories and short lists.
-/

namespace CubeQuery.CharSet

open Text (GeneralCategory)

/-! ## Case -/

/-- The characters that have a case. -/
def cased : CharSet := unionAll [lowercase, uppercase, ofCategories [.titleLetter]]

/-- The characters that are passed over where the case of a neighbour counts. -/
def caseIgnorable : CharSet :=
  ofRanges (Text.caseIgnorableRanges.map fun (first, last) => ⟨first, last⟩)

/-- The characters that small letters replace. -/
def lowered : CharSet :=
  union (single 'İ') (runs (Text.caseRuns.map fun run => ⟨run.first, run.last, run.step⟩))

/-- The characters that capitals replace. -/
def raised : CharSet := runs Text.raisedLetters

/-- The characters that the capitals at the start of words replace. -/
def titled : CharSet :=
  union (difference raised (runs Text.neverTitled)) (runs Text.titledOnly)

/-- The characters that change when case is ignored. -/
def folded : CharSet := union (difference lowered (runs Text.keptWhenFolded)) (runs Text.foldedOnly)

/-! ## Marks and layout -/

/-- The characters that extend the one before them, although no category says so. -/
def otherExtender : CharSet :=
  unionAll [runs Text.spacingExtenders, single '\u200c', interval '\uff9e' '\uff9f',
    interval (Char.ofNat 0xE0020) (Char.ofNat 0xE007F)]

/-- The characters that extend the one before them. -/
def extender : CharSet := union (ofCategories [.nonspacingMark, .enclosingMark]) otherExtender

/-- The characters on which others can be built. -/
def base : CharSet :=
  difference assigned
    (unionAll [extender, ofCategories [.control, .format, .privateUse, .lineSeparator,
      .paragraphSeparator]])

/-- The marks, numbers and symbols that belong to an alphabet. -/
def otherAlphabetic : CharSet :=
  difference alphabetic (ofCategories (GeneralCategory.letters ++ [.letterNumber]))

/-- The emoji. -/
def emoji : CharSet :=
  union (runs Text.emojiParts) (difference (runs Text.pictographs) (runs Text.plainPictographs))

/-- The characters of which emoji are made. -/
def emojiComponent : CharSet :=
  runs [⟨0x23, 0x23, 1⟩, ⟨0x2A, 0x2A, 1⟩, ⟨0x30, 0x39, 1⟩, ⟨0x200D, 0x200D, 1⟩,
    ⟨0x20E3, 0x20E3, 1⟩, ⟨0xFE0F, 0xFE0F, 1⟩, ⟨0x1F1E6, 0x1F1FF, 1⟩, ⟨0x1F3FB, 0x1F3FF, 1⟩,
    ⟨0x1F9B0, 0x1F9B3, 1⟩, ⟨0xE0020, 0xE007F, 1⟩]

/-- The letters for flags. -/
def regionalIndicator : CharSet := interval '🇦' '🇿'

/-- The dashes. -/
def anyDash : CharSet :=
  union (ofCategories [.dash])
    (runs [⟨0x2053, 0x2053, 1⟩, ⟨0x207B, 0x207B, 1⟩, ⟨0x208B, 0x208B, 1⟩, ⟨0x2212, 0x2212, 1⟩])

/-- The hexadecimal digits in ASCII. -/
def asciiHexDigit : CharSet := unionAll [interval '0' '9', interval 'A' 'F', interval 'a' 'f']

/-- The hexadecimal digits. -/
def hexDigit : CharSet :=
  unionAll [asciiHexDigit, interval '０' '９', interval 'Ａ' 'Ｆ', interval 'ａ' 'ｆ']

/-- The signs of mathematics with which a name may start. -/
def mathNameStart : CharSet :=
  runs [⟨0x2202, 0x2202, 1⟩, ⟨0x2207, 0x2207, 1⟩, ⟨0x221E, 0x221E, 1⟩, ⟨0x1D6C1, 0x1D6C1, 1⟩,
    ⟨0x1D6DB, 0x1D6DB, 1⟩, ⟨0x1D6FB, 0x1D6FB, 1⟩, ⟨0x1D715, 0x1D715, 1⟩, ⟨0x1D735, 0x1D735, 1⟩,
    ⟨0x1D74F, 0x1D74F, 1⟩, ⟨0x1D76F, 0x1D76F, 1⟩, ⟨0x1D789, 0x1D789, 1⟩, ⟨0x1D7A9, 0x1D7A9, 1⟩,
    ⟨0x1D7C3, 0x1D7C3, 1⟩]

/-- The signs of mathematics that may stand inside a name. -/
def mathNamePart : CharSet :=
  union mathNameStart
    (runs [⟨0xB2, 0xB3, 1⟩, ⟨0xB9, 0xB9, 1⟩, ⟨0x2070, 0x2070, 1⟩, ⟨0x2074, 0x207E, 1⟩,
      ⟨0x2080, 0x208E, 1⟩])

/-! ## Names -/

/-- The properties with their names, in which only small letters and digits count. -/
def binaryProperties : List (List String × CharSet) :=
  [(["whitespace", "wspace", "space"], space),
    (["alphabetic", "alpha"], alphabetic),
    (["lowercase", "lower"], lowercase),
    (["uppercase", "upper"], uppercase),
    (["cased"], cased),
    (["caseignorable", "ci"], caseIgnorable),
    (["changeswhencasefolded", "cwcf"], folded),
    (["changeswhencasemapped", "cwcm"], unionAll [lowered, raised, titled]),
    (["changeswhenlowercased", "cwl"], lowered),
    (["changeswhentitlecased", "cwt"], titled),
    (["changeswhenuppercased", "cwu"], raised),
    (["asciihexdigit", "ahex"], asciiHexDigit),
    (["hexdigit", "hex"], hexDigit),
    (["dash"], anyDash),
    (["hyphen"], runs Text.hyphens),
    (["quotationmark", "qmark"], runs Text.quotes),
    (["sentenceterminal", "sterm"], runs Text.sentenceEnds),
    (["terminalpunctuation", "term"], runs (Text.sentenceEnds ++ Text.clauseEnds)),
    (["bidicontrol", "bidic"], runs Text.directionControls),
    (["bidimirrored", "bidim"], runs Text.mirrored),
    (["diacritic", "dia"], runs Text.diacritics),
    (["extender", "ext"], runs Text.lengtheners),
    (["softdotted", "sd"], runs Text.dottedLetters),
    (["modifiercombiningmark", "mcm"], runs Text.combiningModifiers),
    (["graphemebase", "grbase"], base),
    (["graphemeextend", "grext"], extender),
    (["graphemelink", "grlink"], runs Text.viramas),
    (["defaultignorablecodepoint", "di"], runs Text.ignorable),
    (["deprecated", "dep"], runs Text.deprecatedPoints),
    (["noncharactercodepoint", "nchar"], runs Text.noncharacters),
    (["variationselector", "vs"], runs Text.variationSelectors),
    (["prependedconcatenationmark", "pcm"], runs Text.numberSigns),
    (["joincontrol", "joinc"], joiner),
    (["logicalorderexception", "loe"], runs Text.visualOrder),
    (["regionalindicator", "ri"], regionalIndicator),
    (["ideographic", "ideo"], runs Text.ideographs),
    (["unifiedideograph", "uideo"], runs Text.unifiedIdeographs),
    (["radical"], runs Text.radicals),
    (["idsbinaryoperator", "idsb"],
      runs [⟨0x2FF0, 0x2FF1, 1⟩, ⟨0x2FF4, 0x2FFD, 1⟩, ⟨0x31EF, 0x31EF, 1⟩]),
    (["idstrinaryoperator", "idst"], runs [⟨0x2FF2, 0x2FF3, 1⟩]),
    (["idsunaryoperator", "idsu"], runs [⟨0x2FFE, 0x2FFF, 1⟩]),
    (["math"], union (ofCategories [.mathSymbol]) (runs Text.otherMath)),
    (["idcompatmathstart"], mathNameStart),
    (["idcompatmathcontinue"], mathNamePart),
    (["idstart", "ids"], nameStart),
    (["idcontinue", "idc"], namePart),
    (["xidstart", "xids"], difference nameStart (runs Text.unstableStarts)),
    (["xidcontinue", "xidc"], difference namePart (runs Text.unstableParts)),
    (["patternsyntax", "patsyn"], runs Text.syntaxSigns),
    (["patternwhitespace", "patws"],
      runs [⟨0x9, 0xD, 1⟩, ⟨0x20, 0x20, 1⟩, ⟨0x85, 0x85, 1⟩, ⟨0x200E, 0x200F, 1⟩,
        ⟨0x2028, 0x2029, 1⟩]),
    (["emoji"], emoji),
    (["emojicomponent", "ecomp"], emojiComponent),
    (["emojipresentation", "epres"], runs Text.colourfulEmoji),
    (["emojimodifier", "emod"], runs Text.emojiModifiers),
    (["emojimodifierbase", "ebase"], runs Text.modifiableEmoji),
    (["extendedpictographic", "extpict"], runs Text.pictographs),
    (["otheralphabetic", "oalpha"], otherAlphabetic),
    (["otherdefaultignorablecodepoint", "odi"], runs Text.otherIgnorable),
    (["othergraphemeextend", "ogrext"], otherExtender),
    (["otheridcontinue", "oidc"], runs Text.otherNameParts),
    (["otheridstart", "oids"], runs Text.otherNameStarts),
    (["otherlowercase", "olower"], runs Text.otherSmallLetters),
    (["othermath", "omath"], runs Text.otherMath),
    (["otheruppercase", "oupper"], runs Text.otherCapitals)]

/-- The characters with the property of a name. -/
def ofProperty? (name : String) : Option CharSet :=
  (binaryProperties.find? fun (names, _) => names.contains name).map (·.2)

end CubeQuery.CharSet
