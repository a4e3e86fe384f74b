import CubeQuery.Regex.BreakProperty
import CubeQuery.Regex.Error
import CubeQuery.Text.Age
import CubeQuery.Text.SharedScript

/-!
# Names of Unicode properties

The classes of characters that a pattern can name by a property: the general
categories and their groups, scripts, versions of the standard, classes for dividing
text, and properties that a character has or has not, each under its short and its
long name. Case, blanks, hyphens and underscores in a name do not matter.
-/

namespace CubeQuery.Regex

open Text (GeneralCategory)

/-- What a pattern says about a property. -/
inductive PropertyQuery where
  | named (name : String)
  /-- A property and a value of it. -/
  | valued (name value : String)
deriving DecidableEq, Repr

/-- The letters and signs of a name that count. -/
def significant (name : List Char) : List Char :=
  (name.filter fun c => c.toNat < 0x80 && c ≠ ' ' && c ≠ '_' && c ≠ '-').map Char.toLower

/-- A name in the form in which names are compared. A leading `is` says nothing, except
    in `isc`, which is a name of its own. -/
def looseName (name : String) : String :=
  match name.toList with
  | i :: s :: rest =>
    if i.toLower = 'i' && s.toLower = 's' then
      if significant rest = ['c'] then "isc" else String.ofList (significant rest)
    else String.ofList (significant (i :: s :: rest))
  | letters => String.ofList (significant letters)

/-- The categories with a name. -/
def categoryNames : List (List String × List GeneralCategory) :=
  [(["l", "letter"], GeneralCategory.letters),
    (["lc", "casedletter"], [.upperLetter, .lowerLetter, .titleLetter]),
    (["lu", "uppercaseletter"], [.upperLetter]),
    (["ll", "lowercaseletter"], [.lowerLetter]),
    (["lt", "titlecaseletter"], [.titleLetter]),
    (["lm", "modifierletter"], [.modifierLetter]),
    (["lo", "otherletter"], [.otherLetter]),
    (["m", "mark", "combiningmark"], GeneralCategory.marks),
    (["mn", "nonspacingmark"], [.nonspacingMark]),
    (["mc", "spacingmark"], [.spacingMark]),
    (["me", "enclosingmark"], [.enclosingMark]),
    (["n", "number"], GeneralCategory.numbers),
    (["nd", "decimalnumber", "digit"], [.decimalDigit]),
    (["nl", "letternumber"], [.letterNumber]),
    (["no", "othernumber"], [.otherNumber]),
    (["p", "punctuation", "punct"], GeneralCategory.punctuations),
    (["pc", "connectorpunctuation"], [.connector]),
    (["pd", "dashpunctuation"], [.dash]),
    (["ps", "openpunctuation"], [.opening]),
    (["pe", "closepunctuation"], [.closing]),
    (["pi", "initialpunctuation"], [.initialQuote]),
    (["pf", "finalpunctuation"], [.finalQuote]),
    (["po", "otherpunctuation"], [.punctuation]),
    (["s", "symbol"], GeneralCategory.symbols),
    (["sm", "mathsymbol"], [.mathSymbol]),
    (["sc", "currencysymbol"], [.currencySymbol]),
    (["sk", "modifiersymbol"], [.modifierSymbol]),
    (["so", "othersymbol"], [.symbol]),
    (["z", "separator"], GeneralCategory.separators),
    (["zs", "spaceseparator"], [.space]),
    (["zl", "lineseparator"], [.lineSeparator]),
    (["zp", "paragraphseparator"], [.paragraphSeparator]),
    (["cc", "control", "cntrl"], [.control]),
    (["cf", "format"], [.format]),
    (["co", "privateuse"], [.privateUse])]

/-- The characters of the category with a loose name. Surrogates are a category without
    characters. -/
def categorySet? (name : String) : Option (Except Fault CharSet) :=
  if name = "any" then some (.ok CharSet.all)
  else if name = "ascii" then some (.ok (CharSet.interval '\x00' '\x7f'))
  else if name = "assigned" then some (.ok CharSet.assigned)
  else if name = "cn" || name = "unassigned" then some (.ok CharSet.assigned.complement)
  else if name = "c" || name = "other" then
    some (.ok (CharSet.union CharSet.assigned.complement
      (CharSet.ofCategories GeneralCategory.specials)))
  else if name = "cs" || name = "surrogate" then some (.error .propertyValueUnknown)
  else
    (categoryNames.find? fun (names, _) => names.contains name).map fun (_, categories) =>
      .ok (CharSet.ofCategories categories)

/-- The loose names of scripts to which no character belongs. -/
def emptyScriptNames : List String := ["zzzz", "unknown", "hrkt", "katakanaorhiragana"]

/-- The script with a loose name. -/
def script? (name : String) : Option Text.Script :=
  Text.scripts.find? fun script => (script.names.map looseName).contains name

/-- The characters of the script with a loose name. -/
def scriptSet? (name : String) : Option (Except Fault CharSet) :=
  if emptyScriptNames.contains name then some (.error .propertyValueUnknown)
  else (script? name).map fun script => .ok (CharSet.runs script.runs)

/-- The characters that the script with a loose name uses. What several scripts use is not
    left to the scripts for common and inherited characters. -/
def usedByScript? (name : String) : Option CharSet :=
  (script? name).map fun script =>
    let code := script.names.head?.getD ""
    let own := CharSet.runs script.runs
    if code = "Zyyy" || code = "Zinh" then
      own.difference (CharSet.runs (Text.sharedByScript.flatMap (·.2)))
    else own.union (CharSet.runs ((Text.sharedByScript.lookup code).getD []))

/-- The loose names of a version of the standard. -/
def ageNames (age : Text.Age) : List String :=
  [toString age.major ++ "." ++ toString age.minor,
    "v" ++ toString age.major ++ toString age.minor]

/-- The code points of the version with a loose name and of all versions before it. -/
def ageSet? (name : String) : Option CharSet :=
  let later := Text.ages.dropWhile fun age => !(ageNames age).contains name
  if later.isEmpty then none
  else
    let upTo := Text.ages.take (Text.ages.length - later.length + 1)
    some (CharSet.runs (upTo.flatMap (·.added)))

/-- The loose names of further properties, of which no values can be named. -/
def otherPropertyNames : List String :=
  ["accountingnumeric", "bc", "bidiclass", "bidimirroringglyph", "bidipairedbracket",
    "bidipairedbrackettype", "blk", "block", "bmg", "bpb", "bpt", "canonicalcombiningclass",
    "casefolding", "ccc", "ce", "cf", "changeswhennfkccasefolded", "cjkaccountingnumeric",
    "cjkcompatibilityvariant", "cjkiicore", "cjkirggsource", "cjkirghsource", "cjkirgjsource",
    "cjkirgkpsource", "cjkirgksource", "cjkirgmsource", "cjkirgssource", "cjkirgtsource",
    "cjkirguksource", "cjkirgusource", "cjkirgvsource", "cjkothernumeric", "cjkprimarynumeric",
    "cjkrsunicode", "compex", "compositionexclusion", "cwkcf", "decompositionmapping",
    "decompositiontype", "dm", "dt", "ea", "eastasianwidth", "equideo",
    "equivalentunifiedideograph", "expandsonnfc", "expandsonnfd", "expandsonnfkc",
    "expandsonnfkd", "fcnfkc", "fcnfkcclosure", "fullcompositionexclusion",
    "hangulsyllabletype", "hst", "incb", "indicconjunctbreak", "indicpositionalcategory",
    "indicsyllabiccategory", "inpc", "insc", "isc", "isocomment", "jamoshortname", "jg",
    "joininggroup", "joiningtype", "jsn", "jt", "kaccountingnumeric", "kcompatibilityvariant",
    "kiicore", "kirggsource", "kirghsource", "kirgjsource", "kirgkpsource", "kirgksource",
    "kirgmsource", "kirgssource", "kirgtsource", "kirguksource", "kirgusource", "kirgvsource",
    "kothernumeric", "kprimarynumeric", "krsunicode", "lb", "lc", "linebreak",
    "lowercasemapping", "na", "na1", "name", "namealias", "nfcqc", "nfcquickcheck", "nfdqc",
    "nfdquickcheck", "nfkccasefold", "nfkccf", "nfkcqc", "nfkcquickcheck", "nfkcscf",
    "nfkcsimplecasefold", "nfkdqc", "nfkdquickcheck", "nt", "numerictype", "numericvalue", "nv",
    "scf", "sfc", "simplecasefolding", "simplelowercasemapping", "simpletitlecasemapping",
    "simpleuppercasemapping", "slc", "stc", "suc", "tc", "titlecasemapping", "uc",
    "unicode1name", "unicoderadicalstroke", "uppercasemapping", "urs", "verticalorientation",
    "vo", "xonfc", "xonfd", "xonfkc", "xonfkd"]

/-- The characters with a value of a property, both with loose names. -/
def valuedSet (property value : String) : Except Fault CharSet :=
  let found (chars? : Option CharSet) : Except Fault CharSet :=
    (chars?.map .ok).getD (.error .propertyValueUnknown)
  if ["gc", "generalcategory"].contains property then
    (categorySet? value).getD (.error .propertyValueUnknown)
  else if ["sc", "script"].contains property then
    (scriptSet? value).getD (.error .propertyValueUnknown)
  else if ["scx", "scriptextensions"].contains property then found (usedByScript? value)
  else if property = "age" then found (ageSet? value)
  else if ["gcb", "graphemeclusterbreak"].contains property then
    found (CharSet.ofClass? CharSet.clusterClasses value)
  else if ["wb", "wordbreak"].contains property then
    found (CharSet.ofClass? CharSet.wordClasses value)
  else if ["sb", "sentencebreak"].contains property then
    found (CharSet.ofClass? CharSet.sentenceClasses value)
  else if otherPropertyNames.contains property || (CharSet.ofProperty? property).isSome then
    .error .propertyValueUnknown
  else .error .propertyUnknown

/-- The characters with a property. -/
def PropertyQuery.chars : PropertyQuery → Except Fault CharSet
  | named name =>
    let name := looseName name
    match CharSet.ofProperty? name with
    | some chars => .ok chars
    | none => ((categorySet? name).or (scriptSet? name)).getD (.error .propertyUnknown)
  | valued property value => valuedSet (looseName property) (looseName value)

end CubeQuery.Regex
