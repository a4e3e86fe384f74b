import CubeQuery.CommandLine.Completions
import CubeQuery.CommandLine.Perform
import CubeQuery.Terminal

/-!
# Reports

How the outcome of a command is shown: as a JSON document for programs or as a
page for people, with or without colours.
-/

namespace CubeQuery

open Terminal (Span plain)

/-- What a run prints, and its exit code. -/
structure Output where
  exitCode : Nat
  stdout : String
  stderr : String
deriving DecidableEq, Repr

/-! ## Documents -/

namespace Field

/-- The document of a field. -/
def document (field : Field) : Json :=
  .object [("name", .text field.name), ("kind", .text field.kind.name),
    ("operators", .text field.operatorSymbols), ("output_fields", .texts field.targets),
    ("description", .text field.description)]

end Field

namespace Settings

/-- The document of the settings. What is not set is left out. -/
def document (settings : Settings) : Json :=
  .object
    ((match settings.cardIndex with
      | some path => [("card_index", .text path)]
      | none => []) ++
    [("output", .object
      (match settings.colour with
        | some b => [("color", .bool b)]
        | none => [])),
      ("version", .int 1)])

end Settings

/-- The document of a card and its cubes (`format_card_json`). -/
def cardDocument (card : String) (cubes : TextSet) : Json :=
  .object [("card", .text card), ("cubes", .texts cubes.toList)]

namespace Reply

/-- The document of a reply. Completions have none. -/
def document? : Reply → Option Json
  | compiled filter => some (Filter.response (.ok filter))
  | fields => some (.array (Field.all.map Field.document))
  | categories =>
    some (.object [("override", .texts Category.overrideNames),
      ("prefix", .texts Category.leadingNames)])
  | cards index =>
    some (.object [("cards", .array (index.entries.map fun (name, cubes) =>
      cardDocument name cubes))])
  | card name cubes => some (cardDocument name cubes)
  | added name count cubes =>
    some (.object [("added", .int count), ("card", .text name),
      ("cubes", match cubes with
        | some cubes => .texts cubes.toList
        | none => .null),
      ("status", .text "success")])
  | removed name count =>
    some (.object [("card", .text name), ("removed", .int count), ("status", .text "success")])
  | settings path isPresent held =>
    some (.object [("config", held.document), ("exists", .bool isPresent),
      ("path", .text path.text)])
  | settingsPath path isPresent =>
    some (.object [("exists", .bool isPresent), ("path", .text path.text)])
  | settingsCreated path isNew =>
    some (.object [("created", .bool isNew), ("path", .text path.text)])
  | settingChanged key value path =>
    some (.object [("key", .text key), ("path", .text path.text), ("status", .text "success"),
      ("value", .text value)])
  | completions _ => none

end Reply

/-- The document of a failure. -/
def Failure.document [Wording] (failure : Failure) : Json :=
  .object [("error", .object [("code", .text failure.code), ("message", .text failure.message)])]

/-! ## Pages -/

/-- An indented line. -/
def indented (text : String) : Span := plain ("  " ++ text ++ "\n")

/-- The page of a compiled filter (`format_compiled_table`). -/
def filterPage (filter : Filter) : List Span :=
  [⟨.heading, "Query"⟩, plain ("\n" ++ filter.query.document.render ++ "\n\n"),
    ⟨.heading, "Fields used"⟩, plain "\n"] ++
  filter.fieldsUsed.toList.flatMap fun field => [plain "  ", ⟨.accent, field⟩, plain "\n"]

/-- The page of a table of fields (`format_fields_table`). -/
def fieldsPage (fields : List Field) : List Span :=
  [⟨.faint, Text.padRight 10 "Field" ++ " " ++ Text.padRight 12 "Kind" ++ " " ++
      Text.padRight 4 "Ops" ++ " Description"⟩, plain "\n"] ++
  fields.flatMap fun field =>
    [⟨.accent, Text.padRight 10 field.name⟩,
      plain (" " ++ Text.padRight 12 field.kind.name ++ " " ++
        Text.padRight 4 field.operatorSymbols ++ " " ++ field.description ++ "\n")]

/-- The page of two lists of categories (`format_categories_table`). -/
def categoriesPage (override leading : List String) : List Span :=
  [⟨.heading, "Override categories"⟩, plain "\n"] ++ override.map indented ++
    [plain "\n", ⟨.heading, "Prefix categories"⟩, plain "\n"] ++ leading.map indented

/-- The page of an index: its cards and the number of cubes of each (`format_index_table`). -/
def indexPage (index : CardIndex) : List Span :=
  if index.isEmpty then [plain "No cards indexed.\n"]
  else
    [⟨.faint, Text.padRight 30 "Card" ++ " Cubes"⟩, plain "\n"] ++
    index.entries.map fun (card, cubes) =>
      plain (Text.padRight 30 card ++ " " ++ toString cubes.size ++ "\n")

/-- The page of a card and its cubes (`format_card_table`). -/
def cardPage (card : String) (cubes : TextSet) : List Span :=
  [⟨.strong, card⟩, plain "\n"] ++
    (if cubes.isEmpty then [indented "(not in any cube)"] else []) ++
    cubes.toList.map indented

/-- The page of the settings (`execute_show`). -/
def settingsPage (path : Path) (isPresent : Bool) (settings : Settings) : List Span :=
  [⟨.heading, "Configuration"⟩, plain "\n\n",
    plain ("File: " ++ path.text ++ "\n"),
    plain ("Exists: " ++ Settings.wordOfFlag isPresent ++ "\n\n")] ++
  if isPresent then
    [plain "Settings:\n"] ++
      (match settings.cardIndex with
        | some path => [indented ("card_index: " ++ path)]
        | none => []) ++
      [plain "\n[output]\n"] ++
      (match settings.colour with
        | some b => [indented ("color: " ++ Settings.wordOfFlag b)]
        | none => [])
  else [plain "(No config file exists. Run 'cubefilter config init' to create one.)\n"]

namespace Reply

/-- The page of a reply. -/
def page : Reply → List Span
  | compiled filter => filterPage filter
  | fields => fieldsPage Field.all
  | categories => categoriesPage Category.overrideNames Category.leadingNames
  | cards index => indexPage index
  | card name cubes => cardPage name cubes
  | added name count _ =>
    [plain ("Added " ++ toString count ++ " cube(s) to '" ++ name ++ "'\n")]
  | removed name count =>
    [plain ("Removed " ++ toString count ++ " cube(s) from '" ++ name ++ "'\n")]
  | settings path isPresent held => settingsPage path isPresent held
  | settingsPath path _ => [plain (path.text ++ "\n")]
  | settingsCreated path true => [plain ("Created default config at: " ++ path.text ++ "\n")]
  | settingsCreated path false => [plain ("Config already exists at: " ++ path.text ++ "\n")]
  | settingChanged key value _ => [plain ("Set " ++ key ++ " = " ++ value ++ "\n")]
  | completions shell => [plain shell.script]

/-- Whether a page is printed even when the program is to be quiet. -/
def isEssential : Reply → Bool
  | settingsPath .. => true
  | completions _ => true
  | _ => false

/-- What is printed for a reply. -/
def shown (presentation : Presentation) (colour : Bool) (reply : Reply) : String :=
  match presentation.json, reply.document? with
  | true, some document => document.render ++ "\n"
  | _, _ =>
    if presentation.quiet && !reply.isEssential then ""
    else Terminal.render (colour && !presentation.noColour) reply.page

end Reply

/-! ## Outcomes -/

/-- What is printed for a failure (the end of `main`). In a document, the reason why a clause has
    no filter is an answer like the filter itself. -/
def Failure.output [Wording] (presentation : Presentation) (failure : Failure) : Output :=
  if presentation.json then
    match failure with
    | .filter cause => ⟨failure.exitCode, (Filter.response (.error cause)).render ++ "\n", ""⟩
    | _ => ⟨failure.exitCode, "", failure.document.render ++ "\n"⟩
  else ⟨failure.exitCode, "", "Error: " ++ failure.message ++ "\n"⟩

/-- What is printed for an outcome. -/
def Outcome.output [Wording] (presentation : Presentation) (outcome : Outcome) : Output :=
  match outcome.result with
  | .ok reply => ⟨0, reply.shown presentation outcome.colour, ""⟩
  | .error failure => failure.output presentation

/-! ## Runs without a command -/

/-- The version of the program. -/
def programVersion : String := "0.1.0"

/-- The summary of the arguments, in place of the longer help of an argument parser. -/
def usageText : String :=
  "Usage: cubefilter [-v | -q] [--json] [--no-color] [--cards PATH] COMMAND\n\n" ++
  "Commands:\n" ++
  "  compile CLAUSE\n" ++
  "  fields\n" ++
  "  categories\n" ++
  "  index [list | show CARD | add CARD CUBE... | remove CARD [CUBE...]]\n" ++
  "  config [show | path | init | set KEY VALUE]\n" ++
  "  completions bash|zsh|fish|powershell\n"

/-- What is printed when no command is carried out. -/
def Stop.output : Stop → Output
  | usage => ⟨2, "", usageText⟩
  | help _ => ⟨0, usageText, ""⟩
  | version verb => ⟨0, verb.fullName ++ " " ++ programVersion ++ "\n", ""⟩

end CubeQuery
