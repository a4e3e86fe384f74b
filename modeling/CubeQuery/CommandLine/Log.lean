import CubeQuery.CommandLine.Arguments
import CubeQuery.Event
import CubeQuery.Regex.Parser
import CubeQuery.Terminal
import CubeQuery.Terminal.Controls
import CubeQuery.Text.Blank
import CubeQuery.Text.Case

/-!
# Log lines

Which events of a run are shown, and how. A specification in the environment is
a list of directives, each a level, the start of an origin, or both with an
equals sign between them. The directive with the longest start of an event's
origin decides on the event. After a slash there can be a regular expression
that has to match in the message.

A line is shown in colours, or else without control sequences and control
characters.
-/

namespace CubeQuery

/-- The levels of detail, each with all those before it. -/
inductive LogLevel where
  | off
  | error
  | warn
  | info
  | debug
  | trace
deriving DecidableEq, Repr

/-- The level with a name in any case of ASCII letters. -/
def LogLevel.ofName? (name : String) : Option LogLevel :=
  ([("off", off), ("error", error), ("warn", warn), ("info", info), ("debug", debug),
    ("trace", trace)].find? fun (known, _) => Text.sameIgnoringAsciiCase known name).map (·.2)

/-- Whether events are shown at a level. -/
def LogLevel.showsEvents (level : LogLevel) : Bool := level == debug || level == trace

/-- The level for events whose origin starts with a name. -/
structure Directive where
  origin : Option String
  level : LogLevel
deriving DecidableEq, Repr

/-- What decides on the events that are shown. -/
structure LogFilter where
  directives : List Directive
  /-- An expression that has to match in the message. -/
  matching : Option Regex
  /-- What was wrong with a specification. -/
  complaints : List String
  /-- Whether lines are coloured. -/
  coloured : Bool

/-- A directive, or what is wrong with its text. -/
def Directive.ofText (text : String) : Except String Directive :=
  match text.splitOn "=" with
  | [name] =>
    match LogLevel.ofName? name with
    | some level => .ok ⟨none, level⟩
    | none => .ok ⟨some name, .trace⟩
  | [name, levelText] =>
    let levelName := String.ofList (Text.trim levelText.toList)
    if levelName.isEmpty then .ok ⟨some name, .trace⟩
    else
      match LogLevel.ofName? levelName with
      | some level => .ok ⟨some name, level⟩
      | none => .error ("invalid logging spec '" ++ levelName ++ "'")
  | _ => .error ("invalid logging spec '" ++ text ++ "'")

namespace LogFilter

/-- Adds a directive in place of one for the same origin. -/
def add (filter : LogFilter) (directive : Directive) : LogFilter :=
  { filter with
    directives :=
      if filter.directives.any (·.origin = directive.origin) then
        filter.directives.map fun d => if d.origin = directive.origin then directive else d
      else filter.directives ++ [directive] }

/-- Notes what is wrong with a specification. -/
def complain (filter : LogFilter) (complaint : String) : LogFilter :=
  { filter with complaints := filter.complaints ++ [complaint] }

/-- Adds the directive of a text. Blank texts add nothing. -/
def addText (filter : LogFilter) (text : String) : LogFilter :=
  let text := String.ofList (Text.trim text.toList)
  if text.isEmpty then filter
  else
    match Directive.ofText text with
    | .ok directive => filter.add directive
    | .error complaint => filter.complain complaint

/-- Adds a list of directives. -/
def addDirectives (filter : LogFilter) (directives : String) : LogFilter :=
  (directives.splitOn ",").foldl addText filter

/-- Adds a pattern that has to match in messages. -/
def addPattern (filter : LogFilter) (pattern : String) : LogFilter :=
  match Regex.ofPattern pattern with
  | .ok regex => { filter with matching := some regex }
  | .error refusal =>
    filter.complain ("invalid regex filter - " ++ refusal.message pattern)

/-- Adds a whole specification. -/
def addSpecification (filter : LogFilter) (specification : String) : LogFilter :=
  match specification.splitOn "/" with
  | [directives] => filter.addDirectives directives
  | [directives, pattern] => (filter.addDirectives directives).addPattern pattern
  | _ => filter.complain ("invalid logging spec '" ++ specification ++ "' (too many '/'s)")

/-- The level that the flags ask for (`init_logger`). -/
def levelOf (presentation : Presentation) : LogLevel :=
  if presentation.verbose then .debug else if presentation.quiet then .error else .warn

/-- The filter of a run (`init_logger`). -/
def ofRun (env : Environment) (presentation : Presentation) : LogFilter :=
  let base : LogFilter := ⟨[⟨none, levelOf presentation⟩], none, [], env.hasColouredLog⟩
  match env.logging with
  | some specification => base.addSpecification specification
  | none => base

/-- The number of characters that a directive fixes of an origin. -/
def Directive.weight (directive : Directive) : Nat :=
  (directive.origin.map String.utf8ByteSize).getD 0

/-- The heavier of two directives, and of two of equal weight the second. -/
def heavier (a b : Directive) : Directive :=
  if Directive.weight b < Directive.weight a then a else b

/-- The directive that decides on events of an origin. -/
def deciding? (filter : LogFilter) (origin : String) : Option Directive :=
  let applicable := filter.directives.filter fun d =>
    d.origin.all fun name => name.toList.isPrefixOf origin.toList
  match applicable with
  | [] => none
  | first :: rest => some (rest.foldl heavier first)

/-- Whether an event is shown. -/
def shows (filter : LogFilter) (event : Event) : Bool :=
  (filter.deciding? event.origin).any (·.level.showsEvents) &&
    filter.matching.all (·.isMatch event.message)

/-- The message of an event with further lines indented. -/
def indented (message : String) : String :=
  String.ofList (message.toList.flatMap fun c =>
    if c = '\n' then ['\n', ' ', ' ', ' ', ' '] else [c])

/-- The line of an event as a page. -/
def pageOf (event : Event) : List Terminal.Span :=
  [⟨.muted, "["⟩, ⟨.calm, "DEBUG"⟩, Terminal.plain (" " ++ event.origin), ⟨.muted, "]"⟩,
    Terminal.plain (" " ++ indented event.message ++ "\n")]

/-- The line of an event. -/
def lineOf (filter : LogFilter) (event : Event) : String :=
  let line := Terminal.render filter.coloured (pageOf event)
  if filter.coloured then line else Terminal.strip line

/-- The lines of the events that are shown. -/
def lines (filter : LogFilter) (events : List Event) : String :=
  String.join ((events.filter filter.shows).map filter.lineOf)

/-- The lines that tell what was wrong with a specification. -/
def warnings (filter : LogFilter) : String :=
  String.join (filter.complaints.map fun complaint => "warning: " ++ complaint ++ ", ignoring it\n")

end LogFilter

end CubeQuery
