import CubeQuery.Environment

/-!
# Arguments

The commands of the program form a tree: the program itself, its commands, and
the commands of `index` and `config`. Arguments are read from left to right. The
name of a command opens a new level, and every level takes the same options and
has its own values.

An option or a value can be wrong in itself, such as an empty path. That shows
only when the next argument of its level is handled, or at the end. So a request
for help or for the version in a command comes before a wrong value ahead of the
command.
-/

namespace CubeQuery

/-- A shell for which completions can be written (`Shell`). -/
inductive Shell where
  | bash
  | zsh
  | fish
  | powershell
deriving DecidableEq, Repr

/-- The shell with a name. -/
def Shell.ofName? (name : String) : Option Shell :=
  match name with
  | "bash" => some bash
  | "zsh" => some zsh
  | "fish" => some fish
  | "powershell" => some powershell
  | _ => none

/-- What the program is asked to do (`Commands`, `IndexCommands`, `ConfigCommands`). -/
inductive Command where
  | compile (clause : String)
  | fields
  | categories
  | listCards
  | showCard (card : String)
  | addCubes (card : String) (cubes : List String)
  | removeCubes (card : String) (cubes : List String)
  | showSettings
  | showSettingsPath
  | createSettings
  | changeSetting (key value : String)
  | completions (shell : Shell)
deriving DecidableEq, Repr

/-! ## The tree of commands -/

/-- A place in the tree of commands. -/
inductive Verb where
  | program
  | compile
  | fields
  | categories
  | index
  | indexList
  | indexShow
  | indexAdd
  | indexRemove
  | config
  | configShow
  | configPath
  | configInit
  | configSet
  | completions
deriving DecidableEq, Repr

namespace Verb

/-- The command that a word names at a place. -/
def child? (verb : Verb) (word : String) : Option Verb :=
  match verb with
  | program =>
    match word with
    | "compile" => some compile
    | "c" => some compile
    | "fields" => some fields
    | "categories" => some categories
    | "index" => some index
    | "config" => some config
    | "completions" => some completions
    | _ => none
  | index =>
    match word with
    | "list" => some indexList
    | "show" => some indexShow
    | "add" => some indexAdd
    | "remove" => some indexRemove
    | _ => none
  | config =>
    match word with
    | "show" => some configShow
    | "path" => some configPath
    | "init" => some configInit
    | "set" => some configSet
    | _ => none
  | _ => none

/-- Whether commands can follow. -/
def hasChildren (verb : Verb) : Bool := verb == program || verb == index || verb == config

/-- The name of the place, from the program on. -/
def fullName : Verb → String
  | program => "cubefilter"
  | compile => "cubefilter-compile"
  | fields => "cubefilter-fields"
  | categories => "cubefilter-categories"
  | index => "cubefilter-index"
  | indexList => "cubefilter-index-list"
  | indexShow => "cubefilter-index-show"
  | indexAdd => "cubefilter-index-add"
  | indexRemove => "cubefilter-index-remove"
  | config => "cubefilter-config"
  | configShow => "cubefilter-config-show"
  | configPath => "cubefilter-config-path"
  | configInit => "cubefilter-config-init"
  | configSet => "cubefilter-config-set"
  | completions => "cubefilter-completions"

/-- The greatest number of values at a place. Lists of cubes have no limit. -/
def valueLimit? : Verb → Option Nat
  | compile => some 1
  | indexShow => some 1
  | indexAdd => none
  | indexRemove => none
  | configSet => some 2
  | completions => some 1
  | _ => some 0

/-- The command at a place with its values, if there are enough of them. -/
def command? (verb : Verb) (values : List String) : Option Command :=
  match verb, values with
  | compile, [clause] => some (.compile clause)
  | fields, [] => some .fields
  | categories, [] => some .categories
  | index, [] => some .listCards
  | indexList, [] => some .listCards
  | indexShow, [card] => some (.showCard card)
  | indexAdd, card :: cube :: cubes => some (.addCubes card (cube :: cubes))
  | indexRemove, card :: cubes => some (.removeCubes card cubes)
  | config, [] => some .showSettings
  | configShow, [] => some .showSettings
  | configPath, [] => some .showSettingsPath
  | configInit, [] => some .createSettings
  | configSet, [key, value] => some (.changeSetting key value)
  | completions, [name] => (Shell.ofName? name).map .completions
  | _, _ => none

/-- Whether a value is wrong in itself. -/
def rejects (verb : Verb) (value : String) : Bool :=
  verb == completions && (Shell.ofName? value).isNone

/-- Whether words name a place below this one, or the help on it. -/
def knows : Verb → List String → Bool
  | _, [] => true
  | verb, word :: words =>
    match verb.child? word with
    | some child => child.knows words
    | none => word == "help" && verb.hasChildren && words.isEmpty

end Verb

/-! ## Levels -/

/-- A flag of every level. -/
inductive Flag where
  | verbose
  | quiet
  | json
  | noColour
deriving DecidableEq, Repr

/-- An option of every level. -/
inductive Choice where
  | flag (flag : Flag)
  /-- The path of the card index, which takes a value. -/
  | cards
  | help
  | version
deriving DecidableEq, Repr

/-- The option with a long name. -/
def Choice.ofName? (name : String) : Option Choice :=
  match name with
  | "verbose" => some (.flag .verbose)
  | "quiet" => some (.flag .quiet)
  | "json" => some (.flag .json)
  | "no-color" => some (.flag .noColour)
  | "cards" => some .cards
  | "help" => some .help
  | "version" => some .version
  | _ => none

/-- The option with a letter. -/
def Choice.ofLetter? (letter : Char) : Option Choice :=
  match letter with
  | 'v' => some (.flag .verbose)
  | 'q' => some (.flag .quiet)
  | 'h' => some .help
  | 'V' => some .version
  | _ => none

/-- Why no command is carried out. -/
inductive Stop where
  /-- The arguments are wrong. -/
  | usage
  | help (verb : Verb)
  | version (verb : Verb)
deriving DecidableEq, Repr

/-- What has been read of a level. -/
structure Level where
  verb : Verb
  flags : List Flag
  /-- The path of the card index, if it is given at this level. -/
  cards : Option String
  values : List String
  /-- The last value or option is wrong, which has not shown yet. -/
  fault : Bool
deriving DecidableEq, Repr

namespace Level

/-- A level of which nothing has been read. -/
def start (verb : Verb) : Level := ⟨verb, [], none, [], false⟩

/-- Handles an option without a value. -/
def choose (level : Level) (choice : Choice) : Except Stop Level :=
  if level.fault then .error .usage
  else
    match choice with
    | .flag flag =>
      if level.flags.contains flag then .error .usage
      else .ok { level with flags := level.flags ++ [flag] }
    | .cards => .error .usage
    | .help => .error (.help level.verb)
    | .version => .error (.version level.verb)

/-- Handles letters after one dash. -/
def chooseLetters (level : Level) : List Char → Except Stop Level
  | [] => .ok level
  | letter :: letters =>
    match Choice.ofLetter? letter with
    | none => .error .usage
    | some choice =>
      match level.choose choice with
      | .error stop => .error stop
      | .ok level' => chooseLetters level' letters

/-- Takes the path of the card index. -/
def setCards (level : Level) (path : String) : Level :=
  { level with cards := some path, fault := path.isEmpty || level.cards.isSome }

/-- Takes a value. -/
def addValue (level : Level) (value : String) : Except Stop Level :=
  if level.fault then .error .usage
  else if level.verb.valueLimit?.all (level.values.length < ·) then
    .ok { level with values := level.values ++ [value], fault := level.verb.rejects value }
  else .error .usage

/-- Whether the level is complete and consistent. A path of the card index in the
    environment stands for one that is not given. -/
def isSound (level : Level) (env : Environment) : Bool :=
  !level.fault && !(level.cards.isNone && env.cards == some "") &&
    !(level.flags.contains .verbose && level.flags.contains .quiet)

end Level

/-! ## Reading -/

/-- How the next argument is understood. -/
inductive Mode where
  | options
  /-- It is the path of the card index. -/
  | cardsPath
  /-- It is a value, whatever it looks like. -/
  | values
deriving DecidableEq, Repr

/-- The kinds of arguments. -/
inductive Argument where
  /-- Two dashes, after which there are only values. -/
  | divider
  | long (name : String) (value : Option String)
  | letters (letters : List Char)
  | word (text : String)
deriving DecidableEq, Repr

/-- The kind of an argument. A dash alone is a word. -/
def Argument.ofText (text : String) : Argument :=
  match text.toList with
  | ['-', '-'] => .divider
  | '-' :: '-' :: rest =>
    let name := String.ofList (rest.takeWhile (· ≠ '='))
    match rest.dropWhile (· ≠ '=') with
    | [] => .long name none
    | _ :: value => .long name (some (String.ofList value))
  | '-' :: c :: more => .letters (c :: more)
  | _ => .word text

/-- The levels that are open, the innermost first. -/
structure Levels where
  inner : Level
  outer : List Level
deriving DecidableEq, Repr

/-- What an argument leads to: the levels and the way to understand the next one. -/
abbrev Progress := Except Stop (Levels × Mode)

/-- Handles a long option. -/
def Levels.takeLong (levels : Levels) (name : String) (value : Option String) : Progress :=
  match Choice.ofName? name, value with
  | none, _ => .error .usage
  | some .cards, some path =>
    if levels.inner.fault || (levels.inner.setCards path).fault then .error .usage
    else .ok ({ levels with inner := levels.inner.setCards path }, .options)
  | some .cards, none =>
    if levels.inner.fault then .error .usage else .ok (levels, .cardsPath)
  | some _, some _ => .error .usage
  | some choice, none =>
    match levels.inner.choose choice with
    | .error stop => .error stop
    | .ok inner => .ok ({ levels with inner := inner }, .options)

/-- Handles a value, after which the next argument is understood in the same way. -/
def Levels.takeValue (levels : Levels) (value : String) (mode : Mode) : Progress :=
  match levels.inner.addValue value with
  | .error stop => .error stop
  | .ok inner => .ok ({ levels with inner := inner }, mode)

/-- Handles an argument where options and commands can stand. `rest` are the arguments after
    it. -/
def Levels.takeOption (levels : Levels) (text : String) (rest : List String) : Progress :=
  match levels.inner.verb.child? text with
  | some child => .ok (⟨Level.start child, levels.inner :: levels.outer⟩, .options)
  | none =>
    if text == "help" && levels.inner.verb.hasChildren then
      if levels.inner.verb.knows rest then .error (.help levels.inner.verb) else .error .usage
    else
      match Argument.ofText text with
      | .divider => .ok (levels, .values)
      | .long name value => levels.takeLong name value
      | .letters letters =>
        match levels.inner.chooseLetters letters with
        | .error stop => .error stop
        | .ok inner => .ok ({ levels with inner := inner }, .options)
      | .word text => levels.takeValue text .options

/-- Handles the path of the card index. -/
def Levels.takeCardsPath (levels : Levels) (text : String) : Progress :=
  match Argument.ofText text with
  | .word path => .ok ({ levels with inner := levels.inner.setCards path }, .options)
  | _ => .error .usage

/-- Reads arguments to their end. -/
def Levels.read (levels : Levels) (mode : Mode) : List String → Except Stop Levels
  | [] => if mode = .cardsPath then .error .usage else .ok levels
  | text :: rest =>
    let progress :=
      match mode with
      | .options => levels.takeOption text rest
      | .cardsPath => levels.takeCardsPath text
      | .values => levels.takeValue text .values
    match progress with
    | .error stop => .error stop
    | .ok (levels', mode') => levels'.read mode' rest

/-! ## Invocations -/

/-- How the outcome of a command is shown (the flags of `Cli`). -/
structure Presentation where
  verbose : Bool
  quiet : Bool
  json : Bool
  noColour : Bool
deriving DecidableEq, Repr

/-- A command, and what bears on its effects. -/
structure Request where
  command : Command
  /-- The path of the card index, if the arguments or the environment give one. -/
  cards : Option Path
deriving DecidableEq, Repr

/-- What arguments ask for. -/
structure Invocation where
  request : Request
  presentation : Presentation
deriving DecidableEq, Repr

/-- All levels, the innermost first. -/
def Levels.all (levels : Levels) : List Level := levels.inner :: levels.outer

/-- A flag counts at every level. -/
def Levels.presentation (levels : Levels) : Presentation :=
  let flags := levels.all.flatMap (·.flags)
  ⟨flags.contains .verbose, flags.contains .quiet, flags.contains .json,
    flags.contains .noColour⟩

/-- The path of the card index at the innermost level that has one, or else in the
    environment. -/
def Levels.cards (levels : Levels) (env : Environment) : Option Path :=
  ((levels.all.findSome? (·.cards)).or env.cards).map Path.mk

/-- What arguments ask for in an environment (`parse` of `Cli`). -/
def Invocation.ofArguments (env : Environment) (arguments : List String) :
    Except Stop Invocation :=
  match Levels.read ⟨Level.start .program, []⟩ .options arguments with
  | .error stop => .error stop
  | .ok levels =>
    if levels.all.all (·.isSound env) then
      match levels.inner.verb.command? levels.inner.values with
      | none => .error .usage
      | some command => .ok ⟨⟨command, levels.cards env⟩, levels.presentation⟩
    else .error .usage

end CubeQuery
