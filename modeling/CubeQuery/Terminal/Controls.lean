/-!
# Text without control sequences

What is left of a text when control sequences and control characters are taken
out, for a reader that is no terminal. A sequence starts with an escape
character, and the characters after it decide where it ends.
-/

namespace CubeQuery.Terminal

/-- What the characters before a place have started. -/
inductive Sequence where
  /-- Nothing. -/
  | ground
  /-- An escape character. -/
  | escape
  /-- An escape character and intermediate characters. -/
  | escapeMiddle
  /-- A sequence with parameters, of which nothing has been read. -/
  | entry
  | parameters
  /-- Intermediate characters after the parameters. -/
  | middle
  /-- A sequence with parameters that has gone wrong. -/
  | broken
  /-- A device control, of which nothing has been read. -/
  | deviceEntry
  | deviceParameters
  | deviceMiddle
  /-- A text for a device, up to a terminator. -/
  | string
  /-- A command for the system, up to a bell. -/
  | command
deriving DecidableEq, Repr

namespace Sequence

/-- Whether a code point lies between two others. -/
def within (n first last : Nat) : Bool := first ≤ n && n ≤ last

/-- Whether the UTF-8 form of a character that is not ASCII has the byte of the string
    terminator in it, which ends a text for a device. -/
def holdsTerminator (c : Char) : Bool :=
  let n := c.toNat
  0x80 ≤ n && (n % 64 == 0x1C || (3 ≤ c.utf8Size && n / 64 % 64 == 0x1C) ||
    (4 ≤ c.utf8Size && n / 4096 % 64 == 0x1C))

/-- What an escape character and a character after it start. -/
def afterEscape (n : Nat) : Sequence :=
  if within n 0x20 0x2F then escapeMiddle
  else if n == 0x50 then deviceEntry
  else if n == 0x58 || n == 0x5E || n == 0x5F then string
  else if n == 0x5B then entry
  else if n == 0x5D then command
  else if within n 0x30 0x7E then ground
  else escape

/-- What a character makes of what has been started. -/
def after (sequence : Sequence) (c : Char) : Sequence :=
  let n := c.toNat
  if n == 0x18 || n == 0x1A then ground
  else if n == 0x1B then escape
  else
    match sequence with
    | ground => ground
    | escape => afterEscape n
    | escapeMiddle => if within n 0x30 0x7E then ground else escapeMiddle
    | entry =>
      if within n 0x20 0x2F then middle
      else if within n 0x30 0x3F then parameters
      else if within n 0x40 0x7E then ground
      else entry
    | parameters =>
      if within n 0x20 0x2F then middle
      else if within n 0x3C 0x3F then broken
      else if within n 0x40 0x7E then ground
      else parameters
    | middle =>
      if within n 0x30 0x3F then broken else if within n 0x40 0x7E then ground else middle
    | broken => if within n 0x40 0x7E then ground else broken
    | deviceEntry =>
      if within n 0x20 0x2F then deviceMiddle
      else if within n 0x30 0x3F then deviceParameters
      else if within n 0x40 0x7E then string
      else deviceEntry
    | deviceParameters =>
      if within n 0x20 0x2F then deviceMiddle
      else if within n 0x3C 0x7E then string
      else deviceParameters
    | deviceMiddle => if within n 0x30 0x7E then string else deviceMiddle
    | string => if holdsTerminator c then ground else string
    | command => if n == 0x07 then ground else command

/-- A blank ASCII character that controls the layout. -/
def isLayout (c : Char) : Bool := c == '\t' || c == '\n' || c == '\x0c' || c == '\r'

/-- Whether a character is shown. Within a sequence that has no text of its own, the
    characters for the layout still are. -/
def shows (sequence : Sequence) (c : Char) : Bool :=
  match sequence with
  | ground => isLayout c || (0x20 ≤ c.toNat && c != '\x7f')
  | escape | escapeMiddle | entry | parameters | middle | broken => isLayout c
  | deviceEntry | deviceParameters | deviceMiddle | string | command => false

end Sequence

/-- What is started after a character that is shown: one that is not ASCII ends all that
    has been started. -/
def Sequence.afterShown (sequence : Sequence) (c : Char) : Sequence :=
  if 0x80 ≤ c.toNat then .ground else sequence

/-- What is started at a character that ends a stretch of shown characters. -/
def Sequence.afterStretch (sequence : Sequence) (c : Char) : Sequence :=
  if c = '\x18' || c = '\x1a' then .ground else if c = '\x1b' then .escape else sequence

/-- Takes control sequences and control characters out of a text, where `sequence` has
    been started. A stretch of shown characters goes on until one that is never shown,
    whatever has been started. -/
def stripFrom (sequence : Sequence) (inStretch : Bool) : List Char → List Char
  | [] => []
  | c :: rest =>
    if inStretch && Sequence.ground.shows c then
      c :: stripFrom (sequence.afterShown c) true rest
    else
      let sequence := if inStretch then sequence.afterStretch c else sequence
      if sequence.shows c then
        c :: stripFrom ((sequence.after c).afterShown c) true rest
      else stripFrom (sequence.after c) false rest

/-- Takes control sequences and control characters out of a text. -/
def strip (text : String) : String := String.ofList (stripFrom .ground false text.toList)

end CubeQuery.Terminal
