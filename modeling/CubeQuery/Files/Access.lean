import CubeQuery.Files.Path

/-!
# File operations

The operations on files that the program needs, as a class over the monads in
which they can run, and the operations that follow from them.
-/

namespace CubeQuery

/-- Why a file operation failed. -/
inductive FileError where
  | notFound
  | notDirectory
  | isDirectory
  | alreadyExists
  | busy
  | nameTooLong
  /-- The path holds the character that ends paths. -/
  | zeroInPath
  /-- The content is no text. -/
  | notText
  /-- No directory holds the path. -/
  | rootless
  /-- A reason of the system's own. -/
  | system (reason : String)
deriving DecidableEq, Repr

/-- The message for people. -/
def FileError.message : FileError → String
  | notFound => "No such file or directory (os error 2)"
  | notDirectory => "Not a directory (os error 20)"
  | isDirectory => "Is a directory (os error 21)"
  | alreadyExists => "File exists (os error 17)"
  | busy => "Device or resource busy (os error 16)"
  | nameTooLong => "File name too long (os error 36)"
  | zeroInPath => "file name contained an unexpected NUL byte"
  | notText => "stream did not contain valid UTF-8"
  | rootless => "failed to create whole tree"
  | system reason => reason

/-- A monad with file operations. -/
class FileAccess (m : Type → Type) where
  /-- Whether something is at the path. -/
  isPresent : Path → m Bool
  /-- Whether a directory is at the path. -/
  isDirectory : Path → m Bool
  /-- The content of a file. -/
  readBytes : Path → m (Except FileError ByteArray)
  /-- Gives a file a content, in place of any that it had. -/
  writeBytes : Path → ByteArray → m (Except FileError Unit)
  /-- Makes a directory in a directory that is there. -/
  makeDirectory : Path → m (Except FileError Unit)
  /-- Gives a file another path, in place of any file there. -/
  rename : Path → Path → m (Except FileError Unit)

namespace FileAccess

variable {m : Type → Type} [Monad m] [FileAccess m]

/-- The content of a file as a text. -/
def readText (path : Path) : m (Except FileError String) := do
  match ← readBytes path with
  | .error e => pure (.error e)
  | .ok bytes =>
    match String.fromUTF8? bytes with
    | some text => pure (.ok text)
    | none => pure (.error .notText)

/-- Gives a file a text as its content. -/
def writeText (path : Path) (text : String) : m (Except FileError Unit) :=
  writeBytes path text.toUTF8

/-- An error counts only if no directory is at the path. -/
def unlessDirectory (path : Path) (e : FileError) : m (Except FileError Unit) := do
  if ← isDirectory path then pure (.ok ()) else pure (.error e)

/-- Makes the first of some directories, where each is held by the next. -/
def makeInnermost : List Path → m (Except FileError Unit)
  | [] => pure (.error .rootless)
  | path :: outer => do
    if path.text.isEmpty then pure (.ok ())
    else
      match ← makeDirectory path with
      | .ok () => pure (.ok ())
      | .error .notFound =>
        match ← makeInnermost outer with
        | .error e => pure (.error e)
        | .ok () =>
          match ← makeDirectory path with
          | .ok () => pure (.ok ())
          | .error e => unlessDirectory path e
      | .error e => unlessDirectory path e

/-- Makes a directory and all directories that hold it. -/
def makeDirectories (path : Path) : m (Except FileError Unit) := makeInnermost path.ancestors

end FileAccess

end CubeQuery
