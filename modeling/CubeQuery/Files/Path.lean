/-!
# Paths

A path is a text whose segments are separated by slashes. Empty segments and
segments `.` after the start mean nothing, so `a//b/.` is in the directory `a`.
-/

namespace CubeQuery

/-- A path of a file or directory. -/
structure Path where
  text : String
deriving DecidableEq, Repr

namespace Path

/-- The segments between the slashes of a text. -/
def splitSlash : List Char → List (List Char)
  | [] => [[]]
  | c :: rest =>
    if c = '/' then [] :: splitSlash rest
    else
      match splitSlash rest with
      | [] => [[c]]
      | segment :: segments => (c :: segment) :: segments

/-- Segments with slashes between them. -/
def joinSlash (segments : List (List Char)) : List Char := List.intercalate ['/'] segments

/-- A segment that means nothing. -/
def isVoid (segment : List Char) : Bool := segment.isEmpty || segment == ['.']

/-- A path in parts: a slash or a dot at its start, and the segments after that without
    void ones at the end. -/
structure Parts where
  lead : List Char
  segments : List (List Char)

/-- Cuts off void segments at the end. -/
def dropVoid (segments : List (List Char)) : List (List Char) :=
  (segments.reverse.dropWhile isVoid).reverse

/-- The parts of a path. -/
def parts (path : Path) : Parts :=
  match path.text.toList with
  | '/' :: rest => ⟨['/'], dropVoid (splitSlash rest)⟩
  | ['.'] => ⟨['.'], []⟩
  | '.' :: '/' :: rest => ⟨['.'], dropVoid ([] :: splitSlash rest)⟩
  | cs => ⟨[], dropVoid (splitSlash cs)⟩

/-- The path of parts. -/
def ofParts (parts : Parts) : Path :=
  ⟨String.ofList (parts.lead ++ joinSlash (dropVoid parts.segments))⟩

/-- The directory that holds the path. A path of a dot alone is held by the empty path,
    and the root and the empty path by none. -/
def parent? (path : Path) : Option Path :=
  let parts := path.parts
  match parts.segments.reverse with
  | _ :: outer => some (ofParts ⟨parts.lead, outer.reverse⟩)
  | [] => if parts.lead = ['.'] then some ⟨""⟩ else none

/-- The last segment, if it names something in its directory. -/
def fileName? (path : Path) : Option (List Char) :=
  match path.parts.segments.reverse with
  | name :: _ => if name = ['.', '.'] then none else some name
  | [] => none

/-- A file name in its stem and its extension, the text after its last dot. A dot at the
    start opens no extension. -/
def splitExtension (name : List Char) : List Char × Option (List Char) :=
  match (name.reverse.dropWhile (· ≠ '.')).reverse with
  | [] => (name, none)
  | ['.'] => (name, none)
  | stem => (stem.dropLast, some (name.drop stem.length))

/-- The path with an extension after the stem of its file name. A path without a file
    name stays as it is. -/
def setExtension (path : Path) (extension : String) : Path :=
  match path.fileName? with
  | none => path
  | some name =>
    let stem := (splitExtension name).1
    let parts := path.parts
    ⟨String.ofList (parts.lead ++ joinSlash
      (parts.segments.dropLast ++ [stem ++ ('.' :: extension.toList)]))⟩

/-- The path with an extension in place of the one that it has. As many characters as the
    old extension has are cut off the end of the path first. -/
def withExtension (path : Path) (extension : String) : Path :=
  match path.fileName? with
  | none => path
  | some name =>
    match (splitExtension name).2 with
    | none => path.setExtension extension
    | some old =>
      let cs := path.text.toList
      setExtension ⟨String.ofList (cs.take (cs.length - old.length))⟩ extension

/-- The path of a name in a directory. The empty path adds no slash. -/
def join (directory : Path) (name : String) : Path :=
  if directory.text.isEmpty || directory.text.toList.getLast? = some '/' then
    ⟨directory.text ++ name⟩
  else ⟨directory.text ++ "/" ++ name⟩

/-- Whether the path starts at the root. -/
def isAbsolute (path : Path) : Bool := path.text.toList.head? = some '/'

/-- The path and the directories that hold it, up to `count` of them. -/
def ancestorsUpTo : Nat → Path → List Path
  | 0, _ => []
  | count + 1, path =>
    path :: match path.parent? with
      | some outer => ancestorsUpTo count outer
      | none => []

/-- The path and all the directories that hold it, from the inside to the outside. -/
def ancestors (path : Path) : List Path := ancestorsUpTo (path.text.length + 1) path

end Path

end CubeQuery
