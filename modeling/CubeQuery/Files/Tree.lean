import CubeQuery.Files.Access

/-!
# Trees of files

A model of a file system: the nodes below a root, each at the list of the names
that lead to it. The root is the working directory as well, so a leading slash
makes no difference.
-/

namespace CubeQuery

/-- What is at a place of a tree. -/
inductive Node where
  | directory
  | file (content : ByteArray)

/-- A tree of files. The root is not listed. -/
structure FileTree where
  nodes : List (List String × Node)

namespace FileTree

/-- The names that lead from the root to a node. -/
abbrev Place := List String

/-- The root alone. -/
def empty : FileTree := ⟨[]⟩

instance : Inhabited FileTree := ⟨empty⟩

/-- The node at a place. -/
def node? (tree : FileTree) (place : Place) : Option Node :=
  if place.isEmpty then some .directory else tree.nodes.lookup place

/-- Whether a directory is at a place. -/
def hasDirectory (tree : FileTree) (place : Place) : Bool :=
  match tree.node? place with
  | some .directory => true
  | _ => false

/-- The tree without the node at a place. -/
def clear (tree : FileTree) (place : Place) : FileTree :=
  ⟨tree.nodes.filter (·.1 ≠ place)⟩

/-- The tree with a node at a place. -/
def put (tree : FileTree) (place : Place) (node : Node) : FileTree :=
  ⟨(tree.clear place).nodes ++ [(place, node)]⟩

/-- The tree without a node and all that is below it. -/
def clearBelow (tree : FileTree) (place : Place) : FileTree :=
  ⟨tree.nodes.filter fun (p, _) => p.take place.length ≠ place⟩

theorem lookup_filter_ne {β : Type} (place q : Place) (nodes : List (Place × β)) :
    (nodes.filter (·.1 ≠ place)).lookup q = if q = place then none else nodes.lookup q := by
  induction nodes with
  | nil => simp
  | cons entry nodes ih =>
    obtain ⟨p, b⟩ := entry
    by_cases hp : p = place <;> by_cases hq : q = p <;> grind

/-- Clearing a place other than the root takes away what was there and nothing else. -/
theorem node?_clear (tree : FileTree) {place : Place} (h : place ≠ []) (q : Place) :
    (tree.clear place).node? q = if q = place then none else tree.node? q := by
  unfold node? clear
  rw [lookup_filter_ne]
  cases q <;> grind

/-- A node put at a place other than the root is there, and nothing else changes. -/
theorem node?_put (tree : FileTree) {place : Place} (h : place ≠ []) (node : Node) (q : Place) :
    (tree.put place node).node? q = if q = place then some node else tree.node? q := by
  have hc := node?_clear tree h q
  unfold node? at *
  unfold put
  rw [List.lookup_append]
  cases q <;> grind

/-! ## From paths to places -/

/-- The greatest number of bytes in a name. -/
def nameLimit : Nat := 255

/-- The number of bytes that a path has to stay below. -/
def pathLimit : Nat := 4096

/-- The place of a name seen from a directory. -/
def child (directory : Place) (name : String) : Place :=
  if name = "." then directory
  else if name = ".." then directory.dropLast
  else directory ++ [name]

/-- A name that leads to a directory on the way and not into a directory. -/
def isDots (name : String) : Bool := name == "." || name == ".."

/-- Goes from a directory to a name. -/
def enter (tree : FileTree) (directory : Place) (name : String) : Except FileError Place :=
  if nameLimit < name.utf8ByteSize then .error .nameTooLong
  else
    let place := child directory name
    if (tree.node? place).isSome then .ok place else .error .notFound

/-- Goes from a directory through names of directories. -/
def walk (tree : FileTree) (directory : Place) : List String → Except FileError Place
  | [] => .ok directory
  | name :: names =>
    match tree.enter directory name with
    | .error e => .error e
    | .ok place => if tree.hasDirectory place then tree.walk place names else .error .notDirectory

/-- Where a path leads: a directory, the last name of the path, and whether a slash
    follows it. The root has no last name. -/
structure Target where
  directory : Place
  name : Option String
  slash : Bool

/-- The names of a path. -/
def names (path : Path) : List String :=
  ((Path.splitSlash path.text.toList).filter (!·.isEmpty)).map String.ofList

/-- Goes to the directory of a path's last name. -/
def approach (tree : FileTree) (path : Path) : Except FileError Target :=
  if path.text.toList.contains '\x00' then .error .zeroInPath
  else if path.text.isEmpty then .error .notFound
  else if pathLimit ≤ path.text.utf8ByteSize then .error .nameTooLong
  else
    let names := names path
    match tree.walk [] names.dropLast with
    | .error e => .error e
    | .ok directory =>
      .ok ⟨directory, names.getLast?, path.text.toList.getLast? = some '/'⟩

/-- Goes to the place of a path. -/
def locate (tree : FileTree) (path : Path) : Except FileError Place :=
  match tree.approach path with
  | .error e => .error e
  | .ok ⟨directory, none, _⟩ => .ok directory
  | .ok ⟨directory, some name, slash⟩ =>
    match tree.enter directory name with
    | .error e => .error e
    | .ok place =>
      if slash && !tree.hasDirectory place then .error .notDirectory else .ok place

/-- Goes to the place that a path gives to something new. A path that ends with the root,
    a dot or two dots gives none, and `atDots` is the error then. -/
def placeFor (tree : FileTree) (path : Path) (atDots : FileError) :
    Except FileError (Place × Bool) :=
  match tree.approach path with
  | .error e => .error e
  | .ok ⟨_, none, _⟩ => .error atDots
  | .ok ⟨directory, some name, slash⟩ =>
    if isDots name then .error atDots
    else if nameLimit < name.utf8ByteSize then .error .nameTooLong
    else .ok (directory ++ [name], slash)

/-! ## Operations -/

/-- Whether something is at a path. -/
def isPresent (tree : FileTree) (path : Path) : Bool := (tree.locate path).toOption.isSome

/-- Whether a directory is at a path. -/
def isDirectory (tree : FileTree) (path : Path) : Bool :=
  match tree.locate path with
  | .ok place => tree.hasDirectory place
  | .error _ => false

/-- The content of the file at a path. -/
def readBytes (tree : FileTree) (path : Path) : Except FileError ByteArray :=
  match tree.locate path with
  | .error e => .error e
  | .ok place =>
    match tree.node? place with
    | some (.file content) => .ok content
    | some .directory => .error .isDirectory
    | none => .error .notFound

/-- Gives the file at a path a content. -/
def writeBytes (tree : FileTree) (path : Path) (content : ByteArray) :
    Except FileError FileTree :=
  match tree.placeFor path .isDirectory with
  | .error e => .error e
  | .ok (place, slash) =>
    if slash || tree.hasDirectory place then .error .isDirectory
    else .ok (tree.put place (.file content))

/-- Makes a directory at a path. -/
def makeDirectory (tree : FileTree) (path : Path) : Except FileError FileTree :=
  match tree.placeFor path .alreadyExists with
  | .error e => .error e
  | .ok (place, _) =>
    if (tree.node? place).isSome then .error .alreadyExists
    else .ok (tree.put place .directory)

/-- Moves the file at a path to another path. -/
def rename (tree : FileTree) (source target : Path) : Except FileError FileTree :=
  match tree.placeFor source .busy, tree.placeFor target .busy with
  | .error e, _ => .error e
  | .ok _, .error e => .error e
  | .ok (source, sourceSlash), .ok (target, targetSlash) =>
    match tree.node? source with
    | none => .error .notFound
    | some .directory => .error .isDirectory
    | some (.file content) =>
      if sourceSlash || targetSlash then .error .notDirectory
      else if tree.hasDirectory target then .error .isDirectory
      else if source = target then .ok tree
      else .ok ((tree.clear source).put target (.file content))

/-- The files of a tree, each with its place. -/
def files (tree : FileTree) : List (Place × ByteArray) :=
  tree.nodes.filterMap fun (place, node) =>
    match node with
    | .file content => some (place, content)
    | .directory => none

end FileTree

end CubeQuery
