import CubeQuery.Files.Tree
import Mathlib.Tactic.SplitIfs

/-!
# Files of a tree

Which paths lead where depends on the directories of a tree alone. Writing and
moving files leaves the directories as they are, so a path leads to the same
place before and after.

* `SameDirectories`: two trees with the same directories, and that they agree on
  the way to a place.
* `FilePlace`: the place where the file of a path is or can be.
* `writeBytes_eq_ok_iff`, `rename_eq_ok_iff`: when a file is written or moved, and
  the tree afterwards.
* `readBytes_of_filePlace`: the file of a path is read at its place.
-/

namespace CubeQuery.FileTree

variable {tree tree' : FileTree} {path : Path} {place : Place}

/-! ## Directories of two trees -/

/-- Every directory of the first tree is one of the second. -/
def KeepsDirectories (tree tree' : FileTree) : Prop :=
  ∀ place, tree.hasDirectory place = true → tree'.hasDirectory place = true

/-- The trees have the same directories. Their files can differ. -/
def SameDirectories (tree tree' : FileTree) : Prop :=
  ∀ place, tree'.hasDirectory place = tree.hasDirectory place

theorem SameDirectories.keepsDirectories (h : SameDirectories tree tree') :
    KeepsDirectories tree tree' :=
  fun place hdir => (h place).trans hdir

theorem SameDirectories.refl (tree : FileTree) : SameDirectories tree tree := fun _ => rfl

theorem SameDirectories.symm (h : SameDirectories tree tree') : SameDirectories tree' tree :=
  fun place => (h place).symm

theorem SameDirectories.trans {tree'' : FileTree} (h : SameDirectories tree tree')
    (h' : SameDirectories tree' tree'') : SameDirectories tree tree'' :=
  fun place => (h' place).trans (h place)

theorem isSome_of_hasDirectory (h : tree.hasDirectory place = true) :
    (tree.node? place).isSome = true := by
  unfold hasDirectory at h
  split at h
  · next hnode => rw [hnode, Option.isSome_some]
  · cases h

/-- Putting a file where no directory is changes no directory. -/
theorem sameDirectories_put (hplace : place ≠ []) (hfree : tree.hasDirectory place = false)
    (content : ByteArray) : SameDirectories tree (tree.put place (.file content)) := by
  intro q
  by_cases hq : q = place
  · rw [hq, hfree, hasDirectory, node?_put tree hplace, if_pos rfl]
  · rw [hasDirectory, hasDirectory, node?_put tree hplace, if_neg hq]

/-- Clearing a place where no directory is changes no directory. -/
theorem sameDirectories_clear (hplace : place ≠ []) (hfree : tree.hasDirectory place = false) :
    SameDirectories tree (tree.clear place) := by
  intro q
  by_cases hq : q = place
  · rw [hq, hfree, hasDirectory, node?_clear tree hplace, if_pos rfl]
  · rw [hasDirectory, hasDirectory, node?_clear tree hplace, if_neg hq]

/-! ## The way to a place -/

theorem child_of_not_isDots {directory : Place} {name : String} (h : isDots name = false) :
    child directory name = directory ++ [name] := by
  rw [isDots, Bool.or_eq_false_iff, beq_eq_false_iff_ne, beq_eq_false_iff_ne] at h
  rw [child, if_neg h.1, if_neg h.2]

theorem enter_eq_ok_iff {directory : Place} {name : String} :
    tree.enter directory name = .ok place ↔
      name.utf8ByteSize ≤ nameLimit ∧ place = child directory name ∧
        (tree.node? place).isSome = true := by
  unfold enter
  by_cases hlong : nameLimit < name.utf8ByteSize
  · rw [if_pos hlong]
    exact ⟨nofun, fun h => absurd h.1 (by omega)⟩
  · rw [if_neg hlong]
    constructor
    · intro h
      dsimp only at h
      split_ifs at h with hsome
      cases h
      exact ⟨by omega, rfl, hsome⟩
    · rintro ⟨-, rfl, hsome⟩
      exact if_pos hsome

/-- A step into a directory is possible in every tree with that directory. -/
theorem enter_of_hasDirectory {directory : Place} {name : String}
    (henter : tree.enter directory name = .ok place) (hdir : tree'.hasDirectory place = true) :
    tree'.enter directory name = .ok place := by
  obtain ⟨hshort, hchild, -⟩ := enter_eq_ok_iff.mp henter
  exact enter_eq_ok_iff.mpr ⟨hshort, hchild, isSome_of_hasDirectory hdir⟩

theorem KeepsDirectories.walk (h : KeepsDirectories tree tree') {directory : Place}
    {names : List String} (hwalk : tree.walk directory names = .ok place) :
    tree'.walk directory names = .ok place := by
  induction names generalizing directory with
  | nil => exact hwalk
  | cons name names ih =>
    rw [FileTree.walk] at hwalk
    split at hwalk
    · cases hwalk
    · next mid henter =>
      split at hwalk
      · next hdir =>
        have hdir' : tree'.hasDirectory mid = true := h mid hdir
        rw [FileTree.walk, enter_of_hasDirectory henter hdir']
        exact (if_pos hdir').trans (ih hwalk)
      · cases hwalk

theorem KeepsDirectories.approach (h : KeepsDirectories tree tree') {target : Target}
    (happroach : tree.approach path = .ok target) : tree'.approach path = .ok target := by
  unfold FileTree.approach at happroach ⊢
  split_ifs at happroach ⊢
  dsimp only at happroach ⊢
  split at happroach
  · cases happroach
  · next directory hwalk =>
    rw [h.walk hwalk]
    exact happroach

/-! ## Places of files -/

/-- The path leads to the place, and a file is there or can be. -/
structure FilePlace (tree : FileTree) (path : Path) (place : Place) : Prop where
  leads : ∀ atDots, tree.placeFor path atDots = .ok (place, false)
  free : tree.hasDirectory place = false

theorem placeFor_eq_ok_iff {atDots : FileError} {slash : Bool} :
    tree.placeFor path atDots = .ok (place, slash) ↔
      ∃ directory name, tree.approach path = .ok ⟨directory, some name, slash⟩ ∧
        isDots name = false ∧ name.utf8ByteSize ≤ nameLimit ∧ place = directory ++ [name] := by
  unfold placeFor
  split
  · next e happroach =>
    refine ⟨nofun, ?_⟩
    rintro ⟨directory, name, happroach', -⟩
    rw [happroach] at happroach'
    cases happroach'
  · next happroach =>
    refine ⟨nofun, ?_⟩
    rintro ⟨directory, name, happroach', -⟩
    rw [happroach] at happroach'
    cases happroach'
  · next directory name slash' happroach =>
    constructor
    · intro h
      split_ifs at h with hdots hlong
      cases h
      exact ⟨directory, name, happroach, by simpa using hdots, by omega, rfl⟩
    · rintro ⟨directory', name', happroach', hdots, hshort, rfl⟩
      rw [happroach] at happroach'
      cases happroach'
      rw [hdots, if_neg Bool.false_ne_true, if_neg (by omega)]

theorem filePlace_of_placeFor {atDots : FileError}
    (h : tree.placeFor path atDots = .ok (place, false))
    (hfree : tree.hasDirectory place = false) : FilePlace tree path place :=
  ⟨fun _ => placeFor_eq_ok_iff.mpr (placeFor_eq_ok_iff.mp h), hfree⟩

theorem FilePlace.ne_nil (h : FilePlace tree path place) : place ≠ [] := by
  obtain ⟨directory, name, -, -, -, rfl⟩ := placeFor_eq_ok_iff.mp (h.leads .busy)
  exact List.concat_ne_nil name directory

/-- A path leads to one place. -/
theorem FilePlace.place_eq {place' : Place} (h : FilePlace tree path place)
    (h' : FilePlace tree path place') : place = place' := by
  have heq := (h.leads .busy).symm.trans (h'.leads .busy)
  rw [Except.ok.injEq, Prod.mk.injEq] at heq
  exact heq.1

theorem SameDirectories.filePlace (h : SameDirectories tree tree')
    (hfile : FilePlace tree path place) : FilePlace tree' path place := by
  refine ⟨fun atDots => ?_, (h place).trans hfile.free⟩
  obtain ⟨directory, name, happroach, hrest⟩ := placeFor_eq_ok_iff.mp (hfile.leads atDots)
  exact placeFor_eq_ok_iff.mpr ⟨directory, name, h.keepsDirectories.approach happroach, hrest⟩

/-! ## Operations on files -/

theorem writeBytes_eq_ok_iff {content : ByteArray} :
    tree.writeBytes path content = .ok tree' ↔
      ∃ place, FilePlace tree path place ∧ tree' = tree.put place (.file content) := by
  unfold writeBytes
  constructor
  · intro h
    split at h
    · cases h
    · next place slash hplace =>
      split_ifs at h with hbad
      cases h
      rw [Bool.or_eq_true, not_or, Bool.not_eq_true, Bool.not_eq_true] at hbad
      obtain ⟨rfl, hfree⟩ := hbad
      exact ⟨place, filePlace_of_placeFor hplace hfree, rfl⟩
  · rintro ⟨place, hfile, rfl⟩
    rw [hfile.leads]
    exact if_neg (by rw [hfile.free]; exact Bool.false_ne_true)

theorem hasDirectory_eq_false_of_file {content : ByteArray}
    (h : tree.node? place = some (.file content)) : tree.hasDirectory place = false := by
  rw [hasDirectory, h]

theorem rename_eq_ok_iff {source target : Path} :
    tree.rename source target = .ok tree' ↔
      ∃ p q content, FilePlace tree source p ∧ FilePlace tree target q ∧
        tree.node? p = some (.file content) ∧
        tree' = if p = q then tree else (tree.clear p).put q (.file content) := by
  unfold rename
  constructor
  · intro h
    split at h
    · cases h
    · cases h
    · next p sourceSlash q targetSlash hsource htarget =>
      split at h
      · cases h
      · cases h
      · next content hnode =>
        split_ifs at h with hslash hdir hsame
        all_goals
          cases h
          rw [Bool.or_eq_true, not_or, Bool.not_eq_true, Bool.not_eq_true] at hslash
          obtain ⟨rfl, rfl⟩ := hslash
          have hfree := hasDirectory_eq_false_of_file hnode
          refine ⟨p, q, content, filePlace_of_placeFor hsource hfree,
            filePlace_of_placeFor htarget (by simpa using hdir), hnode, ?_⟩
        · rw [if_pos hsame]
        · rw [if_neg hsame]
  · rintro ⟨p, q, content, hsource, htarget, hnode, rfl⟩
    rw [hsource.leads, htarget.leads]
    simp only [hnode, htarget.free, Bool.or_false, Bool.false_eq_true, if_false]
    split_ifs <;> rfl

theorem SameDirectories.of_writeBytes {content : ByteArray}
    (h : tree.writeBytes path content = .ok tree') : SameDirectories tree tree' := by
  obtain ⟨place, hfile, rfl⟩ := writeBytes_eq_ok_iff.mp h
  exact sameDirectories_put hfile.ne_nil hfile.free content

theorem SameDirectories.of_rename {source target : Path}
    (h : tree.rename source target = .ok tree') : SameDirectories tree tree' := by
  obtain ⟨p, q, content, hp, hq, -, rfl⟩ := rename_eq_ok_iff.mp h
  split_ifs
  · exact SameDirectories.refl tree
  · have hclear := sameDirectories_clear hp.ne_nil hp.free
    exact hclear.trans (sameDirectories_put hq.ne_nil ((hclear q).trans hq.free) content)

/-- A file that is moved is at the place of its new path. -/
theorem exists_rename {source target : Path} {p q : Place} {content : ByteArray}
    (hp : FilePlace tree source p) (hq : FilePlace tree target q)
    (hnode : tree.node? p = some (.file content)) :
    ∃ tree', tree.rename source target = .ok tree' ∧ tree'.node? q = some (.file content) := by
  refine ⟨_, rename_eq_ok_iff.mpr ⟨p, q, content, hp, hq, hnode, rfl⟩, ?_⟩
  split_ifs with hsame
  · rw [← hsame, hnode]
  · rw [node?_put _ hq.ne_nil, if_pos rfl]

/-- The file of a path is read at its place. -/
theorem readBytes_of_filePlace {content : ByteArray} (h : FilePlace tree path place)
    (hnode : tree.node? place = some (.file content)) : tree.readBytes path = .ok content := by
  obtain ⟨directory, name, happroach, hdots, hshort, rfl⟩ :=
    placeFor_eq_ok_iff.mp (h.leads .busy)
  have henter : tree.enter directory name = .ok (directory ++ [name]) :=
    enter_eq_ok_iff.mpr ⟨hshort, (child_of_not_isDots hdots).symm,
      by rw [hnode, Option.isSome_some]⟩
  have hlocate : tree.locate path = .ok (directory ++ [name]) := by
    rw [locate, happroach]
    simp only [henter, Bool.false_and, Bool.false_eq_true, if_false]
  rw [readBytes, hlocate]
  simp only [hnode]

/-- What can be read is there. -/
theorem isPresent_of_readBytes {content : ByteArray} (h : tree.readBytes path = .ok content) :
    tree.isPresent path = true := by
  rw [readBytes] at h
  rw [isPresent]
  cases hlocate : tree.locate path with
  | error e =>
    rw [hlocate] at h
    cases h
  | ok place => rfl

/-! ## Directories that are there -/

/-- A directory is where a path ends. -/
def EndsAtDirectory (tree : FileTree) (target : Target) : Prop :=
  match target.name with
  | none => tree.hasDirectory target.directory = true
  | some name =>
    name.utf8ByteSize ≤ nameLimit ∧ tree.hasDirectory (child target.directory name) = true

theorem isDirectory_iff :
    tree.isDirectory path = true ↔
      ∃ target, tree.approach path = .ok target ∧ tree.EndsAtDirectory target := by
  unfold isDirectory locate
  cases happroach : tree.approach path with
  | error e => simp
  | ok target =>
    obtain ⟨directory, name, slash⟩ := target
    cases name with
    | none => simp [EndsAtDirectory]
    | some name =>
      simp only [Except.ok.injEq, exists_eq_left', EndsAtDirectory]
      cases henter : tree.enter directory name with
      | error e =>
        refine ⟨nofun, fun ⟨hshort, hdir⟩ => ?_⟩
        rw [enter_eq_ok_iff.mpr ⟨hshort, rfl, isSome_of_hasDirectory hdir⟩] at henter
        cases henter
      | ok place =>
        obtain ⟨hshort, rfl, -⟩ := enter_eq_ok_iff.mp henter
        cases slash <;> cases hdir : tree.hasDirectory (child directory name)
        all_goals simp [hshort, hdir]

theorem KeepsDirectories.isDirectory (h : KeepsDirectories tree tree')
    (hdir : tree.isDirectory path = true) : tree'.isDirectory path = true := by
  obtain ⟨⟨directory, name, slash⟩, happroach, hend⟩ := isDirectory_iff.mp hdir
  refine isDirectory_iff.mpr ⟨_, h.approach happroach, ?_⟩
  cases name with
  | none => exact h _ hend
  | some name => exact ⟨hend.1, h _ hend.2⟩

/-- A directory that is there is not made again. -/
theorem makeDirectory_of_isDirectory (h : tree.isDirectory path = true) :
    tree.makeDirectory path = .error .alreadyExists := by
  obtain ⟨⟨directory, name, slash⟩, happroach, hend⟩ := isDirectory_iff.mp h
  unfold makeDirectory placeFor
  rw [happroach]
  cases name with
  | none => rfl
  | some name =>
    cases hdots : isDots name with
    | true => simp [hdots]
    | false =>
      obtain ⟨hshort, hdir⟩ := hend
      rw [child_of_not_isDots hdots] at hdir
      have hsome := isSome_of_hasDirectory hdir
      simp [hdots, Nat.not_lt.mpr hshort, hsome]

/-- A directory that was made is there. -/
theorem isDirectory_of_makeDirectory (h : tree.makeDirectory path = .ok tree') :
    tree'.isDirectory path = true := by
  unfold makeDirectory at h
  split at h
  · cases h
  · next place slash hplace =>
    split_ifs at h
    cases h
    obtain ⟨directory, name, happroach, hdots, hshort, rfl⟩ := placeFor_eq_ok_iff.mp hplace
    have hput := node?_put tree (List.concat_ne_nil name directory) .directory
    have hkeeps : KeepsDirectories tree (tree.put (directory ++ [name]) .directory) := by
      intro q hq
      rw [hasDirectory, hput]
      by_cases hsame : q = directory ++ [name]
      · rw [if_pos hsame]
      · rw [if_neg hsame]
        exact hq
    refine isDirectory_iff.mpr ⟨_, hkeeps.approach happroach, hshort, ?_⟩
    rw [child_of_not_isDots hdots, hasDirectory, hput, if_pos rfl]

end CubeQuery.FileTree
