import CubeQuery.Proofs.Files.Frame
import Mathlib.Data.List.Induction

/-!
# What a path holds

The file that a path holds, where the path goes only down. Directories that are
made on the way do not bring up a file that was not there, since everything in a
tree is in a directory.

* `IsGrounded`: everything is in a directory, and operations on files keep that.
* `held_eq_some_iff`: a path holds a file exactly if that is at the path's place.
* `held_eq_of_file?_eq`: with more directories and the same file at its place, a path
  holds what it held.
-/

namespace CubeQuery.FileTree

variable {tree tree' : FileTree} {path : Path} {place : Place}

/-! ## Trees in which everything is in a directory -/

/-- Whatever is in the tree is in a directory. -/
def IsGrounded (tree : FileTree) : Prop :=
  ∀ place name, (tree.node? (place ++ [name])).isSome = true → tree.hasDirectory place = true

theorem isGrounded_empty : IsGrounded empty := by
  intro place name h
  simp [node?, empty] at h

/-- A directory is in directories up to the root. -/
theorem IsGrounded.of_append (h : IsGrounded tree) {outer inner : Place}
    (hdir : tree.hasDirectory (outer ++ inner) = true) : tree.hasDirectory outer = true := by
  induction inner using List.reverseRecOn with
  | nil => rwa [List.append_nil] at hdir
  | append_singleton inner name ih =>
    rw [← List.append_assoc] at hdir
    exact ih (h _ _ (isSome_of_hasDirectory hdir))

theorem hasDirectory_nil (tree : FileTree) : tree.hasDirectory [] = true := rfl

/-- A walk from a directory ends in a directory. -/
theorem hasDirectory_of_walk {directory : Place} {names : List String}
    (hdir : tree.hasDirectory directory = true) (h : tree.walk directory names = .ok place) :
    tree.hasDirectory place = true := by
  induction names generalizing directory with
  | nil =>
    cases h
    exact hdir
  | cons name names ih =>
    rw [FileTree.walk] at h
    split at h
    · cases h
    · split_ifs at h with hmid
      exact ih hmid h

theorem walk_of_approach {target : Target} (h : tree.approach path = .ok target) :
    tree.walk [] (names path).dropLast = .ok target.directory ∧
      target.name = (names path).getLast? := by
  unfold approach at h
  split_ifs at h
  dsimp only at h
  split at h
  · cases h
  · next hwalk =>
    cases h
    exact ⟨hwalk, rfl⟩

theorem hasDirectory_of_approach {target : Target} (h : tree.approach path = .ok target) :
    tree.hasDirectory target.directory = true :=
  hasDirectory_of_walk (hasDirectory_nil tree) (walk_of_approach h).1

theorem IsGrounded.put (h : IsGrounded tree) {directory : Place} {name : String} {node : Node}
    (hkeeps : KeepsDirectories tree (tree.put (directory ++ [name]) node))
    (hdir : tree.hasDirectory directory = true) :
    IsGrounded (tree.put (directory ++ [name]) node) := by
  intro q last hsome
  apply hkeeps
  rw [node?_put tree (List.concat_ne_nil name directory)] at hsome
  split_ifs at hsome with heq
  · rw [(List.append_inj' heq rfl).1]
    exact hdir
  · exact h q last hsome

theorem IsGrounded.clear (h : IsGrounded tree) (hplace : place ≠ [])
    (hsame : SameDirectories tree (tree.clear place)) : IsGrounded (tree.clear place) := by
  intro q last hsome
  rw [hsame]
  rw [node?_clear tree hplace] at hsome
  split_ifs at hsome
  · cases hsome
  · exact h q last hsome

theorem FilePlace.exists_directory (h : FilePlace tree path place) :
    ∃ directory name, place = directory ++ [name] ∧ tree.hasDirectory directory = true := by
  obtain ⟨directory, name, happroach, -, -, rfl⟩ := placeFor_eq_ok_iff.mp (h.leads .busy)
  exact ⟨directory, name, rfl, hasDirectory_of_approach happroach⟩

theorem IsGrounded.writeBytes (h : IsGrounded tree) {content : ByteArray}
    (hwrite : tree.writeBytes path content = .ok tree') : IsGrounded tree' := by
  have hsame := SameDirectories.of_writeBytes hwrite
  obtain ⟨place, hfile, rfl⟩ := writeBytes_eq_ok_iff.mp hwrite
  obtain ⟨directory, name, rfl, hdir⟩ := hfile.exists_directory
  exact h.put hsame.keepsDirectories hdir

theorem IsGrounded.rename (h : IsGrounded tree) {source target : Path}
    (hrename : tree.rename source target = .ok tree') : IsGrounded tree' := by
  obtain ⟨p, q, content, hp, hq, -, rfl⟩ := rename_eq_ok_iff.mp hrename
  split_ifs
  · exact h
  · have hclear := sameDirectories_clear hp.ne_nil hp.free
    have hput := sameDirectories_put hq.ne_nil ((hclear q).trans hq.free) content
    obtain ⟨directory, name, rfl, hdir⟩ := hq.exists_directory
    exact (h.clear hp.ne_nil hclear).put hput.keepsDirectories ((hclear _).trans hdir)

theorem IsGrounded.makeDirectory (h : IsGrounded tree)
    (hmake : tree.makeDirectory path = .ok tree') : IsGrounded tree' := by
  have hchanges : ChangesOnly (fun _ => False) tree tree' := .of_makeDirectory hmake
  unfold FileTree.makeDirectory at hmake
  split at hmake
  · cases hmake
  · next hplace =>
    split_ifs at hmake
    cases hmake
    obtain ⟨directory, name, happroach, -, -, rfl⟩ := placeFor_eq_ok_iff.mp hplace
    exact h.put hchanges.directories (hasDirectory_of_approach happroach)

/-! ## Paths that go only down -/

/-- The path never goes back to the directory above. -/
def IsDirect (path : Path) : Prop := ".." ∉ names path

instance (path : Path) : Decidable (IsDirect path) :=
  inferInstanceAs (Decidable (".." ∉ names path))

theorem prefix_child (directory : Place) {name : String} (h : name ≠ "..") :
    ∃ inner, child directory name = directory ++ inner := by
  unfold child
  split_ifs
  · exact ⟨[], (List.append_nil _).symm⟩
  · exact ⟨[name], rfl⟩

theorem prefix_of_walk {directory : Place} {names : List String} (hnames : ".." ∉ names)
    (h : tree.walk directory names = .ok place) : ∃ inner, place = directory ++ inner := by
  induction names generalizing directory with
  | nil =>
    cases h
    exact ⟨[], (List.append_nil _).symm⟩
  | cons name names ih =>
    rw [List.mem_cons, not_or] at hnames
    rw [FileTree.walk] at h
    split at h
    · cases h
    · next mid henter =>
      split_ifs at h
      obtain ⟨inner, rfl⟩ := ih hnames.2 h
      obtain ⟨-, rfl, -⟩ := enter_eq_ok_iff.mp henter
      obtain ⟨inner', heq⟩ := prefix_child directory (Ne.symm hnames.1)
      exact ⟨inner' ++ inner, by rw [heq, List.append_assoc]⟩

/-- A walk down to a directory of a grounded tree can be made in that tree. -/
theorem IsGrounded.walk (h : IsGrounded tree) {directory : Place} {names : List String}
    (hnames : ".." ∉ names) (hdir : tree.hasDirectory place = true)
    (hwalk : tree'.walk directory names = .ok place) :
    tree.walk directory names = .ok place := by
  induction names generalizing directory with
  | nil => exact hwalk
  | cons name names ih =>
    rw [List.mem_cons, not_or] at hnames
    rw [FileTree.walk] at hwalk
    split at hwalk
    · cases hwalk
    · next mid henter =>
      split_ifs at hwalk
      obtain ⟨inner, rfl⟩ := prefix_of_walk hnames.2 hwalk
      have hmid : tree.hasDirectory mid = true := h.of_append hdir
      rw [FileTree.walk, enter_of_hasDirectory henter hmid]
      exact (if_pos hmid).trans (ih hnames.2 hwalk)

theorem IsGrounded.approach (h : IsGrounded tree) (hpath : IsDirect path) {target : Target}
    (hdir : tree.hasDirectory target.directory = true)
    (happroach : tree'.approach path = .ok target) : tree.approach path = .ok target := by
  have hwalk := h.walk (fun hmem => hpath (List.dropLast_subset _ hmem)) hdir
    (walk_of_approach happroach).1
  have hwalk' := (walk_of_approach happroach).1
  unfold FileTree.approach at happroach ⊢
  split_ifs at happroach ⊢
  simpa only [hwalk, hwalk'] using happroach

theorem filePlace_of_approach {directory : Place} {name : String}
    (happroach : tree.approach path = .ok ⟨directory, some name, false⟩)
    (hdots : isDots name = false) (hshort : name.utf8ByteSize ≤ nameLimit)
    (hfree : tree.hasDirectory (directory ++ [name]) = false) :
    FilePlace tree path (directory ++ [name]) :=
  ⟨fun _ => placeFor_eq_ok_iff.mpr ⟨directory, name, happroach, hdots, hshort, rfl⟩, hfree⟩

/-- A file that a path leads to in another tree, the path leads to in a grounded tree that
    has it. -/
theorem IsGrounded.filePlace (h : IsGrounded tree) (hpath : IsDirect path)
    (hfile : FilePlace tree' path place) {content : ByteArray}
    (hnode : tree.node? place = some (.file content)) : FilePlace tree path place := by
  obtain ⟨directory, name, happroach, hdots, hshort, rfl⟩ :=
    placeFor_eq_ok_iff.mp (hfile.leads .busy)
  have hdir : tree.hasDirectory directory = true := h directory name (by rw [hnode]; rfl)
  exact filePlace_of_approach (h.approach hpath hdir happroach) hdots hshort
    (hasDirectory_eq_false_of_file hnode)

/-! ## Files that paths hold -/

/-- The content of the file that a path leads to. -/
def held (tree : FileTree) (path : Path) : Option ByteArray := (tree.readBytes path).toOption

theorem held_eq_some_iff_readBytes {content : ByteArray} :
    tree.held path = some content ↔ tree.readBytes path = .ok content := by
  rw [held]
  cases tree.readBytes path <;> simp [Except.toOption]

theorem file?_eq_some_iff {content : ByteArray} :
    tree.file? place = some content ↔ tree.node? place = some (.file content) := by
  unfold file?
  split <;> simp_all

theorem filePlace_of_locate (hpath : IsDirect path) {content : ByteArray}
    (hlocate : tree.locate path = .ok place)
    (hnode : tree.node? place = some (.file content)) : FilePlace tree path place := by
  have hfree := hasDirectory_eq_false_of_file hnode
  rw [locate] at hlocate
  split at hlocate
  · cases hlocate
  · next happroach =>
    cases hlocate
    exact absurd (hasDirectory_of_approach happroach) (by simp [hfree])
  · next directory name slash happroach =>
    split at hlocate
    · cases hlocate
    · next place' henter =>
      split_ifs at hlocate with hslash
      cases hlocate
      obtain ⟨hshort, rfl, -⟩ := enter_eq_ok_iff.mp henter
      have hlast := (walk_of_approach happroach).2
      have hup : name ≠ ".." := by
        rintro rfl
        exact hpath (List.mem_of_getLast? hlast.symm)
      have hdot : name ≠ "." := by
        rintro rfl
        exact absurd (hasDirectory_of_approach happroach) (by simpa [child] using hfree)
      have hdots : isDots name = false := by simp [isDots, hup, hdot]
      have hslash : slash = false := by simpa [hfree] using hslash
      rw [child_of_not_isDots hdots] at hfree ⊢
      rw [hslash] at happroach
      exact filePlace_of_approach happroach hdots hshort hfree

/-- A path to a place where nothing is. -/
theorem isPresent_eq_false_of_filePlace (h : FilePlace tree path place)
    (hnone : tree.node? place = none) : tree.isPresent path = false := by
  obtain ⟨directory, name, happroach, hdots, hshort, rfl⟩ :=
    placeFor_eq_ok_iff.mp (h.leads .busy)
  rw [isPresent, locate, happroach]
  cases henter : tree.enter directory name with
  | error e => simp only [henter]; rfl
  | ok place =>
    obtain ⟨-, rfl, hsome⟩ := enter_eq_ok_iff.mp henter
    rw [child_of_not_isDots hdots, hnone] at hsome
    cases hsome

/-- A path that goes only down holds a file exactly if that is at the path's place. -/
theorem held_eq_some_iff (hpath : IsDirect path) {content : ByteArray} :
    tree.held path = some content ↔
      ∃ place, FilePlace tree path place ∧ tree.file? place = some content := by
  rw [held_eq_some_iff_readBytes]
  constructor
  · intro h
    rw [readBytes] at h
    split at h
    · cases h
    · next place hlocate =>
      split at h
      · next hnode =>
        cases h
        exact ⟨place, filePlace_of_locate hpath hlocate hnode, file?_eq_some_iff.mpr hnode⟩
      · cases h
      · cases h
  · rintro ⟨place, hplace, hfile⟩
    exact readBytes_of_filePlace hplace (file?_eq_some_iff.mp hfile)

/-- With more directories and the same file at its place, a path holds what it held in a
    grounded tree. -/
theorem held_eq_of_file?_eq (hground : IsGrounded tree) (hpath : IsDirect path)
    (hkeeps : KeepsDirectories tree tree')
    (hfile : ∀ place, tree'.placeFor path .busy = .ok (place, false) →
      tree'.file? place = tree.file? place) :
    tree'.held path = tree.held path := by
  apply Option.ext
  intro content
  rw [held_eq_some_iff hpath, held_eq_some_iff hpath]
  constructor
  · rintro ⟨place, hplace, hcontent⟩
    rw [hfile place (hplace.leads .busy)] at hcontent
    exact ⟨place, hground.filePlace hpath hplace (file?_eq_some_iff.mp hcontent), hcontent⟩
  · rintro ⟨place, hplace, hcontent⟩
    obtain ⟨directory, name, happroach, hrest⟩ := placeFor_eq_ok_iff.mp (hplace.leads .busy)
    have hleads : tree'.placeFor path .busy = .ok (place, false) :=
      placeFor_eq_ok_iff.mpr ⟨directory, name, hkeeps.approach happroach, hrest⟩
    rw [← hfile place hleads] at hcontent
    exact ⟨place, filePlace_of_placeFor hleads
      (hasDirectory_eq_false_of_file (file?_eq_some_iff.mp hcontent)), hcontent⟩

end CubeQuery.FileTree
