import CubeQuery.Proofs.World

/-!
# Files while a program runs

A program over `FileAccess` can run so that the files after each of its operations
are told. That makes no difference to what the program does, and a condition on
the files that every operation keeps holds of all files that were told.

* `Watched`: programs that tell the files after each operation.
* `Watches`: a watched program does what the program alone does, and what holds of the
  files on the way and at the end.
* `FileAccess.watches_makeInnermost`: directories that are made one after another.
-/

namespace CubeQuery

/-- A program that runs in a world and tells the files after each operation, the latest
    last. -/
abbrev Watched := StateT (List FileTree) Simulation

namespace Watched

variable {α β : Type}

/-- Tells the files after an operation. -/
def watch (x : Simulation α) : Watched α := fun seen world =>
  (((x world).1, seen ++ [(x world).2.files]), (x world).2)

instance : FileAccess Watched where
  isPresent path := watch (FileAccess.isPresent path)
  isDirectory path := watch (FileAccess.isDirectory path)
  readBytes path := watch (FileAccess.readBytes path)
  writeBytes path content := watch (FileAccess.writeBytes path content)
  makeDirectory path := watch (FileAccess.makeDirectory path)
  rename source target := watch (FileAccess.rename source target)

instance : Journal Watched where
  note event := watch (Journal.note event)

variable {I J : FileTree → Prop} {K : α → FileTree → Prop} {L : β → FileTree → Prop}

/-- From files with `J` the watched program does what the program alone does, tells only
    files with `I`, and ends with a value and files with `K`. -/
def Watches (I J : FileTree → Prop) (K : α → FileTree → Prop) (x : Simulation α)
    (y : Watched α) : Prop :=
  ∀ seen world, J world.files → ∃ more,
    y seen world = (((x world).1, seen ++ more), (x world).2) ∧
      (∀ files ∈ more, I files) ∧ K (x world).1 (x world).2.files

theorem Watches.pure {a : α} (h : ∀ files, J files → K a files) :
    Watches I J K (Pure.pure a) (Pure.pure a) :=
  fun seen world hJ => ⟨[], by rw [List.append_nil]; rfl, nofun, h world.files hJ⟩

theorem Watches.bind {x : Simulation α} {y : Watched α} {f : α → Simulation β}
    {g : α → Watched β} (hx : Watches I J K x y) (hf : ∀ a, Watches I (K a) L (f a) (g a)) :
    Watches I J L (x >>= f) (y >>= g) := by
  intro seen world hJ
  obtain ⟨more, hy, hmore, hK⟩ := hx seen world hJ
  obtain ⟨more', hg, hmore', hL⟩ := hf (x world).1 (seen ++ more) (x world).2 hK
  refine ⟨more ++ more', ?_, ?_, hL⟩
  · show g (y seen world).1.1 (y seen world).1.2 (y seen world).2 = _
    rw [hy, ← List.append_assoc]
    exact hg
  · intro files hfiles
    exact (List.mem_append.mp hfiles).elim (hmore files) (hmore' files)

theorem Watches.mono {I' : FileTree → Prop} {x : Simulation α} {y : Watched α}
    (h : Watches I J K x y) (hI : ∀ files, I files → I' files) : Watches I' J K x y := by
  intro seen world hJ
  obtain ⟨more, hy, hmore, hK⟩ := h seen world hJ
  exact ⟨more, hy, fun files hfiles => hI files (hmore files hfiles), hK⟩

/-- One operation. -/
theorem Watches.watch {x : Simulation α}
    (h : ∀ world, J world.files → I (x world).2.files ∧ K (x world).1 (x world).2.files) :
    Watches I J K x (watch x) := by
  intro seen world hJ
  obtain ⟨hI, hK⟩ := h world hJ
  refine ⟨[(x world).2.files], rfl, ?_, hK⟩
  intro files hfiles
  rw [List.mem_singleton.mp hfiles]
  exact hI

theorem Watches.note (event : Event) (h : ∀ files, J files → I files) :
    Watches I J (fun _ => J) (Journal.note event) (Journal.note event) :=
  .watch fun world hJ => ⟨h world.files hJ, hJ⟩

/-- An operation that changes files. If it fails, they are as before. -/
theorem Watches.change {operation : FileTree → Except FileError FileTree}
    {K : Except FileError Unit → FileTree → Prop}
    (herror : ∀ files e, J files → operation files = .error e → I files ∧ K (.error e) files)
    (hok : ∀ files files', J files → operation files = .ok files' →
      I files' ∧ K (.ok ()) files') :
    Watches I J K (Simulation.change operation) (Watched.watch (Simulation.change operation)) := by
  refine .watch fun world hJ => ?_
  rw [Simulation.change]
  cases hrun : operation world.files with
  | error e => exact herror world.files e hJ hrun
  | ok files => exact hok world.files files hJ hrun

end Watched

namespace FileAccess

open Watched (Watches)

/-- Directories are made one after another, and what making one keeps holds on the way. -/
theorem watches_makeInnermost {J : FileTree → Prop}
    (hmake : ∀ files files' path, J files → files.makeDirectory path = .ok files' → J files')
    (paths : List Path) :
    Watches J J (fun _ => J) (makeInnermost paths) (makeInnermost paths) := by
  have hone : ∀ path, Watches J J (fun _ => J) (makeDirectory path) (makeDirectory path) := by
    intro path
    refine .change (fun _ _ hJ _ => ⟨hJ, hJ⟩) fun files files' hJ hrun => ?_
    have hJ' := hmake files files' path hJ hrun
    exact ⟨hJ', hJ'⟩
  have hunless : ∀ path e,
      Watches J J (fun _ => J) (unlessDirectory path e) (unlessDirectory path e) := by
    intro path e
    have hlook : Watches J J (fun _ => J) (isDirectory path) (isDirectory path) :=
      .watch fun _ hJ => ⟨hJ, hJ⟩
    refine hlook.bind fun isDir => ?_
    cases isDir <;> exact .pure fun _ hJ => hJ
  induction paths with
  | nil => exact .pure fun _ hJ => hJ
  | cons path outer ih =>
    rw [makeInnermost, makeInnermost]
    split_ifs
    · exact .pure fun _ hJ => hJ
    · refine (hone path).bind fun result => ?_
      split
      · exact .pure fun _ hJ => hJ
      · refine ih.bind fun result' => ?_
        split
        · exact .pure fun _ hJ => hJ
        · refine (hone path).bind fun result'' => ?_
          split
          · exact .pure fun _ hJ => hJ
          · exact hunless path _
      · exact hunless path _

end FileAccess

end CubeQuery
