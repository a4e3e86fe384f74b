import CubeQuery.Proofs.CardIndex.RoundTrip
import CubeQuery.Proofs.World
import CubeQuery.Store

/-!
# Saving and loading

A save makes the directory of a store, writes a second file and moves it. When it
succeeds, the store's file holds the document of the index, and every later save
succeeds as well.

* `Ready`: the files that a save needs are in their places.
* `ready_of_save`: a save that succeeds leaves the store ready, with the document.
* `Ready.save`: in a ready store every index can be saved.
* `CanSave.save`: where every index can be saved, that stays so after a save.
* `load_after_save`: a load after a save gives the index back.
-/

namespace CubeQuery

/-! ## Saves -/

namespace Store

variable {store : Store} {files files' : FileTree}

/-- Everything that a save needs is in its place. -/
structure Ready (store : Store) (files : FileTree) : Prop where
  room : ∀ directory, store.path.parent? = some directory →
    directory.text.isEmpty = true ∨ files.isDirectory directory = true
  scratch : ∃ place, files.FilePlace store.scratchPath place
  file : ∃ place, files.FilePlace store.path place

theorem Ready.of_sameDirectories (h : Ready store files) (hsame : files.SameDirectories files') :
    Ready store files' := by
  obtain ⟨source, hsource⟩ := h.scratch
  obtain ⟨target, htarget⟩ := h.file
  refine ⟨fun directory hparent => ?_, ⟨source, hsame.filePlace hsource⟩,
    ⟨target, hsame.filePlace htarget⟩⟩
  exact (h.room directory hparent).imp_right hsame.keepsDirectories.isDirectory

/-- A store whose directory is there makes no other. -/
theorem makeRoom_of_room
    (h : ∀ directory, store.path.parent? = some directory →
      directory.text.isEmpty = true ∨ files.isDirectory directory = true) :
    Simulation.Yields store.makeRoom files (.ok ()) files := by
  rw [makeRoom]
  cases hparent : store.path.parent? with
  | none => exact .pure _
  | some directory =>
    exact (FileAccess.makeDirectories_of_room (h directory hparent)).bind (.pure _)

/-- After a store's directory was made, it is there. -/
theorem room_of_makeRoom {world world' : World}
    (h : (store.makeRoom : Simulation _) world = (.ok (), world')) (directory : Path)
    (hparent : store.path.parent? = some directory) :
    directory.text.isEmpty = true ∨ world'.files.isDirectory directory = true := by
  rw [makeRoom, hparent] at h
  obtain ⟨result, middle, hmade, h⟩ := Simulation.exists_of_bind h
  split at h
  · cases h
    exact FileAccess.room_of_makeDirectories hmade
  · cases h

/-- With both paths leading to places of files, a text is put in the file's place, and no
    directory changes. -/
theorem exists_replace {source target : FileTree.Place}
    (hsource : files.FilePlace store.scratchPath source)
    (htarget : files.FilePlace store.path target) (text : String) :
    ∃ files', Simulation.Yields (store.replace text) files (.ok ()) files' ∧
      files.SameDirectories files' ∧ files'.readBytes store.path = .ok text.toUTF8 := by
  have hwrite : files.writeBytes store.scratchPath text.toUTF8 =
      .ok (files.put source (.file text.toUTF8)) :=
    FileTree.writeBytes_eq_ok_iff.mpr ⟨source, hsource, rfl⟩
  have hwritten := FileTree.SameDirectories.of_writeBytes hwrite
  obtain ⟨files', hrename, hnode⟩ := FileTree.exists_rename (hwritten.filePlace hsource)
    (hwritten.filePlace htarget) (by rw [FileTree.node?_put files hsource.ne_nil, if_pos rfl])
  have hsame := hwritten.trans (FileTree.SameDirectories.of_rename hrename)
  refine ⟨files', ?_, hsame, FileTree.readBytes_of_filePlace (hsame.filePlace htarget) hnode⟩
  have hfirst : Simulation.Yields (FileAccess.writeBytes store.scratchPath text.toUTF8) files
      (.ok ()) (files.put source (.file text.toUTF8)) := .of_ok hwrite
  have hsecond : Simulation.Yields (FileAccess.rename store.scratchPath store.path)
      (files.put source (.file text.toUTF8)) (.ok ()) files' := .of_ok hrename
  exact hfirst.bind (hsecond.bind (.pure _))

/-- A text is put in the file's place only if both paths lead to places of files. -/
theorem filePlaces_of_replace {text : String} {world world' : World}
    (h : (store.replace text : Simulation _) world = (.ok (), world')) :
    (∃ place, world.files.FilePlace store.scratchPath place) ∧
      ∃ place, world.files.FilePlace store.path place := by
  rw [replace] at h
  obtain ⟨result, middle, hwrite, h⟩ := Simulation.exists_of_bind h
  split at h
  · cases h
  · obtain ⟨result', middle', hrename, h⟩ := Simulation.exists_of_bind h
    split at h
    · cases h
    · obtain ⟨hwrite, -⟩ := Simulation.writeText_eq_ok_iff.mp hwrite
      obtain ⟨hrename, -⟩ := Simulation.rename_eq_ok_iff.mp hrename
      obtain ⟨source, hsource, -⟩ := FileTree.writeBytes_eq_ok_iff.mp hwrite
      obtain ⟨-, target, -, -, htarget, -⟩ := FileTree.rename_eq_ok_iff.mp hrename
      have hback := (FileTree.SameDirectories.of_writeBytes hwrite).symm
      exact ⟨⟨source, hsource⟩, ⟨target, hback.filePlace htarget⟩⟩

/-- In a ready store every index can be saved. The store stays ready and its file holds the
    document of the index. -/
theorem Ready.save (h : Ready store files) (index : CardIndex) :
    ∃ files', Simulation.Yields (store.save index) files (.ok ()) files' ∧
      Ready store files' ∧ files'.readBytes store.path = .ok index.written.toUTF8 := by
  obtain ⟨source, hsource⟩ := h.scratch
  obtain ⟨target, htarget⟩ := h.file
  obtain ⟨files', hreplace, hsame, hread⟩ := exists_replace hsource htarget index.written
  refine ⟨files', ?_, h.of_sameDirectories hsame, hread⟩
  exact (makeRoom_of_room h.room).bind (hreplace.bind (Simulation.Yields.note _ |>.bind (.pure _)))

/-- A save that succeeds leaves the store ready, and its file holds the document of the
    index. -/
theorem ready_of_save {index : CardIndex} {world world' : World}
    (h : (store.save index : Simulation _) world = (.ok (), world')) :
    Ready store world'.files ∧ world'.files.readBytes store.path = .ok index.written.toUTF8 := by
  rw [Store.save] at h
  obtain ⟨result, middle, hroom, h⟩ := Simulation.exists_of_bind h
  split at h
  · cases h
  · obtain ⟨result', middle', hreplace, h⟩ := Simulation.exists_of_bind h
    split at h
    · cases h
    · obtain ⟨⟨source, hsource⟩, target, htarget⟩ := filePlaces_of_replace hreplace
      obtain ⟨files', hreplace', hsame, hread⟩ := exists_replace hsource htarget index.written
      have hfiles : middle'.files = files' := by rw [← hreplace'.files_snd, hreplace]
      have hready : Ready store middle.files :=
        ⟨room_of_makeRoom hroom, ⟨source, hsource⟩, ⟨target, htarget⟩⟩
      cases h
      subst hfiles
      exact ⟨hready.of_sameDirectories hsame, hread⟩

theorem isSteady_save (store : Store) (index : CardIndex) :
    Simulation.IsSteady (store.save index) := by
  have hroom : Simulation.IsSteady store.makeRoom := by
    rw [makeRoom]
    split
    · exact .pure _
    · refine .bind (FileAccess.isSteady_makeInnermost _) fun result => ?_
      split <;> exact .pure _
  have hreplace : Simulation.IsSteady (store.replace index.written) := by
    refine .bind (Simulation.isSteady_change (·.writeBytes _ _)) fun result => ?_
    split
    · exact .pure _
    · refine .bind (Simulation.isSteady_change (·.rename _ _)) fun result' => ?_
      split <;> exact .pure _
  refine .bind hroom fun result => ?_
  split
  · exact .pure _
  · refine .bind hreplace fun result' => ?_
    split
    · exact .pure _
    · exact .bind (.note _) fun _ => .pure _

/-- Every index can be saved. -/
def CanSave (store : Store) (files : FileTree) : Prop :=
  ∀ index, ((store.save index : Simulation _) ⟨files, []⟩).1 = .ok ()

/-- Where every index can be saved, every index can be saved again afterwards. -/
theorem CanSave.save (h : CanSave store files) (index : CardIndex) :
    ∃ files', Simulation.Yields (store.save index) files (.ok ()) files' ∧
      CanSave store files' ∧ files'.readBytes store.path = .ok index.written.toUTF8 := by
  have hrun := (isSteady_save store index).yields ⟨files, []⟩
  rw [h index] at hrun
  obtain ⟨hready, hread⟩ := ready_of_save (Prod.ext (h index) rfl :
    (store.save index : Simulation _) ⟨files, []⟩ = (.ok (), _))
  refine ⟨_, hrun, fun next => ?_, hread⟩
  obtain ⟨files'', hnext, -⟩ := hready.save next
  obtain ⟨events, hnext⟩ := hnext []
  exact congrArg Prod.fst hnext

/-! ## Loads -/

theorem looksOnly_load (store : Store) : Simulation.LooksOnly store.load := by
  refine .bind (FileAccess.looksOnly_readText store.path) fun result => ?_
  cases result with
  | error e => exact .pure _
  | ok text =>
    dsimp only
    split
    · exact .pure _
    · exact .bind (.note _) fun _ => .pure _

theorem looksOnly_loadOrEmpty (store : Store) : Simulation.LooksOnly store.loadOrEmpty := by
  refine .bind (looksOnly_load store) fun result => ?_
  split
  · exact .bind (.note _) fun _ => .pure _
  · exact .pure _

/-- A file that holds a document is loaded as the index that the document is read as. -/
theorem yields_load_of_read {text : String} {index : CardIndex}
    (hfile : files.readBytes store.path = .ok text.toUTF8)
    (hread : CardIndex.read text = .ok index) :
    Simulation.Yields store.load files (.ok index) files := by
  refine (FileAccess.yields_readText hfile).bind ?_
  simp only [hread]
  exact (Simulation.Yields.note _).bind (.pure _)

/-- A file that holds the document of an index is loaded as the index. -/
theorem yields_load {index : CardIndex} (hindex : index.IsNormal)
    (hread : files.readBytes store.path = .ok index.written.toUTF8) :
    Simulation.Yields store.load files (.ok index) files :=
  yields_load_of_read hread (CardIndex.read_written hindex)

theorem yields_loadOrEmpty {index : CardIndex} (hindex : index.IsNormal)
    (hread : files.readBytes store.path = .ok index.written.toUTF8) :
    Simulation.Yields store.loadOrEmpty files (.ok index) files :=
  (yields_load hindex hread).bind (.pure _)

theorem isNormal_of_load {index : CardIndex} {world world' : World}
    (h : (store.load : Simulation _) world = (.ok index, world')) : index.IsNormal := by
  obtain ⟨result, middle, -, h⟩ := Simulation.exists_of_bind h
  cases result with
  | error e => cases h
  | ok text =>
    cases hread : CardIndex.read text with
    | error fault =>
      simp only [hread] at h
      cases h
    | ok loaded =>
      simp only [hread] at h
      cases h
      exact CardIndex.isNormal_of_read hread

/-- An index that was loaded has the invariant. -/
theorem isNormal_of_loadOrEmpty {index : CardIndex} {world world' : World}
    (h : (store.loadOrEmpty : Simulation _) world = (.ok index, world')) : index.IsNormal := by
  obtain ⟨result, middle, hload, h⟩ := Simulation.exists_of_bind h
  split at h
  · cases h
    exact CardIndex.isNormal_empty
  · cases h
    exact isNormal_of_load hload

/-- For every index that the operations and documents lead to, reading inverts writing, and
    after a save that succeeds both ways to load the index give it back. -/
theorem load_after_save (store : Store) (world : World) {index : CardIndex}
    (hindex : index.Reachable)
    (hsave : ((store.save index : Simulation _) world).1 = .ok ()) :
    CardIndex.read index.written = .ok index ∧
      ((store.load : Simulation _) ((store.save index : Simulation _) world).2).1 = .ok index ∧
      ((store.loadOrEmpty : Simulation _) ((store.save index : Simulation _) world).2).1 =
        .ok index := by
  have hrun : (store.save index : Simulation _) world =
      (.ok (), ((store.save index : Simulation _) world).2) := Prod.ext hsave rfl
  obtain ⟨-, hread⟩ := ready_of_save hrun
  have hnormal := hindex.isNormal
  exact ⟨CardIndex.read_written hnormal, (yields_load hnormal hread).fst,
    (yields_loadOrEmpty hnormal hread).fst⟩

theorem load_after_first_save :
    let store : Store := ⟨⟨"data/cards.json"⟩⟩
    let index := (CardIndex.empty.insert " Æther \"Vial\" " "a\\\x7f").2
    let save : Simulation (Except StoreError Unit) := store.save index
    (save ⟨.empty, []⟩).1 = .ok () ∧
      ((store.load : Simulation _) (save ⟨.empty, []⟩).2).1 = .ok index :=
  ⟨rfl, (load_after_save ⟨⟨"data/cards.json"⟩⟩ ⟨.empty, []⟩ (.insert _ _ .empty) rfl).2.1⟩

end Store

end CubeQuery
