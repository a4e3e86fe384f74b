import CubeQuery.Proofs.Settings.RoundTrip
import CubeQuery.Proofs.World
import CubeQuery.Settings.File

/-!
# Saving and loading settings

Saving makes the directory of the settings file and writes the document to it.
When it succeeds, the settings load again, and every later save succeeds as well.

* `Settings.Ready`: the directory and the place of the file are there.
* `Settings.CanSave.save`: where settings can be saved, that stays so after a save.
* `Settings.yields_loadFrom`: a file that holds the document of settings loads as them.
-/

namespace CubeQuery.Settings

open Simulation (Yields IsSteady)

variable {path : Path} {files files' : FileTree}

/-! ## Saves -/

/-- Everything that a save needs is in its place. -/
structure Ready (path : Path) (files : FileTree) : Prop where
  room : ∀ directory, path.parent? = some directory →
    directory.text.isEmpty = true ∨ files.isDirectory directory = true
  file : ∃ place, files.FilePlace path place

/-- In its place a file can be written. The place stays, and the file holds the document. -/
theorem exists_writeBytes {place : FileTree.Place} (h : files.FilePlace path place)
    (document : String) :
    ∃ files', files.writeBytes path document.toUTF8 = .ok files' ∧
      files.SameDirectories files' ∧ files'.readBytes path = .ok document.toUTF8 := by
  have hwrite : files.writeBytes path document.toUTF8 =
      .ok (files.put place (.file document.toUTF8)) :=
    FileTree.writeBytes_eq_ok_iff.mpr ⟨place, h, rfl⟩
  have hsame := FileTree.SameDirectories.of_writeBytes hwrite
  refine ⟨_, hwrite, hsame, FileTree.readBytes_of_filePlace (hsame.filePlace h) ?_⟩
  rw [FileTree.node?_put files h.ne_nil, if_pos rfl]

theorem Ready.of_sameDirectories (h : Ready path files) (hsame : files.SameDirectories files') :
    Ready path files' := by
  obtain ⟨place, hplace⟩ := h.file
  refine ⟨fun directory hparent => ?_, place, hsame.filePlace hplace⟩
  exact (h.room directory hparent).imp_right hsame.keepsDirectories.isDirectory

theorem makeRoom_of_room
    (h : ∀ directory, path.parent? = some directory →
      directory.text.isEmpty = true ∨ files.isDirectory directory = true) :
    Yields (makeRoom path) files (.ok ()) files := by
  rw [makeRoom]
  cases hparent : path.parent? with
  | none => exact .pure _
  | some directory =>
    exact (FileAccess.makeDirectories_of_room (h directory hparent)).bind (.pure _)

theorem room_of_makeRoom {world world' : World}
    (h : (makeRoom path : Simulation _) world = (.ok (), world')) (directory : Path)
    (hparent : path.parent? = some directory) :
    directory.text.isEmpty = true ∨ world'.files.isDirectory directory = true := by
  rw [makeRoom, hparent] at h
  obtain ⟨result, middle, hmade, h⟩ := Simulation.exists_of_bind h
  split at h
  · cases h
    exact FileAccess.room_of_makeDirectories hmade
  · cases h

/-- With everything in its place, all settings can be saved. -/
theorem Ready.saveTo (h : Ready path files) (settings : Settings) :
    ∃ files', Yields (saveTo path settings) files (.ok ()) files' := by
  obtain ⟨place, hplace⟩ := h.file
  obtain ⟨files', hwrite, -⟩ := exists_writeBytes hplace settings.written
  have hwritten : Yields (FileAccess.writeBytes path settings.written.toUTF8) files (.ok ())
    files' := .of_ok hwrite
  exact ⟨files', (makeRoom_of_room h.room).bind (hwritten.bind (.pure _))⟩

/-- A save that succeeds leaves everything in its place, and the file holds the document. -/
theorem ready_of_saveTo {settings : Settings} {world world' : World}
    (h : (saveTo path settings : Simulation _) world = (.ok (), world')) :
    Ready path world'.files ∧ world'.files.readBytes path = .ok settings.written.toUTF8 := by
  rw [saveTo, writeTo] at h
  obtain ⟨result, middle, hroom, h⟩ := Simulation.exists_of_bind h
  split at h
  · cases h
  · obtain ⟨result', middle', hwritten, h⟩ := Simulation.exists_of_bind h
    split at h
    · cases h
      obtain ⟨hwritten, -⟩ := Simulation.writeText_eq_ok_iff.mp hwritten
      obtain ⟨place, hplace, -⟩ := FileTree.writeBytes_eq_ok_iff.mp hwritten
      obtain ⟨files', hwrite, hsame, hread⟩ := exists_writeBytes hplace settings.written
      obtain rfl : world'.files = files' := Except.ok.inj (hwritten.symm.trans hwrite)
      have hready : Ready path middle.files := ⟨room_of_makeRoom hroom, place, hplace⟩
      exact ⟨hready.of_sameDirectories hsame, hread⟩
    · cases h

theorem isSteady_saveTo (path : Path) (settings : Settings) : IsSteady (saveTo path settings) := by
  have hroom : IsSteady (makeRoom path) := by
    rw [makeRoom]
    split
    · exact .pure _
    · refine .bind (FileAccess.isSteady_makeInnermost _) fun result => ?_
      split <;> exact .pure _
  refine .bind hroom fun result => ?_
  split
  · exact .pure _
  · refine .bind (Simulation.isSteady_change (·.writeBytes _ _)) fun result' => ?_
    split <;> exact .pure _

/-- All settings can be saved. -/
def CanSave (path : Path) (files : FileTree) : Prop :=
  ∀ settings, ((saveTo path settings : Simulation _) ⟨files, []⟩).1 = .ok ()

/-- Where all settings can be saved, they can be saved again afterwards. -/
theorem CanSave.save (h : CanSave path files) (settings : Settings) :
    ∃ files', Yields (saveTo path settings) files (.ok ()) files' ∧
      CanSave path files' ∧ files'.readBytes path = .ok settings.written.toUTF8 := by
  have hrun := (isSteady_saveTo path settings).yields ⟨files, []⟩
  rw [h settings] at hrun
  obtain ⟨hready, hread⟩ := ready_of_saveTo (Prod.ext (h settings) rfl :
    (saveTo path settings : Simulation _) ⟨files, []⟩ = (.ok (), _))
  refine ⟨_, hrun, fun next => ?_, hread⟩
  obtain ⟨files'', hnext⟩ := hready.saveTo next
  obtain ⟨events, hnext⟩ := hnext []
  exact congrArg Prod.fst hnext

/-! ## Loads -/

/-- A file that holds a document is loaded as the settings that the document is read as. -/
theorem yields_loadFrom_of_read {text : String} {settings : Settings}
    (hfile : files.readBytes path = .ok text.toUTF8) (hread : read? text = some settings) :
    Yields (loadFrom path) files (.ok settings) files := by
  have hpresent : Yields (FileAccess.isPresent path) files true files :=
    fun events => ⟨events, by rw [← FileTree.isPresent_of_readBytes hfile]; rfl⟩
  refine hpresent.bind ((FileAccess.yields_readText hfile).bind ?_)
  simp only [hread]
  exact (Yields.note _).bind (.pure _)

/-- A file that holds the document of settings is loaded as the settings. -/
theorem yields_loadFrom {settings : Settings}
    (hread : files.readBytes path = .ok settings.written.toUTF8) :
    Yields (loadFrom path) files (.ok settings) files :=
  yields_loadFrom_of_read hread (read?_written settings)

end CubeQuery.Settings
