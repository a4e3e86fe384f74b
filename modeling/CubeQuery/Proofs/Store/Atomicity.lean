import CubeQuery.Proofs.Files.Held
import CubeQuery.Proofs.Files.Path
import CubeQuery.Proofs.Files.Watched
import CubeQuery.Store

/-!
# Saves that fail half-way

A save makes directories, writes a second file and moves it. Whichever of these
fails, the store's file is as before, and on the way it holds either what it held
or the whole new document.

* `Saved`, `Unsaved`: the files after a save that succeeds and after one that fails.
* `saved_of_rename`, `unsaved_of_rename`: the last step of a save.
* `save_atomically`: what every save leaves, and what the store's file holds after every
  single operation.
-/

namespace CubeQuery.Store

open FileTree (ChangesOnly IsGrounded IsDirect)
open Watched (Watches)

variable {store : Store} {content : ByteArray} {files room written moved : FileTree}

/-! ## The files after a save -/

/-- What a save that succeeds makes of the files. -/
structure Saved (store : Store) (content : ByteArray) (files files' : FileTree) : Prop where
  directories : files.KeepsDirectories files'
  holds : files'.readBytes store.path = .ok content
  /-- The second file is gone, unless it is the store's own. -/
  scratch : store.scratchPath = store.path ∨ files'.isPresent store.scratchPath = false
  others : ∀ place, ¬ files'.LeadsTo store.path place → ¬ files'.LeadsTo store.scratchPath place →
    files'.file? place = files.file? place
  grounded : files.IsGrounded → files'.IsGrounded

/-- What a save that fails makes of the files. -/
structure Unsaved (store : Store) (content : ByteArray) (e : StoreError)
    (files files' : FileTree) : Prop where
  directories : files.KeepsDirectories files'
  /-- One of the three steps failed: making the directory, writing or moving. -/
  cause : (∃ directory cause, store.path.parent? = some directory ∧
      e = .noDirectory directory cause) ∨
    (∃ cause, e = .unwritable store.scratchPath cause) ∨
      ∃ cause, e = .unwritable store.path cause
  /-- At most the second file has changed, and then it holds the content. -/
  others : ∀ place, files'.file? place = files.file? place ∨
    files'.LeadsTo store.scratchPath place ∧ files'.file? place = some content
  file : ∀ place, files'.FilePlace store.path place → files'.file? place = files.file? place
  grounded : files.IsGrounded → files'.IsGrounded

/-- A path that goes only down holds after a failure what it held. -/
theorem Unsaved.held_eq {e : StoreError} {files' : FileTree}
    (h : Unsaved store content e files files') (hground : files.IsGrounded)
    (hdirect : IsDirect store.path) : files'.held store.path = files.held store.path := by
  refine FileTree.held_eq_of_file?_eq hground hdirect h.directories fun place hleads => ?_
  cases hdir : files'.hasDirectory place with
  | false => exact h.file place (FileTree.filePlace_of_placeFor hleads hdir)
  | true =>
    -- a directory is not a file that holds the content
    rcases h.others place with hsame | ⟨-, hcontent⟩
    · exact hsame
    · rw [FileTree.file?_eq_some_iff] at hcontent
      rw [FileTree.hasDirectory_eq_false_of_file hcontent] at hdir
      cases hdir

/-! ## The steps of a save -/

/-- The files while directories are made: all files are as before. -/
structure Roomed (files room : FileTree) : Prop where
  changes : ChangesOnly (fun _ => False) files room
  grounded : files.IsGrounded → room.IsGrounded

theorem Roomed.refl (files : FileTree) : Roomed files files := ⟨.refl _ files, id⟩

theorem Roomed.makeDirectory (h : Roomed files room) {path : Path} {room' : FileTree}
    (hmake : room.makeDirectory path = .ok room') : Roomed files room' :=
  ⟨h.changes.trans (.of_makeDirectory hmake),
    fun hground => (h.grounded hground).makeDirectory hmake⟩

theorem Roomed.file?_eq (h : Roomed files room) (place : FileTree.Place) :
    room.file? place = files.file? place := by
  by_contra hne
  obtain ⟨path, hnone, -⟩ := h.changes.files place hne
  exact hnone

theorem Roomed.held_eq (h : Roomed files room) (hground : files.IsGrounded)
    (hdirect : IsDirect store.path) : room.held store.path = files.held store.path :=
  FileTree.held_eq_of_file?_eq hground hdirect h.changes.directories fun place _ =>
    h.file?_eq place

theorem Roomed.unsaved (h : Roomed files room) {e : StoreError}
    (hcause : (∃ directory cause, store.path.parent? = some directory ∧
        e = .noDirectory directory cause) ∨ ∃ cause, e = .unwritable store.scratchPath cause) :
    Unsaved store content e files room where
  directories := h.changes.directories
  cause := hcause.imp_right .inl
  others place := .inl (h.file?_eq place)
  file place _ := h.file?_eq place
  grounded := h.grounded

/-- If the second file cannot be moved, then there is no place for the store's file, and no
    other file than the second has changed. -/
theorem unsaved_of_rename (hroom : Roomed files room)
    (hwrite : room.writeBytes store.scratchPath content = .ok written) {cause : FileError}
    (hrename : written.rename store.scratchPath store.path = .error cause) :
    Unsaved store content (.unwritable store.path cause) files written := by
  have hsame := FileTree.SameDirectories.of_writeBytes hwrite
  obtain ⟨p, hp, rfl⟩ := FileTree.writeBytes_eq_ok_iff.mp hwrite
  have hnode : (room.put p (.file content)).node? p = some (.file content) := by
    rw [FileTree.node?_put room hp.ne_nil, if_pos rfl]
  refine ⟨fun place hdir => hsame.keepsDirectories place (hroom.changes.directories place hdir),
    .inr (.inr ⟨cause, rfl⟩), fun place => ?_, fun place hplace => ?_,
    fun hground => (hroom.grounded hground).writeBytes hwrite⟩
  · by_cases heq : place = p
    · subst heq
      exact .inr ⟨(hsame.filePlace hp).leadsTo, FileTree.file?_eq_some_iff.mpr hnode⟩
    · exact .inl ((FileTree.file?_put hp.ne_nil _ heq).trans (hroom.file?_eq place))
  · obtain ⟨moved, hmoved, -⟩ := FileTree.exists_rename (hsame.filePlace hp) hplace hnode
    rw [hmoved] at hrename
    cases hrename

/-- Moving the second file ends a save. -/
theorem saved_of_rename (hroom : Roomed files room)
    (hwrite : room.writeBytes store.scratchPath content = .ok written)
    (hrename : written.rename store.scratchPath store.path = .ok moved) :
    Saved store content files moved := by
  have hsame := FileTree.SameDirectories.of_writeBytes hwrite
  have hsame' := FileTree.SameDirectories.of_rename hrename
  have hchanges : ChangesOnly (fun path => path = store.path ∨ path = store.scratchPath)
      files moved :=
    ((hroom.changes.mono nofun).trans (.of_writeBytes (.inr rfl) hwrite)).trans
      (.of_rename (.inr rfl) (.inl rfl) hrename)
  obtain ⟨p, hp, rfl⟩ := FileTree.writeBytes_eq_ok_iff.mp hwrite
  have hnode : (room.put p (.file content)).node? p = some (.file content) := by
    rw [FileTree.node?_put room hp.ne_nil, if_pos rfl]
  have hp := hsame.filePlace hp
  obtain ⟨p', q, content', hp', hq, hnode', hmoved⟩ := FileTree.rename_eq_ok_iff.mp hrename
  have hpp : p = p' := hp.place_eq hp'
  subst hpp
  rw [hnode] at hnode'
  cases hnode'
  have hq' := hsame'.filePlace hq
  refine ⟨hchanges.directories, ?_, ?_, fun place hpath hscratch => ?_,
    fun hground => ((hroom.grounded hground).writeBytes hwrite).rename hrename⟩
  · refine FileTree.readBytes_of_filePlace hq' ?_
    rw [hmoved]
    split_ifs with heq
    · rw [← heq, hnode]
    · rw [FileTree.node?_put _ hq.ne_nil, if_pos rfl]
  · by_cases heq : p = q
    · subst heq
      exact .inl (Path.withExtension_eq_self (by decide) hq hp)
    · right
      refine FileTree.isPresent_eq_false_of_filePlace (hsame'.filePlace hp) ?_
      rw [hmoved, if_neg heq, FileTree.node?_put _ hq.ne_nil, if_neg heq,
        FileTree.node?_clear _ hp.ne_nil, if_pos rfl]
  · by_contra hne
    obtain ⟨path, rfl | rfl, hleads⟩ := hchanges.files place hne
    · exact hpath hleads
    · exact hscratch hleads

/-! ## The store's file on the way -/

/-- On the way a path that goes only down holds what it held or the new content. -/
def HoldsOldOrNew (store : Store) (content : ByteArray) (files tree : FileTree) : Prop :=
  files.IsGrounded → IsDirect store.path →
    tree.held store.path = files.held store.path ∨ tree.held store.path = some content

theorem Roomed.holdsOldOrNew (h : Roomed files room) : HoldsOldOrNew store content files room :=
  fun hground hdirect => .inl (h.held_eq hground hdirect)

theorem Saved.holdsOldOrNew (h : Saved store content files moved) :
    HoldsOldOrNew store content files moved :=
  fun _ _ => .inr (FileTree.held_eq_some_iff_readBytes.mpr h.holds)

/-- After the second file was written, the store's file is the old one, or it is the second
    file itself. -/
theorem holdsOldOrNew_of_writeBytes (hroom : Roomed files room)
    (hwrite : room.writeBytes store.scratchPath content = .ok written) :
    HoldsOldOrNew store content files written := by
  intro hground hdirect
  cases hrename : written.rename store.scratchPath store.path with
  | error cause => exact .inl ((unsaved_of_rename hroom hwrite hrename).held_eq hground hdirect)
  | ok moved =>
    have hsame := FileTree.SameDirectories.of_writeBytes hwrite
    obtain ⟨p, hp, rfl⟩ := FileTree.writeBytes_eq_ok_iff.mp hwrite
    obtain ⟨-, q, -, -, hq, -, -⟩ := FileTree.rename_eq_ok_iff.mp hrename
    by_cases heq : q = p
    · subst heq
      right
      rw [FileTree.held_eq_some_iff_readBytes]
      refine FileTree.readBytes_of_filePlace hq ?_
      rw [FileTree.node?_put room hp.ne_nil, if_pos rfl]
    · left
      refine FileTree.held_eq_of_file?_eq hground hdirect (fun place hdir =>
        hsame.keepsDirectories place (hroom.changes.directories place hdir)) fun place hleads => ?_
      have hplace : place = q := by
        have hsame := hleads.symm.trans (hq.leads .busy)
        rw [Except.ok.injEq, Prod.mk.injEq] at hsame
        exact hsame.1
      rw [hplace, FileTree.file?_put hp.ne_nil _ heq, hroom.file?_eq]

/-! ## Saves -/

/-- What a save leaves, by its result. -/
def Leaves (store : Store) (content : ByteArray) (files : FileTree)
    (result : Except StoreError Unit) (files' : FileTree) : Prop :=
  match result with
  | .ok () => Saved store content files files'
  | .error e => Unsaved store content e files files'

theorem watches_makeRoom (store : Store) (content : ByteArray) (files : FileTree) :
    Watches (HoldsOldOrNew store content files) (Roomed files)
      (fun result room => match result with
        | .ok () => Roomed files room
        | .error e => Unsaved store content e files room)
      store.makeRoom store.makeRoom := by
  rw [makeRoom, makeRoom]
  cases hparent : store.path.parent? with
  | none => exact .pure fun _ hroom => hroom
  | some directory =>
    have hmake := (FileAccess.watches_makeInnermost
      (fun _ _ _ (h : Roomed files _) hmake => h.makeDirectory hmake) directory.ancestors).mono
      fun room (h : Roomed files room) => (h.holdsOldOrNew : HoldsOldOrNew store content files room)
    refine hmake.bind fun result => ?_
    cases result with
    | ok _ => exact .pure fun _ hroom => hroom
    | error cause =>
      exact .pure fun _ hroom => hroom.unsaved (.inl ⟨directory, cause, hparent, rfl⟩)

/-- What one operation leaves, by its result. -/
def StepLeaves (done : FileTree → Prop) (failed : FileError → FileTree → Prop) :
    Except FileError Unit → FileTree → Prop
  | .ok () => done
  | .error cause => failed cause

theorem watches_replace (store : Store) (text : String) (files : FileTree) :
    Watches (HoldsOldOrNew store text.toUTF8 files) (Roomed files)
      (Leaves store text.toUTF8 files) (store.replace text) (store.replace text) := by
  have hwrite : Watches (HoldsOldOrNew store text.toUTF8 files) (Roomed files)
      (StepLeaves (fun written => ∃ room, Roomed files room ∧
          room.writeBytes store.scratchPath text.toUTF8 = .ok written) fun _ => Roomed files)
      (FileAccess.writeText store.scratchPath text)
      (FileAccess.writeText store.scratchPath text) :=
    .change (fun _ _ hroom _ => ⟨hroom.holdsOldOrNew, hroom⟩) fun room _ hroom hrun =>
      ⟨holdsOldOrNew_of_writeBytes hroom hrun, room, hroom, hrun⟩
  refine hwrite.bind fun result => ?_
  cases result with
  | error cause => exact .pure fun _ hroom => hroom.unsaved (.inr ⟨cause, rfl⟩)
  | ok _ =>
    have hrename : Watches (HoldsOldOrNew store text.toUTF8 files)
        (fun written => ∃ room, Roomed files room ∧
          room.writeBytes store.scratchPath text.toUTF8 = .ok written)
        (StepLeaves (Saved store text.toUTF8 files) fun cause =>
          Unsaved store text.toUTF8 (.unwritable store.path cause) files)
        (FileAccess.rename store.scratchPath store.path)
        (FileAccess.rename store.scratchPath store.path) := by
      refine .change ?_ ?_
      · rintro written cause ⟨room, hroom, hrun⟩ herror
        exact ⟨holdsOldOrNew_of_writeBytes hroom hrun, unsaved_of_rename hroom hrun herror⟩
      · rintro written moved ⟨room, hroom, hrun⟩ hok
        have hsaved := saved_of_rename hroom hrun hok
        exact ⟨hsaved.holdsOldOrNew, hsaved⟩
    refine hrename.bind fun result' => ?_
    cases result' with
    | error cause => exact .pure fun _ hunsaved => hunsaved
    | ok _ => exact .pure fun _ hsaved => hsaved

theorem watches_save (store : Store) (index : CardIndex) (files : FileTree) :
    Watches (HoldsOldOrNew store index.written.toUTF8 files) (Roomed files)
      (Leaves store index.written.toUTF8 files) (store.save index) (store.save index) := by
  refine (watches_makeRoom store _ files).bind fun result => ?_
  cases result with
  | error e => exact .pure fun _ hunsaved => hunsaved
  | ok _ =>
    refine (watches_replace store index.written files).bind fun result' => ?_
    cases result' with
    | error e => exact .pure fun _ hunsaved => hunsaved
    | ok _ =>
      refine .bind (.note _ fun _ hsaved => ?_) fun _ => .pure fun _ hsaved => hsaved
      exact Saved.holdsOldOrNew hsaved

/-- A save that succeeds leaves the document in the store's file, no second file and all
    other files as they were. One that fails changes at most the second file, which then holds
    the document. If the store's path goes only down, then after every operation on files it
    holds what it held or the document. -/
theorem save_atomically (store : Store) (index : CardIndex) (world : World) :
    let content := index.written.toUTF8
    let files := world.files
    let ending := (store.save index : Simulation _) world
    ∃ seen, (store.save index : Watched _) [] world = ((ending.1, seen), ending.2) ∧
      (ending.1 = .ok () → Saved store content files ending.2.files) ∧
      (∀ e, ending.1 = .error e → Unsaved store content e files ending.2.files) ∧
      (files.IsGrounded → IsDirect store.path →
        (∀ tree ∈ seen, tree.held store.path = files.held store.path ∨
          tree.held store.path = some content) ∧
        ∀ e, ending.1 = .error e →
          ending.2.files.held store.path = files.held store.path) := by
  intro content files ending
  obtain ⟨seen, hrun, hseen, hleaves⟩ :=
    watches_save store index files [] world (Roomed.refl files)
  have hfailed : ∀ e, ending.1 = .error e → Unsaved store content e files ending.2.files := by
    intro e he
    have hleaves : Leaves store content files ending.1 ending.2.files := hleaves
    rw [he] at hleaves
    exact hleaves
  refine ⟨seen, hrun, fun hok => ?_, hfailed, fun hground hdirect =>
    ⟨fun tree htree => hseen tree htree hground hdirect, fun e he =>
      (hfailed e he).held_eq hground hdirect⟩⟩
  have hleaves : Leaves store content files ending.1 ending.2.files := hleaves
  rw [hok] at hleaves
  exact hleaves

/-- With a slash at its end a path has no place for a file, and the second file stays. -/
theorem save_atomically_of_slash :
    let store : Store := ⟨⟨"data/cards.tmp/"⟩⟩
    let index := (CardIndex.empty.insert "Æther Vial" "a\"b").2
    let ending := (store.save index : Simulation _) ⟨.empty, []⟩
    ending.1 = .error (.unwritable store.path .notDirectory) ∧
      store.scratchPath = ⟨"data/cards.tmp"⟩ ∧
      ending.2.files.held store.scratchPath = some index.written.toUTF8 ∧
      ending.2.files.held store.path = FileTree.empty.held store.path := by
  obtain ⟨seen, -, -, -, hdown⟩ := save_atomically ⟨⟨"data/cards.tmp/"⟩⟩
    (CardIndex.empty.insert "Æther Vial" "a\"b").2 ⟨.empty, []⟩
  refine ⟨rfl, rfl, rfl, ?_⟩
  exact (hdown FileTree.isGrounded_empty (by decide)).2
    (.unwritable ⟨"data/cards.tmp/"⟩ .notDirectory) rfl

end CubeQuery.Store
