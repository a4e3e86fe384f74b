import CubeQuery.Proofs.Files.Tree
import CubeQuery.World

/-!
# Programs in a model world

A program depends on the files of its world, and the events told before make no
difference to it. `Yields` says what a program does on some files, and goes
through a program step by step.

* `Simulation.Yields`: the value and the files that a program ends with.
* `Simulation.IsSteady`, `Simulation.LooksOnly`: programs that end in one way on all
  worlds with the same files, and those that leave the files alone.
* `FileAccess.isDirectory_of_makeInnermost`, `FileAccess.makeInnermost_of_isDirectory`:
  directories that were made are there, and those that are there are not made.
-/

namespace CubeQuery

namespace Simulation

variable {α β : Type} {files files' files'' : FileTree}

/-- A run on some files gives a value and leaves some files, whatever has been told before. -/
def Yields (x : Simulation α) (files : FileTree) (a : α) (files' : FileTree) : Prop :=
  ∀ events, ∃ events', x ⟨files, events⟩ = (a, ⟨files', events'⟩)

theorem Yields.pure (a : α) : Yields (Pure.pure a) files a files := fun events => ⟨events, rfl⟩

theorem Yields.note (event : Event) : Yields (Journal.note event) files () files :=
  fun events => ⟨events ++ [event], rfl⟩

theorem Yields.bind {x : Simulation α} {f : α → Simulation β} {a : α} {b : β}
    (hx : Yields x files a files') (hf : Yields (f a) files' b files'') :
    Yields (x >>= f) files b files'' := by
  intro events
  obtain ⟨events', hx⟩ := hx events
  obtain ⟨events'', hf⟩ := hf events'
  refine ⟨events'', ?_⟩
  show f (x ⟨files, events⟩).1 (x ⟨files, events⟩).2 = _
  rw [hx, hf]

theorem Yields.readBytes (path : Path) :
    Yields (FileAccess.readBytes path) files (files.readBytes path) files :=
  fun events => ⟨events, rfl⟩

/-- A run has one value. -/
theorem Yields.fst {x : Simulation α} {a : α} {world : World}
    (h : Yields x world.files a files') : (x world).1 = a := by
  obtain ⟨events', h⟩ := h world.events
  exact congrArg Prod.fst h

/-- A run leaves one tree of files. -/
theorem Yields.files_snd {x : Simulation α} {a : α} {world : World}
    (h : Yields x world.files a files') : (x world).2.files = files' := by
  obtain ⟨events', h⟩ := h world.events
  exact congrArg (·.2.files) h

/-- What has been told before makes no difference to the program. -/
def IsSteady (x : Simulation α) : Prop := ∀ files, ∃ a files', Yields x files a files'

theorem IsSteady.pure (a : α) : IsSteady (Pure.pure a) := fun files => ⟨a, files, .pure a⟩

theorem IsSteady.note (event : Event) : IsSteady (Journal.note event) :=
  fun files => ⟨(), files, .note event⟩

theorem IsSteady.bind {x : Simulation α} {f : α → Simulation β} (hx : IsSteady x)
    (hf : ∀ a, IsSteady (f a)) : IsSteady (x >>= f) := by
  intro files
  obtain ⟨a, files', hx⟩ := hx files
  obtain ⟨b, files'', hf⟩ := hf a files'
  exact ⟨b, files'', hx.bind hf⟩

/-- A steady program does on some files what it does in one world with them. -/
theorem IsSteady.yields {x : Simulation α} (h : IsSteady x) (world : World) :
    Yields x world.files (x world).1 (x world).2.files := by
  obtain ⟨a, files', h⟩ := h world.files
  rw [h.fst, h.files_snd]
  exact h

/-- The program looks at the files and changes none. -/
def LooksOnly (x : Simulation α) : Prop := ∀ files, ∃ a, Yields x files a files

theorem LooksOnly.pure (a : α) : LooksOnly (Pure.pure a) := fun _ => ⟨a, .pure a⟩

theorem LooksOnly.note (event : Event) : LooksOnly (Journal.note event) :=
  fun _ => ⟨(), .note event⟩

theorem LooksOnly.readBytes (path : Path) : LooksOnly (FileAccess.readBytes path) :=
  fun _ => ⟨_, .readBytes path⟩

theorem LooksOnly.bind {x : Simulation α} {f : α → Simulation β} (hx : LooksOnly x)
    (hf : ∀ a, LooksOnly (f a)) : LooksOnly (x >>= f) := by
  intro files
  obtain ⟨a, hx⟩ := hx files
  obtain ⟨b, hf⟩ := hf a files
  exact ⟨b, hx.bind hf⟩

theorem LooksOnly.isSteady {x : Simulation α} (h : LooksOnly x) : IsSteady x := by
  intro files
  obtain ⟨a, h⟩ := h files
  exact ⟨a, files, h⟩

/-- A program that looks only gives on some files what it gives in one world with them. -/
theorem LooksOnly.yields {x : Simulation α} (h : LooksOnly x) (world : World) :
    Yields x world.files (x world).1 world.files := by
  obtain ⟨a, h⟩ := h world.files
  rw [h.fst]
  exact h

/-- A run of two steps goes on from where the first one ends. -/
theorem bind_of_eq {x : Simulation α} {f : α → Simulation β} {world middle : World} {a : α}
    (h : x world = (a, middle)) : (x >>= f) world = f a middle := by
  show f (x world).1 (x world).2 = f a middle
  rw [h]

/-- A run of two steps goes on from the files and the value that the first one yields. -/
theorem Yields.exists_bind {x : Simulation α} {f : α → Simulation β} {files files' : FileTree}
    {a : α} (h : Yields x files a files') (events : List Event) :
    ∃ middle, middle.files = files' ∧ (x >>= f) ⟨files, events⟩ = f a middle := by
  obtain ⟨events', hx⟩ := h events
  exact ⟨⟨files', events'⟩, rfl, bind_of_eq hx⟩

/-- A run of two steps, taken apart. -/
theorem exists_of_bind {x : Simulation α} {f : α → Simulation β} {world : World}
    {ending : β × World} (h : (x >>= f) world = ending) :
    ∃ a middle, x world = (a, middle) ∧ f a middle = ending :=
  ⟨_, _, rfl, h⟩

/-! ## Changes of the files -/

/-- An operation that fails leaves the files as they are. -/
theorem Yields.of_error {operation : FileTree → Except FileError FileTree} {e : FileError}
    (h : operation files = .error e) : Yields (change operation) files (.error e) files := by
  intro events
  refine ⟨events, ?_⟩
  rw [change, h]

theorem Yields.of_ok {operation : FileTree → Except FileError FileTree}
    (h : operation files = .ok files') : Yields (change operation) files (.ok ()) files' := by
  intro events
  refine ⟨events, ?_⟩
  rw [change, h]

theorem isSteady_change (operation : FileTree → Except FileError FileTree) :
    IsSteady (change operation) := by
  intro files
  cases h : operation files with
  | error e => exact ⟨_, _, .of_error h⟩
  | ok files' => exact ⟨_, _, .of_ok h⟩

theorem change_eq_ok_iff (operation : FileTree → Except FileError FileTree)
    {world world' : World} :
    change operation world = (.ok (), world') ↔
      operation world.files = .ok world'.files ∧ world'.events = world.events := by
  obtain ⟨files', events'⟩ := world'
  rw [change]
  cases operation world.files with
  | error e => exact ⟨nofun, fun h => nomatch h.1⟩
  | ok files =>
    constructor
    · intro h
      cases h
      exact ⟨rfl, rfl⟩
    · rintro ⟨⟨⟩, rfl⟩
      rfl

theorem writeText_eq_ok_iff {path : Path} {text : String} {world world' : World} :
    (FileAccess.writeText path text : Simulation _) world = (.ok (), world') ↔
      world.files.writeBytes path text.toUTF8 = .ok world'.files ∧
        world'.events = world.events :=
  change_eq_ok_iff (·.writeBytes path text.toUTF8)

theorem makeDirectory_eq_ok_iff {path : Path} {world world' : World} :
    (FileAccess.makeDirectory path : Simulation _) world = (.ok (), world') ↔
      world.files.makeDirectory path = .ok world'.files ∧ world'.events = world.events :=
  change_eq_ok_iff (·.makeDirectory path)

theorem rename_eq_ok_iff {source target : Path} {world world' : World} :
    (FileAccess.rename source target : Simulation _) world = (.ok (), world') ↔
      world.files.rename source target = .ok world'.files ∧ world'.events = world.events :=
  change_eq_ok_iff (·.rename source target)

end Simulation

/-! ## Reading texts and making directories -/

namespace FileAccess

theorem fromUTF8?_toUTF8 (text : String) : String.fromUTF8? text.toUTF8 = some text :=
  dif_pos text.isValidUTF8

theorem looksOnly_isPresent (path : Path) : Simulation.LooksOnly (isPresent path) :=
  fun files => ⟨files.isPresent path, fun events => ⟨events, rfl⟩⟩

theorem looksOnly_readText (path : Path) : Simulation.LooksOnly (readText path) := by
  refine .bind (.readBytes path) fun result => ?_
  cases result with
  | error e => exact .pure _
  | ok bytes =>
    dsimp only
    split <;> exact .pure _

theorem yields_readText {path : Path} {text : String} {files : FileTree}
    (h : files.readBytes path = .ok text.toUTF8) :
    Simulation.Yields (readText path) files (.ok text) files := by
  have hbytes : Simulation.Yields (readBytes path) files (.ok text.toUTF8) files :=
    h ▸ .readBytes path
  refine hbytes.bind ?_
  simp only [fromUTF8?_toUTF8]
  exact .pure _

theorem unlessDirectory_eq (path : Path) (e : FileError) (world : World) :
    (unlessDirectory path e : Simulation _) world =
      (if world.files.isDirectory path = true then .ok () else .error e, world) := by
  show (if world.files.isDirectory path = true then pure (.ok ()) else pure (.error e) :
    Simulation (Except FileError Unit)) world = _
  split_ifs <;> rfl

theorem looksOnly_unlessDirectory (path : Path) (e : FileError) :
    Simulation.LooksOnly (unlessDirectory path e) :=
  fun files => ⟨if files.isDirectory path = true then .ok () else .error e,
    fun events => ⟨events, unlessDirectory_eq path e ⟨files, events⟩⟩⟩

/-- One try to make a directory succeeds only if the directory is there afterwards. -/
theorem isDirectory_of_makeDirectory {path : Path} {world world' : World}
    (h : (makeDirectory path : Simulation _) world = (.ok (), world')) :
    world'.files.isDirectory path = true :=
  FileTree.isDirectory_of_makeDirectory (Simulation.makeDirectory_eq_ok_iff.mp h).1

theorem isDirectory_of_unlessDirectory {path : Path} {e : FileError} {world world' : World}
    (h : (unlessDirectory path e : Simulation _) world = (.ok (), world')) :
    world'.files.isDirectory path = true := by
  rw [unlessDirectory_eq] at h
  split_ifs at h with hdir
  · cases h
    exact hdir
  · cases h

/-- Making directories succeeds only if the innermost is there afterwards. -/
theorem isDirectory_of_makeInnermost {path : Path} {outer : List Path} {world world' : World}
    (hpath : path.text.isEmpty = false)
    (h : (makeInnermost (path :: outer) : Simulation _) world = (.ok (), world')) :
    world'.files.isDirectory path = true := by
  rw [makeInnermost, hpath, if_neg Bool.false_ne_true] at h
  obtain ⟨result, world₁, hfirst, h⟩ := Simulation.exists_of_bind h
  split at h
  · cases h
    exact isDirectory_of_makeDirectory hfirst
  · obtain ⟨result', world₂, -, h⟩ := Simulation.exists_of_bind h
    split at h
    · cases h
    · obtain ⟨result'', world₃, hagain, h⟩ := Simulation.exists_of_bind h
      split at h
      · cases h
        exact isDirectory_of_makeDirectory hagain
      · exact isDirectory_of_unlessDirectory h
  · exact isDirectory_of_unlessDirectory h

/-- A directory that is there is left alone. -/
theorem makeInnermost_of_isDirectory {path : Path} {outer : List Path} {files : FileTree}
    (h : files.isDirectory path = true) :
    Simulation.Yields (makeInnermost (path :: outer)) files (.ok ()) files := by
  rw [makeInnermost]
  split_ifs with hpath
  · exact .pure _
  · refine .bind (.of_error (FileTree.makeDirectory_of_isDirectory h)) fun events => ⟨events, ?_⟩
    show (unlessDirectory path .alreadyExists : Simulation _) ⟨files, events⟩ = _
    rw [unlessDirectory_eq, if_pos h]

/-- With the empty path or a directory that is there, no directory is made. -/
theorem makeDirectories_of_room {directory : Path} {files : FileTree}
    (h : directory.text.isEmpty = true ∨ files.isDirectory directory = true) :
    Simulation.Yields (makeDirectories directory) files (.ok ()) files := by
  rcases h with hempty | hdir
  · rw [makeDirectories, Path.ancestors, Path.ancestorsUpTo, makeInnermost, if_pos hempty]
    exact .pure _
  · exact makeInnermost_of_isDirectory hdir

/-- After a directory was made, it is there. -/
theorem room_of_makeDirectories {directory : Path} {world world' : World}
    (h : (makeDirectories directory : Simulation _) world = (.ok (), world')) :
    directory.text.isEmpty = true ∨ world'.files.isDirectory directory = true := by
  cases hempty : directory.text.isEmpty with
  | true => exact .inl rfl
  | false => exact .inr (isDirectory_of_makeInnermost hempty h)

theorem isSteady_makeInnermost (paths : List Path) :
    Simulation.IsSteady (makeInnermost paths) := by
  have hunless : ∀ path e, Simulation.IsSteady (unlessDirectory path e) :=
    fun path e => (looksOnly_unlessDirectory path e).isSteady
  induction paths with
  | nil => exact .pure _
  | cons path outer ih =>
    rw [makeInnermost]
    split_ifs
    · exact .pure _
    · refine .bind (Simulation.isSteady_change (·.makeDirectory path)) fun result => ?_
      split
      · exact .pure _
      · refine .bind ih fun result' => ?_
        split
        · exact .pure _
        · refine .bind (Simulation.isSteady_change (·.makeDirectory path)) fun result'' => ?_
          split
          · exact .pure _
          · exact hunless path _
      · exact hunless path _

end FileAccess

end CubeQuery
