import CubeQuery.Proofs.World

/-!
# Files that differ in one content

Two trees that differ at most in the content of one file. Paths lead to the same
places in both, every operation succeeds in both or fails in both for the same
reason, and the trees stay such a pair. Only reading can tell them apart.

* `FileTree.SameShape`: trees in which every path leads to the same place.
* `FileTree.Twins`: trees that differ at most in the content of one file, and the
  operations on them.
* `Simulation.Pairs`: two programs on two trees, step by step.
-/

namespace CubeQuery

namespace FileTree

variable {tree tree' : FileTree} {path : Path} {place : Place}

/-! ## Trees of one shape -/

/-- Directories and files are at the same places. -/
structure SameShape (tree tree' : FileTree) : Prop where
  directory : ∀ q, tree'.hasDirectory q = tree.hasDirectory q
  present : ∀ q, (tree'.node? q).isSome = (tree.node? q).isSome

namespace SameShape

variable (h : SameShape tree tree')

include h

theorem enter (directory : Place) (name : String) :
    tree'.enter directory name = tree.enter directory name := by
  simp only [FileTree.enter, h.present]

theorem walk (directory : Place) (names : List String) :
    tree'.walk directory names = tree.walk directory names := by
  induction names generalizing directory with
  | nil => rfl
  | cons name names ih => simp only [FileTree.walk, h.enter, h.directory, ih]

theorem approach (path : Path) : tree'.approach path = tree.approach path := by
  simp only [FileTree.approach, h.walk]

theorem locate (path : Path) : tree'.locate path = tree.locate path := by
  simp only [FileTree.locate, h.approach, h.enter, h.directory]

theorem placeFor (path : Path) (atDots : FileError) :
    tree'.placeFor path atDots = tree.placeFor path atDots := by
  simp only [FileTree.placeFor, h.approach]

theorem isPresent (path : Path) : tree'.isPresent path = tree.isPresent path := by
  simp only [FileTree.isPresent, h.locate]

theorem isDirectory (path : Path) : tree'.isDirectory path = tree.isDirectory path := by
  simp only [FileTree.isDirectory, h.locate, h.directory]

/-- Whether a file can be written does not depend on its content. -/
theorem writeBytes (path : Path) (new new' : ByteArray) :
    (tree'.writeBytes path new').map (fun _ => ()) =
      (tree.writeBytes path new).map fun _ => () := by
  unfold FileTree.writeBytes
  rw [h.placeFor]
  cases tree.placeFor path .isDirectory with
  | error e => rfl
  | ok target =>
    simp only [h.directory]
    split_ifs <;> rfl

end SameShape

/-! ## Trees that differ in one file -/

variable {content content' : ByteArray}

/-- The trees are equal, but for a place where one has a file with one content and the other
    a file with another. -/
def Twins (place : Place) (content content' : ByteArray) (tree tree' : FileTree) : Prop :=
  ∀ q, tree'.node? q = tree.node? q ∨
    q = place ∧ tree.node? q = some (.file content) ∧ tree'.node? q = some (.file content')

/-- Two ends of an operation: the same error, or trees that differ in one file. -/
def TwinEnds (place : Place) (content content' : ByteArray) :
    Except FileError FileTree → Except FileError FileTree → Prop
  | .ok tree, .ok tree' => Twins place content content' tree tree'
  | .error e, .error e' => e' = e
  | _, _ => False

theorem TwinEnds.error {e : FileError} : TwinEnds place content content' (.error e) (.error e) :=
  rfl

namespace Twins

variable (h : Twins place content content' tree tree')

include h

theorem sameShape : SameShape tree tree' := by
  constructor <;> intro q
  · unfold hasDirectory
    rcases h q with hsame | ⟨-, hfile, hfile'⟩
    · rw [hsame]
    · rw [hfile, hfile']
  · rcases h q with hsame | ⟨-, hfile, hfile'⟩
    · rw [hsame]
    · rw [hfile, hfile', Option.isSome_some, Option.isSome_some]

theorem put {p : Place} (hp : p ≠ []) (node : Node) :
    Twins place content content' (tree.put p node) (tree'.put p node) := by
  intro q
  rw [node?_put tree hp, node?_put tree' hp]
  split_ifs
  · exact .inl rfl
  · exact h q

theorem clear {p : Place} (hp : p ≠ []) :
    Twins place content content' (tree.clear p) (tree'.clear p) := by
  intro q
  rw [node?_clear tree hp, node?_clear tree' hp]
  split_ifs
  · exact .inl rfl
  · exact h q

/-- A file is read alike, unless it is the one in which the trees differ. -/
theorem readBytes (path : Path) :
    tree'.readBytes path = tree.readBytes path ∨
      tree.readBytes path = .ok content ∧ tree'.readBytes path = .ok content' := by
  unfold FileTree.readBytes
  rw [h.sameShape.locate]
  cases tree.locate path with
  | error e => exact .inl rfl
  | ok q =>
    rcases h q with hsame | ⟨-, hfile, hfile'⟩
    · left
      simp only [hsame]
    · right
      simp only [hfile, hfile', and_self]

theorem makeDirectory (path : Path) :
    TwinEnds place content content' (tree.makeDirectory path) (tree'.makeDirectory path) := by
  unfold FileTree.makeDirectory
  rw [h.sameShape.placeFor]
  cases hplace : tree.placeFor path .alreadyExists with
  | error e => exact .error
  | ok target =>
    obtain ⟨p, slash⟩ := target
    obtain ⟨directory, name, -, -, -, rfl⟩ := placeFor_eq_ok_iff.mp hplace
    simp only [h.sameShape.present]
    split_ifs
    · exact .error
    · exact h.put (List.concat_ne_nil _ _) .directory

theorem writeBytes (path : Path) (new : ByteArray) :
    TwinEnds place content content' (tree.writeBytes path new) (tree'.writeBytes path new) := by
  unfold FileTree.writeBytes
  rw [h.sameShape.placeFor]
  cases hplace : tree.placeFor path .isDirectory with
  | error e => exact .error
  | ok target =>
    obtain ⟨p, slash⟩ := target
    obtain ⟨directory, name, -, -, -, rfl⟩ := placeFor_eq_ok_iff.mp hplace
    simp only [h.sameShape.directory]
    split_ifs
    · exact .error
    · exact h.put (List.concat_ne_nil _ _) (.file new)

/-- A file that was written is the same in both trees. -/
theorem node?_eq_of_writeBytes {new : ByteArray} {written written' : FileTree} {p : Place}
    (hrun : tree.writeBytes path new = .ok written)
    (hrun' : tree'.writeBytes path new = .ok written') (hp : FilePlace written path p) :
    written'.node? p = written.node? p := by
  have hback := (SameDirectories.of_writeBytes hrun).symm.filePlace hp
  have hsame : SameDirectories tree' tree := fun q => (h.sameShape.directory q).symm
  obtain ⟨q, hq, rfl⟩ := writeBytes_eq_ok_iff.mp hrun
  obtain ⟨q', hq', rfl⟩ := writeBytes_eq_ok_iff.mp hrun'
  have hpq : p = q := hback.place_eq hq
  have hpq' : p = q' := hback.place_eq (hsame.filePlace hq')
  rw [node?_put tree hq.ne_nil, node?_put tree' hq'.ne_nil, if_pos hpq, if_pos hpq']

/-- A file in which the trees agree is moved alike. -/
theorem rename {source : Path}
    (hsource : ∀ p, FilePlace tree source p → tree'.node? p = tree.node? p) (target : Path) :
    TwinEnds place content content' (tree.rename source target)
      (tree'.rename source target) := by
  unfold FileTree.rename
  rw [h.sameShape.placeFor, h.sameShape.placeFor]
  cases hp : tree.placeFor source .busy with
  | error e => exact .error
  | ok first =>
    obtain ⟨p, sourceSlash⟩ := first
    cases hq : tree.placeFor target .busy with
    | error e => exact .error
    | ok second =>
      obtain ⟨q, targetSlash⟩ := second
      obtain ⟨_, _, -, -, -, hpNil⟩ := placeFor_eq_ok_iff.mp hp
      obtain ⟨_, _, -, -, -, hqNil⟩ := placeFor_eq_ok_iff.mp hq
      have hput : ∀ new, Twins place content content' ((tree.clear p).put q (.file new))
          ((tree'.clear p).put q (.file new)) := by
        intro new
        exact (h.clear (hpNil ▸ List.concat_ne_nil _ _)).put (hqNil ▸ List.concat_ne_nil _ _) _
      rcases h p with hsame | ⟨-, hfile, hfile'⟩
      · simp only [hsame, h.sameShape.directory]
        split
        · exact .error
        · exact .error
        · split_ifs
          · exact .error
          · exact .error
          · exact h
          · exact hput _
      · -- the file is the one in which the trees differ, so a slash follows its path
        cases sourceSlash with
        | false =>
          have hsame := hsource p (filePlace_of_placeFor hp (hasDirectory_eq_false_of_file hfile))
          simp only [hsame, hfile, h.sameShape.directory]
          split_ifs
          · exact .error
          · exact .error
          · exact h
          · exact hput _
        | true =>
          simp only [hfile, hfile', Bool.true_or, if_true]
          exact .error

end Twins

end FileTree

/-! ## Two programs -/

namespace Simulation

open FileTree (Twins TwinEnds)

variable {α α' β β' : Type}

/-- From trees with `P`, the two programs end with values and trees with `Q`. -/
def Pairs (P : FileTree → FileTree → Prop) (x : Simulation α) (x' : Simulation α')
    (Q : α → α' → FileTree → FileTree → Prop) : Prop :=
  ∀ world world', P world.files world'.files →
    Q (x world).1 (x' world').1 (x world).2.files (x' world').2.files

variable {P : FileTree → FileTree → Prop} {Q : α → α' → FileTree → FileTree → Prop}
  {R : β → β' → FileTree → FileTree → Prop}

theorem Pairs.pure {a : α} {a' : α'} (h : ∀ tree tree', P tree tree' → Q a a' tree tree') :
    Pairs P (Pure.pure a) (Pure.pure a') Q :=
  fun world world' hP => h world.files world'.files hP

theorem Pairs.bind {x : Simulation α} {x' : Simulation α'} {f : α → Simulation β}
    {f' : α' → Simulation β'} (hx : Pairs P x x' Q) (hf : ∀ a a', Pairs (Q a a') (f a) (f' a') R) :
    Pairs P (x >>= f) (x' >>= f') R :=
  fun world world' hP => hf _ _ _ _ (hx world world' hP)

theorem Pairs.mono {P' : FileTree → FileTree → Prop} {x : Simulation α} {x' : Simulation α'}
    (h : Pairs P x x' Q) (hP : ∀ tree tree', P' tree tree' → P tree tree') : Pairs P' x x' Q :=
  fun world world' hworlds => h world world' (hP _ _ hworlds)

/-- A condition that is not about the trees. -/
theorem Pairs.assume {p : Prop} {x : Simulation α} {x' : Simulation α'}
    (h : p → Pairs P x x' Q) : Pairs (fun tree tree' => p ∧ P tree tree') x x' Q :=
  fun world world' hworlds => h hworlds.1 world world' hworlds.2

/-- Programs that end with one value, and with trees like those they start with. -/
def Agree (P : FileTree → FileTree → Prop) (x x' : Simulation α) : Prop :=
  Pairs P x x' fun a a' tree tree' => a' = a ∧ P tree tree'

theorem Agree.pure (a : α) : Agree P (Pure.pure a) (Pure.pure a) :=
  Pairs.pure fun _ _ hP => ⟨rfl, hP⟩

/-- After one value, two programs go on from it. -/
theorem Agree.bind {x x' : Simulation α} {f : α → Simulation β} {f' : α → Simulation β'}
    (hx : Agree P x x') (hf : ∀ a, Pairs P (f a) (f' a) R) : Pairs P (x >>= f) (x' >>= f') R := by
  refine Pairs.bind hx fun a a' => .assume ?_
  rintro rfl
  exact hf a'

theorem Agree.note (event event' : Event) :
    Agree P (Journal.note event) (Journal.note event') :=
  fun _ _ hP => ⟨rfl, hP⟩

section Twins

variable {place : FileTree.Place} {content content' : ByteArray}

/-- An operation that ends alike on trees that differ in one file. -/
theorem pairs_change {operation operation' : FileTree → Except FileError FileTree}
    (hP : ∀ tree tree', P tree tree' → Twins place content content' tree tree')
    (h : ∀ tree tree', P tree tree' →
      TwinEnds place content content' (operation tree) (operation' tree')) :
    Pairs P (change operation) (change operation') fun result result' tree tree' =>
      result' = result ∧ Twins place content content' tree tree' := by
  intro world world' hworlds
  have htwins := hP world.files world'.files hworlds
  have hends := h world.files world'.files hworlds
  rw [change, change]
  cases hrun : operation world.files <;> cases hrun' : operation' world'.files
  all_goals rw [hrun, hrun'] at hends
  · cases hends
    exact ⟨rfl, htwins⟩
  · cases hends
  · cases hends
  · exact ⟨rfl, hends⟩

theorem agree_isPresent (path : Path) :
    Agree (Twins place content content') (FileAccess.isPresent path)
      (FileAccess.isPresent path) :=
  fun _ _ htwins => ⟨htwins.sameShape.isPresent path, htwins⟩

theorem agree_isDirectory (path : Path) :
    Agree (Twins place content content') (FileAccess.isDirectory path)
      (FileAccess.isDirectory path) :=
  fun _ _ htwins => ⟨htwins.sameShape.isDirectory path, htwins⟩

theorem agree_makeDirectory (path : Path) :
    Agree (Twins place content content') (FileAccess.makeDirectory path)
      (FileAccess.makeDirectory path) :=
  pairs_change (fun _ _ htwins => htwins) fun _ _ htwins => htwins.makeDirectory path

theorem agree_writeText (path : Path) (text : String) :
    Agree (Twins place content content') (FileAccess.writeText path text)
      (FileAccess.writeText path text) :=
  pairs_change (fun _ _ htwins => htwins) fun _ _ htwins => htwins.writeBytes path text.toUTF8

/-- After a file was written, the trees agree in it. -/
theorem pairs_writeText (path : Path) (text : String) :
    Pairs (Twins place content content') (FileAccess.writeText path text)
      (FileAccess.writeText path text) fun result result' tree tree' =>
        result' = result ∧ Twins place content content' tree tree' ∧
          (result = .ok () → ∀ p, tree.FilePlace path p → tree'.node? p = tree.node? p) := by
  intro world world' htwins
  obtain ⟨hsame, htwins'⟩ := agree_writeText path text world world' htwins
  refine ⟨hsame, htwins', fun hok p hp => ?_⟩
  have hrun := (writeText_eq_ok_iff.mp (Prod.ext hok rfl :
    (FileAccess.writeText path text : Simulation _) world = (.ok (), _))).1
  have hrun' := (writeText_eq_ok_iff.mp (Prod.ext (hsame.trans hok) rfl :
    (FileAccess.writeText path text : Simulation _) world' = (.ok (), _))).1
  exact htwins.node?_eq_of_writeBytes hrun hrun' hp

/-- Two texts can be written or not, for the same reason. -/
theorem pairs_writeTexts (path : Path) (text text' : String) :
    Pairs (Twins place content content') (FileAccess.writeText path text)
      (FileAccess.writeText path text') fun result result' _ _ => result' = result := by
  intro world world' htwins
  have hends := htwins.sameShape.writeBytes path text.toUTF8 text'.toUTF8
  show (change (·.writeBytes path text'.toUTF8) world').1 =
    (change (·.writeBytes path text.toUTF8) world).1
  rw [change, change]
  cases hrun : world.files.writeBytes path text.toUTF8 <;>
    cases hrun' : world'.files.writeBytes path text'.toUTF8
  · rw [hrun, hrun'] at hends
    cases hends
    rfl
  · rw [hrun, hrun'] at hends
    cases hends
  · rw [hrun, hrun'] at hends
    cases hends
  · rfl

/-- A file in which the trees agree is moved alike. -/
theorem pairs_rename (source target : Path) :
    Pairs (fun tree tree' => Twins place content content' tree tree' ∧
        ∀ p, tree.FilePlace source p → tree'.node? p = tree.node? p)
      (FileAccess.rename source target) (FileAccess.rename source target)
      fun result result' tree tree' =>
        result' = result ∧ Twins place content content' tree tree' :=
  pairs_change (fun _ _ h => h.1) fun _ _ h => h.1.rename h.2 target

theorem agree_makeInnermost (paths : List Path) :
    Agree (Twins place content content') (FileAccess.makeInnermost paths)
      (FileAccess.makeInnermost paths) := by
  have hunless : ∀ path e, Agree (Twins place content content')
      (FileAccess.unlessDirectory path e) (FileAccess.unlessDirectory path e) := by
    intro path e
    refine (agree_isDirectory path).bind fun isDirectory => ?_
    cases isDirectory <;> exact Agree.pure _
  induction paths with
  | nil => exact Agree.pure _
  | cons path outer ih =>
    rw [FileAccess.makeInnermost]
    split_ifs
    · exact Agree.pure _
    · refine (agree_makeDirectory path).bind fun result => ?_
      split
      · exact Agree.pure _
      · refine ih.bind fun result' => ?_
        split
        · exact Agree.pure _
        · refine (agree_makeDirectory path).bind fun result'' => ?_
          split
          · exact Agree.pure _
          · exact hunless path _
      · exact hunless path _

end Twins

end Simulation

end CubeQuery
