import CubeQuery.Proofs.Files.Tree
import Mathlib.Data.List.Induction
import Mathlib.Data.List.TakeWhile

/-!
# Last names of paths

A path is a start and a last name, where the start is empty or ends with a slash.
Another extension changes the last name and leaves the start as it is, whatever
the name looks like.

* `exists_start_name`: every text is a start and a last name.
* `parts_append`: the parts of a path, by its start and its last name.
* `exists_withExtension`: a path with another extension has the same start.
* `withExtension_eq_self`: if both lead to one place, then the two are the same path.
-/

namespace CubeQuery.Path

/-! ## Splitting at slashes -/

theorem splitSlash_ne_nil (cs : List Char) : splitSlash cs ≠ [] := by
  cases cs with
  | nil => exact List.cons_ne_nil _ _
  | cons c rest =>
    unfold splitSlash
    split_ifs
    · exact List.cons_ne_nil _ _
    · split <;> exact List.cons_ne_nil _ _

theorem splitSlash_of_not_mem {cs : List Char} (h : '/' ∉ cs) : splitSlash cs = [cs] := by
  induction cs with
  | nil => rfl
  | cons c rest ih =>
    rw [List.mem_cons, not_or] at h
    rw [splitSlash, if_neg (Ne.symm h.1), ih h.2]

theorem splitSlash_slash (cs ds : List Char) :
    splitSlash (cs ++ '/' :: ds) = splitSlash cs ++ splitSlash ds := by
  induction cs with
  | nil => rfl
  | cons c rest ih =>
    rw [List.cons_append, splitSlash, splitSlash, ih]
    split_ifs
    · rfl
    · cases hrest : splitSlash rest with
      | nil => exact absurd hrest (splitSlash_ne_nil rest)
      | cons segment segments => rfl

theorem joinSlash_snoc {segments : List (List Char)} (h : segments ≠ []) (name : List Char) :
    joinSlash (segments ++ [name]) = joinSlash segments ++ '/' :: name := by
  induction segments with
  | nil => exact absurd rfl h
  | cons segment segments ih =>
    cases segments with
    | nil => simp [joinSlash]
    | cons next segments =>
      have hrest := ih (List.cons_ne_nil _ _)
      simp only [joinSlash, List.cons_append, List.intercalate_cons_cons, List.append_assoc]
        at hrest ⊢
      rw [hrest]

theorem joinSlash_splitSlash (cs : List Char) : joinSlash (splitSlash cs) = cs := by
  induction cs with
  | nil => rfl
  | cons c rest ih =>
    rw [splitSlash]
    cases hrest : splitSlash rest with
    | nil => exact absurd hrest (splitSlash_ne_nil rest)
    | cons segment segments =>
      rw [hrest] at ih
      split_ifs with hslash
      · rw [joinSlash, List.intercalate_cons_cons, ← joinSlash, ih, hslash]
        rfl
      · cases segments with
        | nil => simpa [joinSlash] using ih
        | cons next segments =>
          rw [joinSlash, List.intercalate_cons_cons] at ih ⊢
          rw [← ih]
          rfl

/-! ## Starts and last names -/

/-- What can stand before the last name of a path: nothing, or something up to a slash. -/
def IsStart (start : List Char) : Prop := start = [] ∨ ∃ before, start = before ++ ['/']

/-- The last name of a path that leads to something in a directory. -/
structure IsName (name : List Char) : Prop where
  nonempty : name ≠ []
  not_dot : name ≠ ['.']
  noSlash : '/' ∉ name

theorem exists_start_name (cs : List Char) :
    ∃ start name, cs = start ++ name ∧ IsStart start ∧ '/' ∉ name := by
  -- from the end, so that the last slash is met first
  induction cs using List.reverseRecOn with
  | nil => exact ⟨[], [], rfl, .inl rfl, List.not_mem_nil⟩
  | append_singleton cs c ih =>
    by_cases hc : c = '/'
    · subst hc
      exact ⟨cs ++ ['/'], [], by rw [List.append_nil], .inr ⟨cs, rfl⟩, List.not_mem_nil⟩
    · obtain ⟨start, name, rfl, hstart, hname⟩ := ih
      refine ⟨start, name ++ [c], by rw [List.append_assoc], hstart, ?_⟩
      rw [List.mem_append, List.mem_singleton, not_or]
      exact ⟨hname, Ne.symm hc⟩

theorem dropVoid_snoc {segments : List (List Char)} {name : List Char} (h : IsName name) :
    dropVoid (segments ++ [name]) = segments ++ [name] := by
  have hname : isVoid name = false := by
    simp [isVoid, h.nonempty, h.not_dot]
  rw [dropVoid, List.reverse_append, List.reverse_singleton, List.singleton_append,
    List.dropWhile_cons_of_neg (by simp [hname]), List.reverse_cons, List.reverse_reverse]

/-- A slash or a dot can stand before the segments of a path. What is left of the start is a
    start as well. -/
theorem exists_lead {start name : List Char} (hstart : IsStart start) (hname : IsName name) :
    ∃ lead start', start = lead ++ start' ∧ IsStart start' ∧
      (Path.mk (String.ofList (start ++ name))).parts =
        ⟨lead, dropVoid (splitSlash (start' ++ name))⟩ := by
  unfold parts
  rw [String.toList_ofList]
  split
  · next rest htext =>
    rcases hstart with rfl | ⟨before, rfl⟩
    · rw [List.nil_append] at htext
      exact absurd (htext ▸ List.mem_cons_self) hname.noSlash
    · cases before with
      | nil =>
        cases htext
        exact ⟨['/'], [], rfl, .inl rfl, rfl⟩
      | cons c before =>
        cases htext
        exact ⟨['/'], before ++ ['/'], rfl, .inr ⟨before, rfl⟩, rfl⟩
  · next htext =>
    rcases hstart with rfl | ⟨before, rfl⟩
    · exact absurd htext hname.not_dot
    · exact absurd (congrArg List.length htext) (by
        have := List.length_pos_iff.mpr hname.nonempty
        simp only [List.length_append, List.length_singleton]
        omega)
  · next rest htext =>
    rcases hstart with rfl | ⟨before, rfl⟩
    · rw [List.nil_append] at htext
      exact absurd (htext ▸ List.mem_cons_of_mem _ List.mem_cons_self) hname.noSlash
    · cases before with
      | nil => cases htext
      | cons c before =>
        rw [List.cons_append, List.cons_append, List.cons.injEq] at htext
        obtain ⟨rfl, htext⟩ := htext
        refine ⟨['.'], before ++ ['/'], rfl, .inr ⟨before, rfl⟩, ?_⟩
        rw [htext]
        rfl
  · exact ⟨[], start, rfl, hstart, rfl⟩

/-- The last part of a path is its last name, and with another name in its place the other
    parts give the start and that name. -/
theorem parts_append {start name : List Char} (hstart : IsStart start) (hname : IsName name) :
    ∃ segments, (Path.mk (String.ofList (start ++ name))).parts.segments = segments ++ [name] ∧
      ∀ other, (Path.mk (String.ofList (start ++ name))).parts.lead ++
        joinSlash (segments ++ [other]) = start ++ other := by
  obtain ⟨lead, start', rfl, hstart', hparts⟩ := exists_lead hstart hname
  rw [hparts]
  rcases hstart' with rfl | ⟨before, rfl⟩
  · refine ⟨[], ?_, fun other => ?_⟩
    · have halone : dropVoid ([] ++ [name]) = [] ++ [name] := dropVoid_snoc hname
      rw [List.nil_append, splitSlash_of_not_mem hname.noSlash]
      exact halone
    · show lead ++ joinSlash [other] = lead ++ [] ++ other
      rw [joinSlash, List.intercalate_singleton, List.append_nil]
  · refine ⟨splitSlash before, ?_, fun other => ?_⟩
    · rw [List.append_assoc, List.singleton_append, splitSlash_slash,
        splitSlash_of_not_mem hname.noSlash, dropVoid_snoc hname]
    · rw [joinSlash_snoc (splitSlash_ne_nil before), joinSlash_splitSlash]
      simp

theorem fileName?_append {start name : List Char} (hstart : IsStart start) (hname : IsName name) :
    (Path.mk (String.ofList (start ++ name))).fileName? =
      if name = ['.', '.'] then none else some name := by
  obtain ⟨segments, hsegments, -⟩ := parts_append hstart hname
  rw [fileName?, hsegments, List.reverse_append, List.reverse_singleton, List.singleton_append]

/-! ## Extensions -/

/-- The text up to the last dot. -/
theorem upToDot_append (stem : List Char) {old : List Char} (h : '.' ∉ old) :
    ((stem ++ '.' :: old).reverse.dropWhile (· ≠ '.')).reverse = stem ++ ['.'] := by
  have hold : ∀ c ∈ old.reverse, decide (c ≠ '.') = true := by
    intro c hc
    rw [decide_eq_true_eq]
    rintro rfl
    exact h (List.mem_reverse.mp hc)
  rw [List.reverse_append, List.reverse_cons, List.append_assoc, List.dropWhile_append_of_pos hold,
    List.singleton_append, List.dropWhile_cons_of_neg (by simp), List.reverse_cons,
    List.reverse_reverse]

/-- The extension of a file name follows its last dot. -/
theorem splitExtension_append {stem old : List Char} (hstem : stem ≠ []) (h : '.' ∉ old) :
    splitExtension (stem ++ '.' :: old) = (stem, some old) := by
  have hupTo : stem ++ '.' :: old = (stem ++ ['.']) ++ old := by simp
  rw [splitExtension, upToDot_append stem h]
  split
  · next hnil => exact absurd hnil (List.concat_ne_nil _ _)
  · next hdot =>
    rw [List.append_eq_singleton_iff] at hdot
    simp [hstem] at hdot
  · rw [List.dropLast_concat, hupTo, List.drop_left]

/-- A file name has no extension, or it is a stem, a dot and the extension. -/
theorem splitExtension_cases (name : List Char) :
    splitExtension name = (name, none) ∨
      ∃ stem old, stem ≠ [] ∧ name = stem ++ '.' :: old ∧
        splitExtension name = (stem, some old) := by
  by_cases hdot : '.' ∈ name
  · -- the last dot of the name is the first one from its end
    obtain ⟨before, after, hname, hbefore⟩ :=
      List.eq_append_cons_of_mem (List.mem_reverse.mpr hdot)
    have hname : name = after.reverse ++ '.' :: before.reverse := by
      rw [← List.reverse_reverse name, hname]
      simp
    have hold : '.' ∉ before.reverse := fun h => hbefore (List.mem_reverse.mp h)
    by_cases hstem : after.reverse = []
    · left
      rw [hname, hstem, splitExtension, upToDot_append [] hold]
      rfl
    · right
      exact ⟨_, _, hstem, hname, by rw [hname, splitExtension_append hstem hold]⟩
  · left
    have hnil : name.reverse.dropWhile (· ≠ '.') = [] := by
      rw [List.dropWhile_eq_nil_iff]
      intro c hc
      rw [decide_eq_true_eq]
      rintro rfl
      exact hdot (List.mem_reverse.mp hc)
    rw [splitExtension, hnil]
    rfl

/-- An extension is set at the end of the last name. -/
theorem setExtension_append {start name : List Char} (hstart : IsStart start)
    (hname : IsName name) (hdots : name ≠ ['.', '.']) (extension : String) :
    setExtension ⟨String.ofList (start ++ name)⟩ extension =
      ⟨String.ofList (start ++ ((splitExtension name).1 ++ '.' :: extension.toList))⟩ := by
  obtain ⟨segments, hsegments, hjoin⟩ := parts_append hstart hname
  rw [setExtension, fileName?_append hstart hname, if_neg hdots]
  simp only [hsegments, List.dropLast_concat, hjoin]

/-- A path with another extension has the same start and another last name. -/
theorem exists_withExtension {start name : List Char} (hstart : IsStart start)
    (hname : IsName name) (hdots : name ≠ ['.', '.']) {extension : String}
    (hextension : '/' ∉ extension.toList) :
    ∃ other, other ≠ [] ∧ '/' ∉ other ∧
      withExtension ⟨String.ofList (start ++ name)⟩ extension =
        ⟨String.ofList (start ++ other)⟩ := by
  rw [withExtension, fileName?_append hstart hname, if_neg hdots]
  rcases splitExtension_cases name with hsplit | ⟨stem, old, hstem, rfl, hsplit⟩
  · refine ⟨name ++ '.' :: extension.toList, by simp, ?_, ?_⟩
    · simp [hname.noSlash, hextension]
    · simp only [hsplit, setExtension_append hstart hname hdots]
  · have hnoSlash : '/' ∉ stem := fun h => hname.noSlash (List.mem_append_left _ h)
    have hcut : IsName (stem ++ ['.']) :=
      ⟨List.concat_ne_nil _ _, by simp [hstem], by simp [hnoSlash]⟩
    have htake : (start ++ (stem ++ '.' :: old)).take
        ((start ++ (stem ++ '.' :: old)).length - old.length) = start ++ (stem ++ ['.']) := by
      have hlong : start ++ (stem ++ '.' :: old) = start ++ (stem ++ ['.']) ++ old := by simp
      rw [hlong, List.length_append, Nat.add_sub_cancel, List.take_left]
    simp only [hsplit, String.toList_ofList, htake]
    by_cases hback : stem ++ ['.'] = ['.', '.']
    · -- without its extension the path has no file name any more
      refine ⟨['.', '.'], by simp, by simp, ?_⟩
      rw [setExtension, fileName?_append hstart hcut, if_pos hback, hback]
    · refine ⟨stem ++ '.' :: extension.toList, by simp, by simp [hnoSlash, hextension], ?_⟩
      rw [setExtension_append hstart hcut hback, splitExtension_append hstem List.not_mem_nil]

/-! ## Places -/

theorem names_append {start name : List Char} (hstart : IsStart start) (hname : name ≠ [])
    (hnoSlash : '/' ∉ name) :
    FileTree.names ⟨String.ofList (start ++ name)⟩ =
      FileTree.names ⟨String.ofList start⟩ ++ [String.ofList name] := by
  simp only [FileTree.names, String.toList_ofList]
  rcases hstart with rfl | ⟨before, rfl⟩
  · rw [List.nil_append, splitSlash_of_not_mem hnoSlash]
    simp [splitSlash, hname]
  · rw [List.append_assoc, List.singleton_append, splitSlash_slash, splitSlash_slash,
      splitSlash_of_not_mem hnoSlash]
    simp [splitSlash, hname]

/-- The place of a file is in the directory of the path's start, under the path's last name. -/
theorem place_of_filePlace {tree : FileTree} {start name : List Char} {place : FileTree.Place}
    (hstart : IsStart start) (hname : name ≠ []) (hnoSlash : '/' ∉ name)
    (h : tree.FilePlace ⟨String.ofList (start ++ name)⟩ place) :
    ∃ directory, tree.walk [] (FileTree.names ⟨String.ofList start⟩) = .ok directory ∧
      place = directory ++ [String.ofList name] ∧ FileTree.isDots (String.ofList name) = false := by
  obtain ⟨directory, last, happroach, hdots, -, rfl⟩ :=
    FileTree.placeFor_eq_ok_iff.mp (h.leads .busy)
  rw [FileTree.approach, names_append hstart hname hnoSlash] at happroach
  split_ifs at happroach
  simp only [List.dropLast_concat, List.getLast?_concat] at happroach
  split at happroach
  · cases happroach
  · next hwalk =>
    rw [Except.ok.injEq, FileTree.Target.mk.injEq, Option.some.injEq] at happroach
    obtain ⟨rfl, rfl, -⟩ := happroach
    exact ⟨_, hwalk, rfl, hdots⟩

/-- A path to the place of a file ends with a name of its own. -/
theorem exists_of_filePlace {tree : FileTree} {path : Path} {place : FileTree.Place}
    (h : tree.FilePlace path place) :
    ∃ start name, path = ⟨String.ofList (start ++ name)⟩ ∧ IsStart start ∧ IsName name ∧
      name ≠ ['.', '.'] := by
  obtain ⟨start, name, htext, hstart, hnoSlash⟩ := exists_start_name path.text.toList
  have hpath : path = ⟨String.ofList (start ++ name)⟩ := by
    rw [← htext, String.ofList_toList]
  have hname : name ≠ [] := by
    rintro rfl
    obtain ⟨directory, last, happroach, -⟩ := FileTree.placeFor_eq_ok_iff.mp (h.leads .busy)
    rw [FileTree.approach, htext, List.append_nil] at happroach
    rcases hstart with rfl | ⟨before, rfl⟩
    · -- the empty path leads nowhere
      rw [hpath] at happroach
      simp at happroach
    · -- a slash at the end asks for a directory
      split_ifs at happroach
      simp only [List.getLast?_concat] at happroach
      split at happroach
      · cases happroach
      · simp at happroach
  subst hpath
  obtain ⟨directory, -, -, hdots⟩ := place_of_filePlace hstart hname hnoSlash h
  refine ⟨start, name, rfl, hstart, ⟨hname, ?_, hnoSlash⟩, ?_⟩
  · rintro rfl
    cases hdots
  · rintro rfl
    cases hdots

/-- If a path and the path with another extension lead to one place, then the extension is
    the one that the path had. -/
theorem withExtension_eq_self {tree : FileTree} {path : Path} {place : FileTree.Place}
    {extension : String} (hextension : '/' ∉ extension.toList)
    (hfile : tree.FilePlace path place)
    (hother : tree.FilePlace (path.withExtension extension) place) :
    path.withExtension extension = path := by
  obtain ⟨start, name, rfl, hstart, hname, hdots⟩ := exists_of_filePlace hfile
  obtain ⟨other, hne, hnoSlash, heq⟩ := exists_withExtension hstart hname hdots hextension
  rw [heq] at hother ⊢
  obtain ⟨directory, hwalk, rfl, -⟩ :=
    place_of_filePlace hstart hname.nonempty hname.noSlash hfile
  obtain ⟨directory', hwalk', hplace, -⟩ := place_of_filePlace hstart hne hnoSlash hother
  rw [hwalk] at hwalk'
  cases hwalk'
  have hlast := List.append_cancel_left hplace
  rw [List.cons.injEq] at hlast
  rw [String.ofList_injective hlast.1]

end CubeQuery.Path
