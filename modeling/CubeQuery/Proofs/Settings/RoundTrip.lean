import CubeQuery.Proofs.Toml.Text
import CubeQuery.Settings.Document

/-!
# Reading back written settings

The document of settings is read line by line: the version, the path of the card
index if it is set, and the table of the output with the colour if it is set.

* `Toml.ReadsAs.pair`, `Toml.ReadsAs.header`: a line of each kind.
* `Settings.read?_written`: settings are read back from their document.
-/

namespace CubeQuery

namespace Toml

variable {lines : Nat} {draft : Draft} {key : String} {cs rest : List Char}
  {members root : Members}

theorem skipSpace_of_not_isSpace {c : Char} (h : isSpace c = false) (cs : List Char) :
    skipSpace (c :: cs) = c :: cs := by
  rw [skipSpace, List.dropWhile_cons_of_neg (by simp [h])]

theorem skipLineEnd_newline (cs : List Char) : skipLineEnd ('\n' :: cs) = some cs := by
  rw [skipLineEnd, skipSpace_of_not_isSpace rfl]
  rfl

/-! ## Keys -/

/-- A key that can stand without quotes. -/
def IsBare (key : List Char) : Prop := key ≠ [] ∧ key.all isKeyChar = true

instance (key : List Char) : Decidable (IsBare key) := inferInstanceAs (Decidable (_ ∧ _))

/-- Such a key starts with a character that has no other meaning at the start of a line. -/
theorem IsBare.exists_cons {key : List Char} (h : IsBare key) :
    ∃ c cs, key = c :: cs ∧ isSpace c = false ∧ c ≠ '[' ∧ c ≠ '#' ∧ c ≠ '\n' ∧ c ≠ '\r' ∧
      c ≠ '"' ∧ c ≠ '\x27' := by
  obtain ⟨hne, hkey⟩ := h
  obtain ⟨c, cs, rfl⟩ := List.exists_cons_of_ne_nil hne
  have hc : ∀ d, isKeyChar d = false → c ≠ d := by
    rintro d hd rfl
    rw [List.all_eq_true.mp hkey c List.mem_cons_self] at hd
    cases hd
  refine ⟨c, cs, rfl, ?_, hc _ rfl, hc _ rfl, hc _ rfl, hc _ rfl, hc _ rfl, hc _ rfl⟩
  simp [isSpace, hc ' ' rfl, hc '\t' rfl]

/-- A key without quotes is read up to the first character that it cannot have. -/
theorem readKeyPart_bare (h : IsBare key.toList) {stop : Char} (hstop : isKeyChar stop = false)
    (rest : List Char) :
    readKeyPart (key.toList ++ stop :: rest) = some (key, skipSpace (stop :: rest)) := by
  have hkey := List.all_eq_true.mp h.2
  have htake : (key.toList ++ stop :: rest).takeWhile isKeyChar = key.toList := by
    rw [List.takeWhile_append_of_pos hkey, List.takeWhile_cons_of_neg (by simp [hstop]),
      List.append_nil]
  have hdrop : (key.toList ++ stop :: rest).dropWhile isKeyChar = stop :: rest := by
    rw [List.dropWhile_append_of_pos hkey, List.dropWhile_cons_of_neg (by simp [hstop])]
  obtain ⟨c, cs, hcons, hspace, -, -, -, -, hdouble, hsingle⟩ := h.exists_cons
  have hskip : skipSpace (key.toList ++ stop :: rest) = key.toList ++ stop :: rest := by
    rw [hcons, List.cons_append, skipSpace_of_not_isSpace hspace]
  have hne : key.toList.isEmpty = false := by rw [hcons, List.isEmpty_cons]
  unfold readKeyPart
  rw [hskip]
  split
  · next heq =>
    rw [hcons] at heq
    exact absurd (List.cons.inj heq).1 hdouble
  · next heq =>
    rw [hcons] at heq
    exact absurd (List.cons.inj heq).1 hsingle
  · simp only [htake, hdrop, hne, Bool.false_eq_true, if_false, String.ofList_toList]

/-- A key of one part, before something that is no point. -/
theorem readKey_bare (h : IsBare key.toList) {stop : Char} (hstop : isKeyChar stop = false)
    (hpoint : expect '.' (skipSpace (stop :: rest)) = none) :
    readKey (key.toList ++ stop :: rest) = some (([], key), skipSpace (stop :: rest)) := by
  unfold readKey
  rw [readSeparated, readKeyPart_bare h hstop]
  simp only [hpoint]
  rfl

/-! ## Lines -/

/-- The lines, at most as many as given, are read as the members of a table. -/
def ReadsAs (lines : Nat) (draft : Draft) (cs : List Char) (members : Members) : Prop :=
  ∀ limit, lines ≤ limit → readLines limit draft cs = some members

theorem readsAs_nil (draft : Draft) : ReadsAs 1 draft [] draft.root := by
  intro limit hlimit
  obtain ⟨limit, rfl⟩ := Nat.exists_eq_add_of_le' hlimit
  rfl

namespace ReadsAs

theorem mono {lines' : Nat} (h : ReadsAs lines draft cs members) (hlines : lines ≤ lines') :
    ReadsAs lines' draft cs members :=
  fun limit hlimit => h limit (hlines.trans hlimit)

theorem blank (h : ReadsAs lines draft cs members) :
    ReadsAs (lines + 1) draft ('\n' :: cs) members := by
  intro limit hlimit
  obtain ⟨limit, rfl⟩ := Nat.exists_eq_add_of_le' hlimit
  rw [← Nat.add_assoc, readLines, skipSpace_of_not_isSpace rfl]
  exact h _ (Nat.le_add_left lines limit)

/-- A line with a key and a value. -/
theorem pair {word : List Char} {value : Toml} (hkey : IsBare key.toList)
    (hvalue : ∀ rest, readValue nestingLimit (skipSpace (word ++ '\n' :: rest)) =
      some (value, '\n' :: rest))
    (hroot : descend false (addPair [] key value) draft.header .declared draft.root = some root)
    (h : ReadsAs lines ⟨root, draft.header⟩ cs members) :
    ReadsAs (lines + 1) draft (key.toList ++ ' ' :: '=' :: ' ' :: (word ++ '\n' :: cs))
      members := by
  have hpair : readPair draft (key.toList ++ ' ' :: '=' :: ' ' :: (word ++ '\n' :: cs)) =
      some (⟨root, draft.header⟩, cs) := by
    have hread : readValue nestingLimit (skipSpace (' ' :: (word ++ '\n' :: cs))) =
        some (value, '\n' :: cs) := hvalue cs
    have hequals : skipSpace (' ' :: '=' :: ' ' :: (word ++ '\n' :: cs)) =
        '=' :: ' ' :: (word ++ '\n' :: cs) := rfl
    rw [readPair, readKey_bare hkey rfl rfl, hequals]
    simp only [expect, if_true, Option.bind_eq_bind, Option.bind_some, hread, skipLineEnd_newline,
      hroot]
  intro limit hlimit
  obtain ⟨limit, rfl⟩ := Nat.exists_eq_add_of_le' hlimit
  obtain ⟨c, key', hcons, hspace, htable, hcomment, hfeed, hreturn, -, -⟩ := hkey.exists_cons
  rw [← Nat.add_assoc, readLines.eq_def]
  rw [hcons, List.cons_append] at hpair ⊢
  dsimp only
  rw [skipSpace_of_not_isSpace hspace]
  split
  · next heq => cases heq
  · next heq => exact absurd (List.cons.inj heq).1 htable
  · next heq => exact absurd (List.cons.inj heq).1 hcomment
  · next heq => exact absurd (List.cons.inj heq).1 hfeed
  · next heq => exact absurd (List.cons.inj heq).1 hreturn
  · simp only [hpair]
    exact h _ (Nat.le_add_left lines limit)

/-- The header of a table of its own. -/
theorem header (hkey : IsBare key.toList)
    (hroot : declare key draft.root = some root)
    (h : ReadsAs lines ⟨root, [key]⟩ cs members) :
    ReadsAs (lines + 1) draft ('[' :: (key.toList ++ ']' :: '\n' :: cs)) members := by
  have hheader : readHeader draft (key.toList ++ ']' :: '\n' :: cs) =
      some (⟨root, [key]⟩, cs) := by
    have hread : readKey (key.toList ++ ']' :: '\n' :: cs) =
        some (([], key), ']' :: '\n' :: cs) := readKey_bare hkey rfl rfl
    unfold readHeader
    split
    · next heq =>
      obtain ⟨c, key', hcons, -, htable, -⟩ := hkey.exists_cons
      rw [hcons] at heq
      exact absurd (List.cons.inj heq).1 htable
    · simp only [hread, expect, if_true, Option.bind_eq_bind, Option.bind_some, descend, hroot,
        skipLineEnd_newline, List.nil_append]
  intro limit hlimit
  obtain ⟨limit, rfl⟩ := Nat.exists_eq_add_of_le' hlimit
  rw [← Nat.add_assoc, readLines, skipSpace_of_not_isSpace rfl]
  simp only [hheader]
  exact h _ (Nat.le_add_left lines limit)

end ReadsAs

/-- A written text is read as the value of a line. -/
theorem readValue_writtenText (s : String) (rest : List Char) :
    readValue nestingLimit (skipSpace ((writtenText s).toList ++ '\n' :: rest)) =
      some (.text s, '\n' :: rest) := by
  have hread : readTextValue ((writtenText s).toList ++ '\n' :: rest) =
      some (.text s, '\n' :: rest) := by
    rw [readTextValue, readText_writtenText s (by simp) (by simp)]
    simp only [Option.map_some, String.ofList_toList]
  have hhead : ∃ quote cs, (writtenText s).toList = quote :: cs ∧
      (quote = '"' ∨ quote = '\x27') := by
    rw [writtenText, String.toList_ofList]
    cases (traits s.toList).quoting with
    | basic => exact ⟨_, _, rfl, .inl rfl⟩
    | literal => exact ⟨_, _, rfl, .inr rfl⟩
    | multiBasic => exact ⟨_, _, rfl, .inl rfl⟩
    | multiLiteral => exact ⟨_, _, rfl, .inr rfl⟩
  obtain ⟨quote, cs, hcons, rfl | rfl⟩ := hhead
  · rw [hcons] at hread ⊢
    exact hread
  · rw [hcons] at hread ⊢
    exact hread

end Toml

namespace Settings

/-- The members of a document before its header. -/
def topMembers (path : Option String) : Toml.Members :=
  ("version", .int 1) :: path.toList.map fun path => ("card_index", .text path)

/-- The table that the document of settings holds. -/
def members (settings : Settings) : Toml.Members :=
  topMembers settings.cardIndex ++
    [("output", .table .declared (settings.colour.toList.map fun b => ("color", .flag b)))]

theorem ofTable?_members (settings : Settings) : ofTable? settings.members = some settings := by
  obtain ⟨_ | path, _ | b⟩ := settings <;> rfl

theorem toList_pairLine (key value : String) :
    (pairLine key value).toList = key.toList ++ ' ' :: '=' :: ' ' :: (value.toList ++ ['\n']) := by
  simp [pairLine]

theorem readsAs_colour (path : Option String) (colour : Option Bool) :
    Toml.ReadsAs 2 ⟨topMembers path ++ [("output", .table .declared [])], ["output"]⟩
      (match colour with
        | some b => pairLine "color" (wordOfFlag b)
        | none => "").toList
      (members ⟨path, colour⟩) := by
  cases colour with
  | none => exact (Toml.readsAs_nil _).mono (by decide)
  | some b =>
    have hvalue : ∀ rest, Toml.readValue Toml.nestingLimit
        (Toml.skipSpace ((wordOfFlag b).toList ++ '\n' :: rest)) =
          some (.flag b, '\n' :: rest) := by
      intro rest
      cases b <;> rfl
    rw [toList_pairLine]
    refine .pair (by decide) hvalue ?_ (Toml.readsAs_nil _)
    cases path <;> rfl

/-- The part of a document from the header on. -/
theorem readsAs_output (path : Option String) (colour : Option Bool) :
    Toml.ReadsAs 4 ⟨topMembers path, []⟩
      ('\n' :: '[' :: ("output".toList ++ ']' :: '\n' ::
        (match colour with
          | some b => pairLine "color" (wordOfFlag b)
          | none => "").toList))
      (members ⟨path, colour⟩) := by
  refine .blank (.header (by decide) ?_ (readsAs_colour path colour))
  cases path <;> rfl

theorem readsAs_cardIndex (path : Option String) {lines : Nat} {cs : List Char}
    {members : Toml.Members} (h : Toml.ReadsAs lines ⟨topMembers path, []⟩ cs members) :
    Toml.ReadsAs (lines + 1) ⟨topMembers none, []⟩
      ((match path with
        | some path => pairLine "card_index" (Toml.writtenText path)
        | none => "").toList ++ cs) members := by
  cases path with
  | none => exact h.mono (Nat.le_succ lines)
  | some path =>
    rw [toList_pairLine]
    simp only [List.append_assoc, List.cons_append, List.nil_append]
    exact .pair (by decide) (Toml.readValue_writtenText path) rfl h

/-- The document is read line by line. -/
theorem read_written (settings : Settings) :
    Toml.read settings.written = some settings.members := by
  obtain ⟨path, colour⟩ := settings
  have hreads : Toml.ReadsAs 6 ⟨[], []⟩ (written ⟨path, colour⟩).toList
      (members ⟨path, colour⟩) := by
    simp only [written, String.toList_append, toList_pairLine, List.append_assoc, List.cons_append,
      List.nil_append]
    exact .pair (by decide) (fun rest => rfl) rfl
      (readsAs_cardIndex path (readsAs_output path colour))
  have hstart : ∃ cs, (written ⟨path, colour⟩).toList =
      'v' :: 'e' :: 'r' :: 's' :: 'i' :: 'o' :: cs := by
    simp only [written, String.toList_append, toList_pairLine, List.append_assoc]
    exact ⟨_, rfl⟩
  obtain ⟨cs, hcs⟩ := hstart
  rw [hcs] at hreads
  unfold Toml.read
  simp only [hcs, show 'v' ≠ Toml.byteOrderMark by decide, if_false]
  exact hreads _ (by simp only [List.length_cons]; omega)

/-- **Settings are read back from their document.** -/
theorem read?_written (settings : Settings) : read? settings.written = some settings := by
  rw [read?, read_written, Option.bind_some, ofTable?_members]

end Settings

end CubeQuery
