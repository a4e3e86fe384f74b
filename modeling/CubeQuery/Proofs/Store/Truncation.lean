import CubeQuery.Proofs.Json.Streaming
import CubeQuery.Proofs.Store.Saving

/-!
# Truncated documents

The document of an index ends with the bracket that its first character opens, so no start of
it but the whole is a document. Reading such a start comes to its end while a bracket is open
or a text has not been closed, and says so. It finds no other fault, since a reader finds in a
start of a text only what it finds in the text.

* `CardIndex.streamed_readEntries`: the reader of entries on a start of a text.
* `CardIndex.read_of_truncated`: a start of a document is not read as an index.
* `Store.truncated_file_is_refused`: neither is a store's file that holds one.
-/

namespace CubeQuery

namespace CardIndex

open CubeQuery.Json (Streamed lineStart readText readColon firstItem nextItem firstMember
  nextMember)

variable {tail : List Char}

/-! ## Readers one after the other -/

theorem readCubesFrom_eq (cs : List Char) :
    readCubesFrom cs = readCube cs >>= fun (cube, rest) => nextItem rest >>= fun
      | .close left => .ok ([cube], left)
      | .item rest' => readCubesFrom rest' >>= fun (cubes, left) => .ok (cube :: cubes, left) := by
  rw [readCubesFrom.eq_def]
  split
  · next h =>
    rw [h]
    rfl
  · next cube rest h =>
    conv_rhs => rw [h]
    show _ = nextItem rest >>= _
    split
    · next hn =>
      rw [hn]
      rfl
    · next left hn =>
      rw [hn]
      rfl
    · next rest' hn =>
      conv_rhs => rw [hn]
      show _ = readCubesFrom rest' >>= _
      cases readCubesFrom rest' <;> rfl

theorem readEntriesFrom_eq (cs : List Char) :
    readEntriesFrom cs = readEntry cs >>= fun (entry, rest) => nextMember rest >>= fun
      | .close left => .ok ([entry], left)
      | .item rest' =>
        readEntriesFrom rest' >>= fun (entries, left) => .ok (entry :: entries, left) := by
  rw [readEntriesFrom.eq_def]
  split
  · next h =>
    rw [h]
    rfl
  · next entry rest h =>
    conv_rhs => rw [h]
    show _ = nextMember rest >>= _
    split
    · next hn =>
      rw [hn]
      rfl
    · next left hn =>
      rw [hn]
      rfl
    · next rest' hn =>
      conv_rhs => rw [hn]
      show _ = readEntriesFrom rest' >>= _
      cases readEntriesFrom rest' <;> rfl

theorem readMembersFrom_eq (seen : Option (List (String × List String))) (cs : List Char) :
    readMembersFrom seen cs = readMember seen cs >>= fun (seen', rest) => nextMember rest >>= fun
      | .close left => .ok (seen', left)
      | .item rest' => readMembersFrom seen' rest' := by
  rw [readMembersFrom.eq_def]
  split
  · next h =>
    rw [h]
    rfl
  · next seen' rest h =>
    conv_rhs => rw [h]
    show _ = nextMember rest >>= _
    split
    · next hn =>
      rw [hn]
      rfl
    · next left hn =>
      rw [hn]
      rfl
    · next rest' hn =>
      conv_rhs => rw [hn]
      rfl

theorem readEntry_eq (cs : List Char) :
    readEntry cs = readText cs >>= fun (name, rest) => readColon rest >>= fun rest' =>
      readCubes rest' >>= fun (cubes, left) => .ok ((String.ofList name, cubes), left) := by
  rw [readEntry]
  cases readText cs with
  | error e => rfl
  | ok p =>
    obtain ⟨name, rest⟩ := p
    show _ = readColon rest >>= _
    dsimp only
    cases readColon rest with
    | error e => rfl
    | ok rest' =>
      show _ = readCubes rest' >>= _
      dsimp only
      cases readCubes rest' <;> rfl

/-! ## Starts of entries -/

theorem streamed_readCube (start : List Char) :
    Streamed tail (readCube start) (readCube (start ++ tail)) := by
  refine Json.streamed_of_opened '"' (fun cs =>
    readText cs >>= fun (text, left) => .ok (String.ofList text, left)) ?_ ?_ ?_ start
  · intro cs rest hs
    simp only [readCube, hs]
    cases readText rest <;> rfl
  · intro cs hs
    unfold readCube
    grind
  · intro start
    exact (Json.streamed_readText start).bind fun (text, left) _ => .ok (String.ofList text, left)

theorem streamed_readCubesFrom (start : List Char) :
    Streamed tail (readCubesFrom start) (readCubesFrom (start ++ tail)) :=
  Json.streamed_of_listed readCubesFrom_eq streamed_readCube Json.streamed_nextItem
    readCube_shorter Json.nextItem_rest_lt start

theorem streamed_readCubes (start : List Char) :
    Streamed tail (readCubes start) (readCubes (start ++ tail)) := by
  refine Json.streamed_of_opened '[' (fun cs => firstItem cs >>= fun
    | .close left => .ok ([], left)
    | .item rest => readCubesFrom rest) ?_ ?_ ?_ start
  · intro cs rest hs
    simp only [readCubes, hs]
    rcases firstItem rest with e | _ | _ <;> rfl
  · intro cs hs
    unfold readCubes
    grind
  · intro start
    refine (Json.streamed_firstItem start).bind fun step _ => ?_
    cases step with
    | close left => exact .ok (([] : List String), left)
    | item rest => exact streamed_readCubesFrom rest

theorem streamed_readEntry (start : List Char) :
    Streamed tail (readEntry start) (readEntry (start ++ tail)) := by
  rw [readEntry_eq, readEntry_eq]
  refine (Json.streamed_readText start).bind fun (name, rest) _ => ?_
  refine (Json.streamed_readColon rest).bind fun rest' _ => ?_
  refine (streamed_readCubes rest').bind fun (cubes, left) _ => ?_
  exact .ok ((String.ofList name, cubes), left)

theorem streamed_readEntriesFrom (start : List Char) :
    Streamed tail (readEntriesFrom start) (readEntriesFrom (start ++ tail)) :=
  Json.streamed_of_listed readEntriesFrom_eq streamed_readEntry Json.streamed_nextMember
    readEntry_shorter Json.nextMember_rest_lt start

theorem streamed_readEntries (start : List Char) :
    Streamed tail (readEntries start) (readEntries (start ++ tail)) := by
  refine Json.streamed_of_opened '\x7b' (fun cs => firstMember cs >>= fun
    | .close left => .ok ([], left)
    | .item rest => readEntriesFrom rest) ?_ ?_ ?_ start
  · intro cs rest hs
    simp only [readEntries, hs]
    rcases firstMember rest with e | _ | _ <;> rfl
  · intro cs hs
    unfold readEntries
    grind
  · intro start
    refine (Json.streamed_firstMember start).bind fun step _ => ?_
    cases step with
    | close left => exact .ok (([] : List (String × List String)), left)
    | item rest => exact streamed_readEntriesFrom rest

/-! ## Starts of documents -/

/-- The member for cards, whose key has been read. -/
theorem readMember_of_key {cs rest : List Char} (h : readText cs = .ok ("cards".toList, rest)) :
    readMember none cs = readColon rest >>= fun rest' =>
      readEntries rest' >>= fun (entries, left) => .ok (some entries, left) := by
  rw [readMember, h]
  simp only [if_true, Option.isSome_none, Bool.false_eq_true, if_false]
  cases readColon rest with
  | error e => rfl
  | ok rest' =>
    show _ = readEntries rest' >>= _
    dsimp only
    cases readEntries rest' <;> rfl

/-- Only the member for cards has entries. -/
theorem exists_key_of_readMember {cs left : List Char} {entries : List (String × List String)}
    (h : readMember none cs = .ok (some entries, left)) :
    ∃ rest, readText cs = .ok ("cards".toList, rest) := by
  unfold readMember at h
  split at h
  · cases h
  · next key rest htext =>
    split_ifs at h with hkey
    · exact ⟨rest, hkey ▸ htext⟩
    · split at h
      · cases h
      · split at h <;> cases h

/-- Other members may hold numbers, but the member with the entries does not. -/
theorem streamed_readMember {start left : List Char} {entries : List (String × List String)}
    (h : readMember none (start ++ tail) = .ok (some entries, left)) :
    readMember none start = .error .truncated ∨
      ∃ rest, readMember none start = .ok (some entries, rest) ∧ left = rest ++ tail := by
  obtain ⟨rest, htext⟩ := exists_key_of_readMember h
  rcases Json.streamed_readText start _ htext with hs | ⟨⟨key, rest⟩, hs, heq⟩
  · left
    rw [readMember, hs]
  · cases heq
    have hmember : Streamed tail (readMember none start) (readMember none (start ++ tail)) := by
      rw [readMember_of_key htext, readMember_of_key hs]
      refine (Json.streamed_readColon rest).bind fun rest' _ => ?_
      refine (streamed_readEntries rest').bind fun listed _ => ?_
      exact .ok (some listed.1, listed.2)
    rcases hmember _ h with hm | ⟨⟨_, left⟩, hm, heq⟩
    · exact .inl hm
    · cases heq
      exact .inr ⟨left, hm, rfl⟩

/-- Without the bracket at the end of the document, its members are not read. -/
theorem readMembersFrom_of_truncated {start : List Char} {entries : List (String × List String)}
    (h : readMember none (start ++ tail) = .ok (some entries, lineStart 0 ++ ['\x7d']))
    (htail : tail ≠ []) : readMembersFrom none start = .error .truncated := by
  rw [readMembersFrom_eq]
  rcases streamed_readMember h with hm | ⟨left, hm, hleft⟩
  · rw [hm]
    rfl
  · rw [hm]
    have hnext := hleft ▸ Json.nextMember_close 0 []
    rcases Json.streamed_nextMember left _ hnext with hn | ⟨⟨left'⟩ | _, hn, heq⟩
    · show nextMember left >>= _ = _
      rw [hn]
      rfl
    · -- the bracket closes the document, so nothing has been cut off
      exact absurd (List.append_eq_nil_iff.mp (Json.Step.close.inj heq).symm).2 htail
    · cases heq

/-- Each reader on the way comes to the end of the start, or reads it as it reads the document. -/
theorem readDocument_of_truncated {index : CardIndex} {start : List Char}
    (happend : start ++ tail = index.written.toList) (htail : tail ≠ []) :
    readDocument start = .error .truncated := by
  obtain ⟨cs, hcs, hmember⟩ := readMember_written index
  rcases Json.skipSpace_append start tail with hs | ⟨c, rest, hs, hs'⟩
  · rw [readDocument, hs]
    rfl
  · rw [happend, hcs, Json.skipSpace_of_not_isSpace rfl] at hs'
    obtain ⟨rfl, hrest⟩ := List.cons.inj hs'
    simp only [readDocument, hs]
    have hfirst := hrest ▸ Json.firstMember_lineStart 1 cs
    rcases Json.streamed_firstMember rest _ hfirst with hf | ⟨_ | ⟨members⟩, hf, heq⟩
    · rw [hf]
    · cases heq
    · cases heq
      simp only [hf, readMembersFrom_of_truncated hmember htail]

/-- A start of a document that is not the whole is not read as an index. -/
theorem read_of_truncated {index : CardIndex} {start : String}
    (hstart : start.toList <+: index.written.toList) (hne : start ≠ index.written) :
    read start = .error .truncated := by
  obtain ⟨tail, happend⟩ := hstart
  have htail : tail ≠ [] := by
    rintro rfl
    rw [List.append_nil] at happend
    exact hne (String.toList_inj.mp happend)
  rw [read, listed, readDocument_of_truncated happend htail]

end CardIndex

/-! ## Truncated files -/

namespace Store

variable {store : Store} {files : FileTree}

/-- A file with a fault is not loaded, and the fault is told. -/
theorem yields_load_of_fault {text : String} {fault : Json.Fault}
    (hfile : files.readBytes store.path = .ok text.toUTF8)
    (hread : CardIndex.read text = .error fault) :
    Simulation.Yields store.load files (.error (.badDocument fault)) files := by
  refine (FileAccess.yields_readText hfile).bind ?_
  simp only [hread]
  exact .pure _

theorem yields_loadOrEmpty_of_fault {text : String} {fault : Json.Fault}
    (hfile : files.readBytes store.path = .ok text.toUTF8)
    (hread : CardIndex.read text = .error fault) :
    Simulation.Yields store.loadOrEmpty files (.error (.badDocument fault)) files :=
  (yields_load_of_fault hfile hread).bind (.pure _)

/-- **A truncated file is refused.** A save that succeeds writes the document of the index into
    the store's file. A file with a start of that document, but not all of it, is refused as too
    short by both ways to load it and by every question for a card, so it is never taken for
    another index. -/
theorem truncated_file_is_refused (index : CardIndex) :
    (∀ (store : Store) (world world' : World),
      (store.save index : Simulation _) world = (.ok (), world') →
        world'.files.readBytes store.path = .ok index.written.toUTF8) ∧
    ∀ (store : Store) (world : World) (start : String),
      start.toList <+: index.written.toList → start ≠ index.written →
      world.files.readBytes store.path = .ok start.toUTF8 →
        ((store.load : Simulation _) world).1 = .error (.badDocument .truncated) ∧
        ((store.loadOrEmpty : Simulation _) world).1 = .error (.badDocument .truncated) ∧
        ∀ card, ((store.find card : Simulation _) world).1 =
          .error (.badDocument .truncated) := by
  refine ⟨fun store world world' hsave => (ready_of_save hsave).2, ?_⟩
  intro store world start hstart hne hfile
  have hread := CardIndex.read_of_truncated hstart hne
  have hload := yields_load_of_fault hfile hread
  have hloadOrEmpty := yields_loadOrEmpty_of_fault hfile hread
  have hfind : ∀ card, Simulation.Yields (store.find card) world.files
      (.error (.badDocument .truncated)) world.files :=
    fun card => hloadOrEmpty.bind (.pure _)
  exact ⟨hload.fst, hloadOrEmpty.fst, fun card => (hfind card).fst⟩

/-- A file that ends within an escape. -/
theorem truncated_file_is_refused_of_escape :
    let index := (CardIndex.empty.insert "Fire \"x\"" "c1").2
    let start := "\x7b\n  \"cards\": \x7b\n    \"fire \\"
    let store : Store := ⟨⟨"cards.json"⟩⟩
    let world : World := ⟨⟨[(["cards.json"], .file start.toUTF8)]⟩, []⟩
    start.toList <+: index.written.toList ∧ start ≠ index.written ∧
      world.files.readBytes store.path = .ok start.toUTF8 ∧
      ((store.load : Simulation _) world).1 = .error (.badDocument .truncated) := by
  intro index start store world
  have hstart : start.toList <+: index.written.toList := by decide +kernel
  have hne : start ≠ index.written := by decide +kernel
  have hread : ∀ content, FileTree.readBytes ⟨[(["cards.json"], .file content)]⟩
      ⟨"cards.json"⟩ = .ok content := fun _ => by rfl
  have hfile : world.files.readBytes store.path = .ok start.toUTF8 := hread start.toUTF8
  exact ⟨hstart, hne, hfile,
    ((truncated_file_is_refused index).2 store world start hstart hne hfile).1⟩

end Store

end CubeQuery
