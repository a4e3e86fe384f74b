import CubeQuery.Proofs.CardIndex.Invariant
import CubeQuery.Proofs.Json.Text

/-!
# Reading what was written

The document of an index is read back as the index. The entries come back in
their order, and since an index with the invariant has its names normal and in
ascending order, joining the entries under normal names changes nothing.

* `listed_written`: the entries of the written document, for any index.
* `ofListed_listing`: the entries of an index with the invariant make it again.
* `read_written`: reading inverts writing on indexes with the invariant.
-/

namespace CubeQuery.CardIndex

open CubeQuery.Json (lineStart writtenText writtenItems writtenMembers readText readColon
  firstItem nextItem firstMember nextMember)

/-! ## Steps of the readers -/

theorem readCube_writtenText (cube : String) (rest : List Char) :
    readCube (writtenText cube ++ rest) = .ok (cube, rest) := by
  obtain ⟨cs, hcs, hread⟩ := Json.writtenText_append cube rest
  rw [hcs, readCube, Json.skipSpace_of_not_isSpace rfl]
  simp only [hread, String.ofList_toList]

theorem readCubesFrom_last {cs rest left : List Char} {cube : String}
    (h : readCube cs = .ok (cube, rest)) (hnext : nextItem rest = .ok (.close left)) :
    readCubesFrom cs = .ok ([cube], left) := by
  rw [readCubesFrom.eq_def]
  grind

theorem readCubesFrom_more {cs rest rest' left : List Char} {cube : String} {cubes : List String}
    (h : readCube cs = .ok (cube, rest)) (hnext : nextItem rest = .ok (.item rest'))
    (hmore : readCubesFrom rest' = .ok (cubes, left)) :
    readCubesFrom cs = .ok (cube :: cubes, left) := by
  rw [readCubesFrom.eq_def]
  grind

theorem readEntriesFrom_last {cs rest left : List Char} {entry : String × List String}
    (h : readEntry cs = .ok (entry, rest)) (hnext : nextMember rest = .ok (.close left)) :
    readEntriesFrom cs = .ok ([entry], left) := by
  rw [readEntriesFrom.eq_def]
  grind

theorem readEntriesFrom_more {cs rest rest' left : List Char} {entry : String × List String}
    {entries : List (String × List String)} (h : readEntry cs = .ok (entry, rest))
    (hnext : nextMember rest = .ok (.item rest'))
    (hmore : readEntriesFrom rest' = .ok (entries, left)) :
    readEntriesFrom cs = .ok (entry :: entries, left) := by
  rw [readEntriesFrom.eq_def]
  grind

theorem readMembersFrom_last {cs rest left : List Char}
    {seen seen' : Option (List (String × List String))}
    (h : readMember seen cs = .ok (seen', rest)) (hnext : nextMember rest = .ok (.close left)) :
    readMembersFrom seen cs = .ok (seen', left) := by
  rw [readMembersFrom.eq_def]
  grind

/-! ## Lists of cubes -/

/-- The cubes of a list after its opening bracket, with what follows the list. -/
theorem readCubesFrom_written (level level' : Nat) (cube : String) (cubes : List String)
    (rest : List Char) :
    readCubesFrom (writtenText cube ++ (writtenItems level (cubes.map .text) ++
      (lineStart level' ++ ']' :: rest))) = .ok (cube :: cubes, rest) := by
  induction cubes generalizing cube with
  | nil =>
    rw [List.map_nil, writtenItems, List.nil_append]
    exact readCubesFrom_last (readCube_writtenText cube _) (Json.nextItem_close level' rest)
  | cons next cubes ih =>
    refine readCubesFrom_more (readCube_writtenText cube _) ?_ (ih next)
    obtain ⟨cs, hcs, -⟩ := Json.writtenText_append next
      (writtenItems level (cubes.map .text) ++ (lineStart level' ++ ']' :: rest))
    rw [List.map_cons, writtenItems, Json.written, List.cons_append, List.append_assoc,
      List.append_assoc, hcs]
    exact Json.nextItem_comma level cs

theorem readCubes_written (level : Nat) (cubes : List String) (rest : List Char) :
    readCubes (Json.written level (.texts cubes) ++ rest) = .ok (cubes, rest) := by
  cases cubes with
  | nil => rfl
  | cons cube cubes =>
    obtain ⟨cs, hcs, -⟩ := Json.writtenText_append cube
      (writtenItems (level + 1) (cubes.map .text) ++ (lineStart level ++ ']' :: rest))
    have hread := readCubesFrom_written (level + 1) level cube cubes rest
    rw [Json.texts, List.map_cons, Json.written, Json.written]
    simp only [List.cons_append, List.append_assoc, List.nil_append]
    rw [readCubes, Json.skipSpace_of_not_isSpace rfl]
    simp only [hcs, Json.firstItem_lineStart]
    rw [← hcs, hread]

/-! ## Entries -/

theorem readCubes_space (cs : List Char) : readCubes (' ' :: cs) = readCubes cs := rfl

theorem readEntries_space (cs : List Char) : readEntries (' ' :: cs) = readEntries cs := rfl

/-- The member of the document for an entry. -/
def member (entry : String × TextSet) : String × Json := (entry.1, .texts entry.2.toList)

/-- An entry as it is listed. -/
def listing (entry : String × TextSet) : String × List String := (entry.1, entry.2.toList)

/-- What is written for an entry is an opening quote, and then the entry is read. -/
theorem readEntry_written (level : Nat) (entry : String × TextSet) (rest : List Char) :
    ∃ cs, writtenText (member entry).1 ++ (':' :: ' ' ::
        (Json.written level (member entry).2 ++ rest)) = '"' :: cs ∧
      readEntry cs = .ok (listing entry, rest) := by
  obtain ⟨cs, hcs, hread⟩ := Json.writtenText_append entry.1
    (':' :: ' ' :: (Json.written level (.texts entry.2.toList) ++ rest))
  refine ⟨cs, hcs, ?_⟩
  rw [readEntry, hread]
  simp only [Json.readColon_colon, readCubes_space, readCubes_written, String.ofList_toList]
  rfl

theorem readEntriesFrom_written (level level' : Nat) (entry : String × TextSet)
    (entries : List (String × TextSet)) (rest : List Char) :
    ∃ cs, writtenText (member entry).1 ++ (':' :: ' ' :: (Json.written level (member entry).2 ++
        (writtenMembers level (entries.map member) ++ (lineStart level' ++ '\x7d' :: rest)))) =
          '"' :: cs ∧
      readEntriesFrom cs = .ok (listing entry :: entries.map listing, rest) := by
  induction entries generalizing entry with
  | nil =>
    obtain ⟨cs, hcs, hread⟩ := readEntry_written level entry (lineStart level' ++ '\x7d' :: rest)
    exact ⟨cs, hcs, readEntriesFrom_last hread (Json.nextMember_close level' rest)⟩
  | cons next entries ih =>
    obtain ⟨cs', hcs', hmore⟩ := ih next
    obtain ⟨cs, hcs, hread⟩ := readEntry_written level entry
      (writtenMembers level ((next :: entries).map member) ++ (lineStart level' ++ '\x7d' :: rest))
    refine ⟨cs, hcs, readEntriesFrom_more hread ?_ hmore⟩
    rw [List.map_cons, writtenMembers]
    simp only [List.cons_append, List.append_assoc]
    rw [hcs']
    exact Json.nextMember_comma level cs'

theorem readEntries_written (level : Nat) (entries : List (String × TextSet)) (rest : List Char) :
    readEntries (Json.written level (.object (entries.map member)) ++ rest) =
      .ok (entries.map listing, rest) := by
  cases entries with
  | nil => rfl
  | cons entry entries =>
    obtain ⟨cs, hcs, hread⟩ := readEntriesFrom_written (level + 1) level entry entries rest
    rw [List.map_cons, Json.written.eq_def]
    simp only [List.cons_append, List.append_assoc, List.nil_append]
    rw [readEntries, Json.skipSpace_of_not_isSpace rfl]
    simp only [hcs, Json.firstMember_lineStart]
    rw [hread, List.map_cons]

/-! ## Documents -/

theorem document_eq (index : CardIndex) :
    index.document = .object [("cards", .object (index.entries.map member))] := rfl

/-- What is written for an index is an opening bracket and a quote, and then the member with
    the entries is read. -/
theorem readMember_written (index : CardIndex) :
    ∃ cs, index.written.toList = '\x7b' :: (lineStart 1 ++ '"' :: cs) ∧
      readMember none cs = .ok (some (index.entries.map listing), lineStart 0 ++ ['\x7d']) := by
  obtain ⟨cs, hcs, hread⟩ := Json.writtenText_append "cards" (':' :: ' ' ::
    (Json.written 1 (.object (index.entries.map member)) ++ (lineStart 0 ++ ['\x7d'])))
  refine ⟨cs, ?_, ?_⟩
  · rw [written, Json.render, String.toList_ofList, document_eq, Json.written, writtenMembers,
      List.nil_append, hcs]
  · rw [readMember, hread]
    simp only [Json.readColon_colon, readEntries_space, readEntries_written]
    rfl

/-- The entries of the written document are those of the index, in order. -/
theorem listed_written (index : CardIndex) :
    listed index.written = .ok (index.entries.map listing) := by
  obtain ⟨cs, hcs, hmember⟩ := readMember_written index
  rw [listed, hcs, readDocument, Json.skipSpace_of_not_isSpace rfl]
  simp only [Json.firstMember_lineStart,
    readMembersFrom_last hmember (Json.nextMember_close 0 [])]
  rfl

/-! ## Entries under normal names -/

theorem union_empty (s : TextSet) : TextSet.empty.union s = s := by
  refine TextSet.ext fun u => ?_
  rw [TextSet.mem_union]
  exact or_iff_left (TextSet.not_mem_empty u)

/-- Entries in ascending order come to the end one after the other. -/
theorem foldl_put (acc : List (String × TextSet)) {entries : List (String × TextSet)}
    (h : Keyed.Ascending (acc ++ entries)) :
    (entries.map listing).foldl
      (fun acc (name, cubes) => Keyed.put name (TextSet.ofList cubes) acc) acc =
        acc ++ entries := by
  induction entries generalizing acc with
  | nil => rw [List.append_nil, List.map_nil, List.foldl_nil]
  | cons entry entries ih =>
    have hlt : ∀ e ∈ acc, e.1 < entry.1 := fun e he =>
      (List.pairwise_append.mp h).2.2 e he entry List.mem_cons_self
    rw [List.map_cons, List.foldl_cons]
    show (entries.map listing).foldl _
      (Keyed.put entry.1 (TextSet.ofList entry.2.toList) acc) = _
    rw [TextSet.ofList_toList, Keyed.put_of_lt hlt, ih _ (by rwa [List.append_assoc]),
      List.append_assoc]
    rfl

/-- An entry of a new card comes to the end. -/
theorem absorb_of_lt {acc : List (String × TextSet)} {entry : String × TextSet}
    (hlt : ∀ e ∈ acc, e.1 < entry.1) (hnormal : normalName entry.1 = entry.1)
    (hne : entry.2 ≠ .empty) : absorb ⟨acc⟩ entry.1 entry.2 = ⟨acc ++ [entry]⟩ := by
  have hnew : Keyed.find? entry.1 acc = none := by
    rw [Option.eq_none_iff_forall_ne_some]
    intro value hvalue
    exact String.lt_irrefl entry.1 (hlt (entry.1, value) (Keyed.mem_of_find?_eq_some hvalue))
  rw [absorb, if_neg fun hempty => hne (TextSet.isEmpty_iff.mp hempty), cubes, cubes?, hnormal,
    hnew, Option.getD_none, union_empty, Keyed.put_of_lt hlt]

/-- Entries with the invariant stay as they are under normal names. -/
theorem foldl_absorb (acc : List (String × TextSet)) {entries : List (String × TextSet)}
    (h : IsNormal ⟨acc ++ entries⟩) :
    entries.foldl (fun index (name, cubes) => index.absorb name cubes) ⟨acc⟩ =
      (⟨acc ++ entries⟩ : CardIndex) := by
  induction entries generalizing acc with
  | nil => rw [List.append_nil, List.foldl_nil]
  | cons entry entries ih =>
    have hmem : entry ∈ acc ++ entry :: entries :=
      List.mem_append_right acc List.mem_cons_self
    have hlt : ∀ e ∈ acc, e.1 < entry.1 := fun e he =>
      (List.pairwise_append.mp h.ascending).2.2 e he entry List.mem_cons_self
    rw [List.foldl_cons]
    show entries.foldl _ (absorb ⟨acc⟩ entry.1 entry.2) = _
    rw [absorb_of_lt hlt (h.normal entry hmem) (h.nonempty entry hmem),
      ih _ (by rwa [List.append_assoc]), List.append_assoc]
    rfl

/-- The entries of an index with the invariant make the index again. -/
theorem ofListed_listing {index : CardIndex} (h : index.IsNormal) :
    ofListed (index.entries.map listing) = index := by
  rw [ofListed, foldl_put [] h.ascending]
  exact foldl_absorb [] h

/-- Reading inverts writing on indexes with the invariant. -/
theorem read_written {index : CardIndex} (h : index.IsNormal) :
    read index.written = .ok index := by
  rw [read, listed_written]
  simp only [ofListed_listing h]

end CubeQuery.CardIndex
