import CubeQuery.CardIndex.Basic
import CubeQuery.Json.Basic
import CubeQuery.Json.Skip
import CubeQuery.Json.WrongType

/-!
# Card index documents

An index is kept in a JSON object whose member `cards` maps the names of cards to
lists of cubes. Reading is more generous than writing: other members are passed
over, `cards` may be missing, and a list that holds the value of `cards` may
stand for the object. Names may be in any form, and of entries with the same
name the last one counts.
-/

namespace CubeQuery.CardIndex

open CubeQuery.Json (Fault skipSpace readText skipValue readColon wrongType firstItem nextItem
  firstMember nextMember)

/-! ## Writing -/

/-- The document of an index. -/
def document (index : CardIndex) : Json :=
  .object [("cards", .object (index.entries.map fun (name, cubes) => (name, .texts cubes.toList)))]

/-- The text in which an index is kept (in `save`). -/
def written (index : CardIndex) : String := index.document.render

/-! ## Reading -/

/-- Reads a cube, which is a text. -/
def readCube (cs : List Char) : Except Fault (String × List Char) :=
  match skipSpace cs with
  | '"' :: rest =>
    match readText rest with
    | .error e => .error e
    | .ok (text, left) => .ok (String.ofList text, left)
  | other => .error (wrongType other)

theorem readCube_shorter {cs rest : List Char} {cube : String}
    (h : readCube cs = .ok (cube, rest)) : rest.length < cs.length := by
  unfold readCube at h
  split at h
  · next tail hs =>
    have h1 := Json.length_lt_of_skipSpace hs
    split at h
    · simp at h
    · next text left ht =>
      have h2 := Json.readText_shorter ht
      simp only [Except.ok.injEq, Prod.mk.injEq] at h
      obtain ⟨-, rfl⟩ := h
      omega
  · simp at h

/-- Reads the cubes of a list from a cube on, with the bracket that closes the list. -/
def readCubesFrom (cs : List Char) : Except Fault (List String × List Char) :=
  match h : readCube cs with
  | .error e => .error e
  | .ok (cube, rest) =>
    have := readCube_shorter h
    match hn : nextItem rest with
    | .error e => .error e
    | .ok (.close left) => .ok ([cube], left)
    | .ok (.item rest') =>
      have : rest'.length < rest.length := Json.nextItem_rest_lt hn
      match readCubesFrom rest' with
      | .error e => .error e
      | .ok (cubes, left) => .ok (cube :: cubes, left)
termination_by cs.length

theorem readCubesFrom_shorter {cs rest : List Char} {cubes : List String}
    (h : readCubesFrom cs = .ok (cubes, rest)) : rest.length < cs.length := by
  fun_induction readCubesFrom cs generalizing cubes rest with
  | case1 => simp at h
  | case2 => simp at h
  | case3 cs cube mid hc h1 left hn =>
    have h2 : left.length < mid.length := Json.nextItem_rest_lt hn
    simp only [Except.ok.injEq, Prod.mk.injEq] at h
    obtain ⟨-, rfl⟩ := h
    omega
  | case4 => simp at h
  | case5 cs cube mid hc h1 mid' hn h2 cubes' left hr ih =>
    have h3 := ih hr
    simp only [Except.ok.injEq, Prod.mk.injEq] at h
    obtain ⟨-, rfl⟩ := h
    omega

/-- Reads a list of cubes. -/
def readCubes (cs : List Char) : Except Fault (List String × List Char) :=
  match skipSpace cs with
  | '[' :: rest =>
    match firstItem rest with
    | .error e => .error e
    | .ok (.close left) => .ok ([], left)
    | .ok (.item rest') => readCubesFrom rest'
  | other => .error (wrongType other)

theorem readCubes_shorter {cs rest : List Char} {cubes : List String}
    (h : readCubes cs = .ok (cubes, rest)) : rest.length < cs.length := by
  unfold readCubes at h
  split at h
  · next tail hs =>
    have h1 := Json.length_lt_of_skipSpace hs
    split at h
    · simp at h
    · next left hf =>
      have h2 : left.length ≤ tail.length := Json.firstItem_rest_le hf
      simp only [Except.ok.injEq, Prod.mk.injEq] at h
      obtain ⟨-, rfl⟩ := h
      omega
    · next left hf =>
      have h2 : left.length ≤ tail.length := Json.firstItem_rest_le hf
      have h3 := readCubesFrom_shorter h
      omega
  · simp at h

/-- Reads an entry, a name and a list of cubes. The opening quote of the name has been
    read. -/
def readEntry (cs : List Char) : Except Fault ((String × List String) × List Char) :=
  match readText cs with
  | .error e => .error e
  | .ok (name, rest) =>
    match readColon rest with
    | .error e => .error e
    | .ok rest' =>
      match readCubes rest' with
      | .error e => .error e
      | .ok (cubes, left) => .ok ((String.ofList name, cubes), left)

theorem readEntry_shorter {cs rest : List Char} {entry : String × List String}
    (h : readEntry cs = .ok (entry, rest)) : rest.length < cs.length := by
  unfold readEntry at h
  split at h
  · simp at h
  · next name mid ht =>
    have h1 := Json.readText_shorter ht
    split at h
    · simp at h
    · next mid' hc =>
      have h2 := Json.readColon_shorter hc
      split at h
      · simp at h
      · next cubes left hr =>
        have h3 := readCubes_shorter hr
        simp only [Except.ok.injEq, Prod.mk.injEq] at h
        obtain ⟨-, rfl⟩ := h
        omega

/-- Reads entries from an entry on, with the bracket that closes them. The opening quote
    of the first name has been read. -/
def readEntriesFrom (cs : List Char) : Except Fault (List (String × List String) × List Char) :=
  match h : readEntry cs with
  | .error e => .error e
  | .ok (entry, rest) =>
    have := readEntry_shorter h
    match hn : nextMember rest with
    | .error e => .error e
    | .ok (.close left) => .ok ([entry], left)
    | .ok (.item rest') =>
      have : rest'.length < rest.length := Json.nextMember_rest_lt hn
      match readEntriesFrom rest' with
      | .error e => .error e
      | .ok (entries, left) => .ok (entry :: entries, left)
termination_by cs.length

theorem readEntriesFrom_shorter {cs rest : List Char} {entries : List (String × List String)}
    (h : readEntriesFrom cs = .ok (entries, rest)) : rest.length < cs.length := by
  fun_induction readEntriesFrom cs generalizing entries rest with
  | case1 => simp at h
  | case2 => simp at h
  | case3 cs entry mid hc h1 left hn =>
    have h2 : left.length < mid.length := Json.nextMember_rest_lt hn
    simp only [Except.ok.injEq, Prod.mk.injEq] at h
    obtain ⟨-, rfl⟩ := h
    omega
  | case4 => simp at h
  | case5 cs entry mid hc h1 mid' hn h2 entries' left hr ih =>
    have h3 := ih hr
    simp only [Except.ok.injEq, Prod.mk.injEq] at h
    obtain ⟨-, rfl⟩ := h
    omega

/-- Reads the value of `cards`. -/
def readEntries (cs : List Char) : Except Fault (List (String × List String) × List Char) :=
  match skipSpace cs with
  | '\x7b' :: rest =>
    match firstMember rest with
    | .error e => .error e
    | .ok (.close left) => .ok ([], left)
    | .ok (.item rest') => readEntriesFrom rest'
  | other => .error (wrongType other)

theorem readEntries_shorter {cs rest : List Char} {entries : List (String × List String)}
    (h : readEntries cs = .ok (entries, rest)) : rest.length < cs.length := by
  unfold readEntries at h
  split at h
  · next tail hs =>
    have h1 := Json.length_lt_of_skipSpace hs
    split at h
    · simp at h
    · next left hf =>
      have h2 : left.length < tail.length := Json.firstMember_rest_lt hf
      simp only [Except.ok.injEq, Prod.mk.injEq] at h
      obtain ⟨-, rfl⟩ := h
      omega
    · next left hf =>
      have h2 : left.length < tail.length := Json.firstMember_rest_lt hf
      have h3 := readEntriesFrom_shorter h
      omega
  · simp at h

/-- Reads a member of the document, whose opening quote has been read. `seen` holds the
    entries of an earlier member `cards`; a second one is of no use. -/
def readMember (seen : Option (List (String × List String))) (cs : List Char) :
    Except Fault (Option (List (String × List String)) × List Char) :=
  match readText cs with
  | .error e => .error e
  | .ok (key, rest) =>
    if key = "cards".toList then
      if seen.isSome then .error .mistyped
      else
        match readColon rest with
        | .error e => .error e
        | .ok rest' =>
          match readEntries rest' with
          | .error e => .error e
          | .ok (entries, left) => .ok (some entries, left)
    else
      match readColon rest with
      | .error e => .error e
      | .ok rest' =>
        match skipValue rest' with
        | .error e => .error e
        | .ok left => .ok (seen, left)

theorem readMember_shorter {seen seen' : Option (List (String × List String))}
    {cs rest : List Char} (h : readMember seen cs = .ok (seen', rest)) :
    rest.length < cs.length := by
  unfold readMember at h
  split at h
  · simp at h
  · next key mid ht =>
    have h1 := Json.readText_shorter ht
    split at h
    · split at h
      · simp at h
      · split at h
        · simp at h
        · next mid' hc =>
          have h2 := Json.readColon_shorter hc
          split at h
          · simp at h
          · next entries left hr =>
            have h3 := readEntries_shorter hr
            simp only [Except.ok.injEq, Prod.mk.injEq] at h
            obtain ⟨-, rfl⟩ := h
            omega
    · split at h
      · simp at h
      · next mid' hc =>
        have h2 := Json.readColon_shorter hc
        split at h
        · simp at h
        · next left hr =>
          have h3 := Json.skipValue_shorter hr
          simp only [Except.ok.injEq, Prod.mk.injEq] at h
          obtain ⟨-, rfl⟩ := h
          omega

/-- Reads the members of the document from a member on, with the bracket that closes
    them. -/
def readMembersFrom (seen : Option (List (String × List String))) (cs : List Char) :
    Except Fault (Option (List (String × List String)) × List Char) :=
  match h : readMember seen cs with
  | .error e => .error e
  | .ok (seen', rest) =>
    have := readMember_shorter h
    match hn : nextMember rest with
    | .error e => .error e
    | .ok (.close left) => .ok (seen', left)
    | .ok (.item rest') =>
      have : rest'.length < rest.length := Json.nextMember_rest_lt hn
      readMembersFrom seen' rest'
termination_by cs.length

/-- Reads the closing bracket of a list that stands for the document. -/
def readListEnd (cs : List Char) : Except Fault (List Char) :=
  match skipSpace cs with
  | [] => .error .truncated
  | ']' :: rest => .ok rest
  | _ => .error .malformed

/-- Reads the entries of a document, with what follows it. -/
def readDocument (cs : List Char) : Except Fault (List (String × List String) × List Char) :=
  match skipSpace cs with
  | '[' :: rest =>
    match firstItem rest with
    | .error e => .error e
    | .ok (.close left) => .ok ([], left)
    | .ok (.item rest') =>
      match readEntries rest' with
      | .error e => .error e
      | .ok (entries, rest'') =>
        match readListEnd rest'' with
        | .error e => .error e
        | .ok left => .ok (entries, left)
  | '\x7b' :: rest =>
    match firstMember rest with
    | .error e => .error e
    | .ok (.close left) => .ok ([], left)
    | .ok (.item rest') =>
      match readMembersFrom none rest' with
      | .error e => .error e
      | .ok (seen, left) => .ok (seen.getD [], left)
  | other => .error (wrongType other)

/-- The entries of a text that is a document and nothing else, in the order in which they
    are written. -/
def listed (text : String) : Except Fault (List (String × List String)) :=
  match readDocument text.toList with
  | .error e => .error e
  | .ok (entries, rest) =>
    match skipSpace rest with
    | [] => .ok entries
    | _ :: _ => .error .malformed

/-- The index of a document (`parse`). -/
def read (text : String) : Except Fault CardIndex :=
  match listed text with
  | .error e => .error e
  | .ok entries => .ok (ofListed entries)

end CubeQuery.CardIndex
