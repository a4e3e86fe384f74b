import CubeQuery.Proofs.Json.Text
import Mathlib.Data.Nat.Digits.Defs

/-!
# Reading values back

A reader of JSON values, and that it reads every value back from its written
form. The lists and objects that are open while a value is read are kept in a
list of frames, so that values can be nested to any depth.

* `read`: the value of a text that is one value and nothing else.
* `readWithin_written`: a written value is read whole, whatever surrounds it.
* `read_render`: reading inverts writing.
-/

namespace CubeQuery.Json

/-! ## The reader -/

/-- Reads a number without its sign. Only whole numbers are values here. -/
def readNatural (cs : List Char) : Except Fault (Nat × List Char) :=
  match skipNumber cs with
  | .error e => .error e
  | .ok rest =>
    if rest = skipDigits cs then
      .ok (Nat.ofDigitChars 10 (cs.takeWhile Char.isDigit) 0, rest)
    else .error .mistyped

/-- Reads a value that holds no other values and starts here. -/
def readScalar (cs : List Char) : Except Fault (Json × List Char) :=
  match cs with
  | [] => .error .truncated
  | 'n' :: rest => (skipWord ['u', 'l', 'l'] rest).map (.null, ·)
  | 't' :: rest => (skipWord ['r', 'u', 'e'] rest).map (.bool true, ·)
  | 'f' :: rest => (skipWord ['a', 'l', 's', 'e'] rest).map (.bool false, ·)
  | '-' :: rest => (readNatural rest).map fun (n, left) => (.int (-n), left)
  | '"' :: rest => (readText rest).map fun (s, left) => (.text (String.ofList s), left)
  | cs => (readNatural cs).map fun (n, left) => (.int n, left)

/-- Reads a key whose opening quote has been read, and the colon after it. -/
def readKey (cs : List Char) : Except Fault (String × List Char) :=
  match readText cs with
  | .error e => .error e
  | .ok (key, rest) => (readColon rest).map (String.ofList key, ·)

theorem map_eq_ok {ε α β : Type} {f : α → β} {x : Except ε α} {b : β} (h : x.map f = .ok b) :
    ∃ a, x = .ok a ∧ f a = b := by
  cases x with
  | error e => cases h
  | ok a =>
    cases h
    exact ⟨a, rfl, rfl⟩

theorem readNatural_shorter {cs rest : List Char} {n : Nat}
    (h : readNatural cs = .ok (n, rest)) : rest.length < cs.length := by
  unfold readNatural at h
  split at h
  · cases h
  · next left hskip =>
    split_ifs at h
    cases h
    exact skipNumber_shorter hskip

theorem readScalar_shorter {cs rest : List Char} {value : Json}
    (h : readScalar cs = .ok (value, rest)) : rest.length < cs.length := by
  unfold readScalar at h
  split at h
  · cases h
  all_goals
    obtain ⟨a, ha, heq⟩ := map_eq_ok h
    cases heq
  · exact Nat.lt_succ_of_le (skipWord_length_le ha)
  · exact Nat.lt_succ_of_le (skipWord_length_le ha)
  · exact Nat.lt_succ_of_le (skipWord_length_le ha)
  · exact Nat.lt_succ_of_lt (readNatural_shorter ha)
  · exact Nat.lt_succ_of_lt (readText_shorter ha)
  · exact readNatural_shorter ha

theorem readKey_shorter {cs rest : List Char} {key : String}
    (h : readKey cs = .ok (key, rest)) : rest.length < cs.length := by
  unfold readKey at h
  split at h
  · cases h
  · next mid htext =>
    obtain ⟨left, hcolon, heq⟩ := map_eq_ok h
    cases heq
    exact Nat.lt_trans (readColon_shorter hcolon) (readText_shorter htext)

/-- A list or an object that is being read, with what has been read of it. -/
inductive Frame where
  | list (items : List Json)
  /-- The value of the key is being read. -/
  | object (members : List (String × Json)) (key : String)

mutual

/-- Reads a value, and then all that the frames around it still hold. -/
def readWithin (frames : List Frame) (cs : List Char) : Except Fault (Json × List Char) :=
  match hs : skipSpace cs with
  | [] => .error .truncated
  | '[' :: rest =>
    have := length_lt_of_skipSpace hs
    match h : firstItem rest with
    | .error e => .error e
    | .ok (.close rest') =>
      have : rest'.length ≤ rest.length := firstItem_rest_le h
      readAfter frames (.array []) rest'
    | .ok (.item rest') =>
      have : rest'.length ≤ rest.length := firstItem_rest_le h
      readWithin (.list [] :: frames) rest'
  | '\x7b' :: rest =>
    have := length_lt_of_skipSpace hs
    match h : firstMember rest with
    | .error e => .error e
    | .ok (.close rest') =>
      have : rest'.length < rest.length := firstMember_rest_lt h
      readAfter frames (.object []) rest'
    | .ok (.item rest') =>
      have : rest'.length < rest.length := firstMember_rest_lt h
      match hk : readKey rest' with
      | .error e => .error e
      | .ok (key, rest'') =>
        have := readKey_shorter hk
        readWithin (.object [] key :: frames) rest''
  | c :: rest =>
    have := length_lt_of_skipSpace hs
    match h : readScalar (c :: rest) with
    | .error e => .error e
    | .ok (value, rest') =>
      have : rest'.length < rest.length + 1 := readScalar_shorter h
      readAfter frames value rest'
termination_by cs.length

/-- Goes on after a value in the frames around it. -/
def readAfter (frames : List Frame) (value : Json) (cs : List Char) :
    Except Fault (Json × List Char) :=
  match frames with
  | [] => .ok (value, cs)
  | .list items :: outer =>
    match h : nextItem cs with
    | .error e => .error e
    | .ok (.close rest) =>
      have : rest.length < cs.length := nextItem_rest_lt h
      readAfter outer (.array (items ++ [value])) rest
    | .ok (.item rest) =>
      have : rest.length < cs.length := nextItem_rest_lt h
      readWithin (.list (items ++ [value]) :: outer) rest
  | .object members key :: outer =>
    match h : nextMember cs with
    | .error e => .error e
    | .ok (.close rest) =>
      have : rest.length < cs.length := nextMember_rest_lt h
      readAfter outer (.object (members ++ [(key, value)])) rest
    | .ok (.item rest) =>
      have : rest.length < cs.length := nextMember_rest_lt h
      match hk : readKey rest with
      | .error e => .error e
      | .ok (next, rest') =>
        have := readKey_shorter hk
        readWithin (.object (members ++ [(key, value)]) next :: outer) rest'
termination_by cs.length

end

/-- The value of a text that is one value and nothing else. -/
def read (text : String) : Except Fault Json :=
  match readWithin [] text.toList with
  | .error e => .error e
  | .ok (value, rest) =>
    match skipSpace rest with
    | [] => .ok value
    | _ :: _ => .error .malformed

/-! ## One step of reading -/

theorem readWithin_eq (frames : List Frame) (cs : List Char) :
    readWithin frames cs =
      match skipSpace cs with
      | [] => .error .truncated
      | '[' :: rest =>
        match firstItem rest with
        | .error e => .error e
        | .ok (.close rest') => readAfter frames (.array []) rest'
        | .ok (.item rest') => readWithin (.list [] :: frames) rest'
      | '\x7b' :: rest =>
        match firstMember rest with
        | .error e => .error e
        | .ok (.close rest') => readAfter frames (.object []) rest'
        | .ok (.item rest') =>
          match readKey rest' with
          | .error e => .error e
          | .ok (key, rest'') => readWithin (.object [] key :: frames) rest''
      | c :: rest =>
        match readScalar (c :: rest) with
        | .error e => .error e
        | .ok (value, rest') => readAfter frames value rest' := by
  rw [readWithin]
  split
  · next hs => simp only [hs]
  · next hs => split <;> next h => simp only [hs, h]
  · next hs =>
    split
    · next h => simp only [hs, h]
    · next h => simp only [hs, h]
    · next h => split <;> next hk => simp only [hs, h, hk]
  · next hs => split <;> next h => simp only [hs, h]

theorem readAfter_list (items : List Json) (outer : List Frame) (value : Json) (cs : List Char) :
    readAfter (.list items :: outer) value cs =
      match nextItem cs with
      | .error e => .error e
      | .ok (.close rest) => readAfter outer (.array (items ++ [value])) rest
      | .ok (.item rest) => readWithin (.list (items ++ [value]) :: outer) rest := by
  rw [readAfter]
  split <;> next h => simp only [h]

theorem readAfter_object (members : List (String × Json)) (key : String) (outer : List Frame)
    (value : Json) (cs : List Char) :
    readAfter (.object members key :: outer) value cs =
      match nextMember cs with
      | .error e => .error e
      | .ok (.close rest) => readAfter outer (.object (members ++ [(key, value)])) rest
      | .ok (.item rest) =>
        match readKey rest with
        | .error e => .error e
        | .ok (next, rest') =>
          readWithin (.object (members ++ [(key, value)]) next :: outer) rest' := by
  rw [readAfter]
  split
  · next h => simp only [h]
  · next h => simp only [h]
  · next h => split <;> next hk => simp only [h, hk]

theorem readWithin_blank (frames : List Frame) (cs : List Char) :
    readWithin frames (' ' :: cs) = readWithin frames cs := by
  have hskip : skipSpace (' ' :: cs) = skipSpace cs := rfl
  rw [readWithin_eq, readWithin_eq, hskip]

theorem readWithin_scalar {frames : List Frame} {cs rest : List Char} {c : Char} {value : Json}
    (hspace : isSpace c = false) (hlist : c ≠ '[') (hobject : c ≠ '\x7b')
    (h : readScalar (c :: cs) = .ok (value, rest)) :
    readWithin frames (c :: cs) = readAfter frames value rest := by
  rw [readWithin_eq, skipSpace_of_not_isSpace hspace]
  split
  · next heq => cases heq
  · next heq => exact absurd (List.cons.inj heq).1 hlist
  · next heq => exact absurd (List.cons.inj heq).1 hobject
  · next heq =>
    cases heq
    rw [h]

/-! ## Numbers -/

/-- Nothing follows that could be a part of a number. -/
def EndsNumber (rest : List Char) : Prop :=
  ∀ c ∈ rest.head?, c.isDigit = false ∧ c ≠ '.' ∧ c ≠ 'e' ∧ c ≠ 'E'

theorem skipDigits_append {digits rest : List Char} (hdigits : ∀ c ∈ digits, c.isDigit = true)
    (hrest : EndsNumber rest) : skipDigits (digits ++ rest) = rest := by
  rw [skipDigits, List.dropWhile_append_of_pos hdigits]
  cases rest with
  | nil => rfl
  | cons c rest => rw [List.dropWhile_cons_of_neg (by simp [(hrest c rfl).1])]

theorem takeWhile_digits_append {digits rest : List Char}
    (hdigits : ∀ c ∈ digits, c.isDigit = true) (hrest : EndsNumber rest) :
    (digits ++ rest).takeWhile Char.isDigit = digits := by
  rw [List.takeWhile_append_of_pos hdigits]
  cases rest with
  | nil => simp
  | cons c rest => simp [(hrest c rfl).1]

theorem skipFraction_of_endsNumber {rest : List Char} (h : EndsNumber rest) :
    skipFraction rest = .ok rest := by
  cases rest with
  | nil => rfl
  | cons c rest =>
    obtain ⟨-, hdot, he, hE⟩ := h c rfl
    unfold skipFraction
    split
    · next heq => exact absurd (List.cons.inj heq).1 hdot
    · simp [skipExponent, he, hE]

/-- Only zero is written with a zero at its start. -/
theorem exists_toDigits {n : Nat} (hn : 0 < n) :
    ∃ c digits, Nat.toDigits 10 n = c :: digits ∧ c ≠ '0' := by
  have hone : ∀ m < 10, 0 < m → Nat.digitChar m ≠ '0' := by decide
  induction n using Nat.strong_induction_on with
  | h n ih =>
    rw [Nat.toDigits_eq_if (by decide)]
    split_ifs with hsmall
    · exact ⟨_, [], rfl, hone n hsmall hn⟩
    · obtain ⟨c, digits, hdigits, hc⟩ := ih (n / 10) (by omega) (by omega)
      exact ⟨c, digits ++ [(n % 10).digitChar], by rw [hdigits]; rfl, hc⟩

theorem skipNumber_of_ne_zero {c : Char} (hdigit : c.isDigit = true) (hc : c ≠ '0')
    (cs : List Char) : skipNumber (c :: cs) = skipFraction (skipDigits cs) := by
  unfold skipNumber
  split
  · next heq => exact absurd (List.cons.inj heq).1 hc
  · next heq =>
    cases heq
    rw [if_pos hdigit]
  · next heq => cases heq

theorem readNatural_toDigits (n : Nat) {rest : List Char} (hrest : EndsNumber rest) :
    readNatural (Nat.toDigits 10 n ++ rest) = .ok (n, rest) := by
  have hdigits : ∀ c ∈ Nat.toDigits 10 n, c.isDigit = true :=
    fun c hc => Nat.isDigit_of_mem_toDigits (by decide) (by decide) hc
  have hskip : skipNumber (Nat.toDigits 10 n ++ rest) = .ok rest := by
    rcases Nat.eq_zero_or_pos n with rfl | hn
    · show skipNumber ('0' :: rest) = .ok rest
      cases rest with
      | nil => rfl
      | cons c rest =>
        show (if c.isDigit = true then Except.error Fault.malformed
          else skipFraction (c :: rest)) = .ok (c :: rest)
        rw [(hrest c rfl).1, if_neg Bool.false_ne_true, skipFraction_of_endsNumber hrest]
    · obtain ⟨c, digits, heq, hc⟩ := exists_toDigits hn
      rw [heq] at hdigits ⊢
      have hmore : ∀ d ∈ digits, d.isDigit = true :=
        fun d hd => hdigits d (List.mem_cons_of_mem c hd)
      rw [List.cons_append, skipNumber_of_ne_zero (hdigits c List.mem_cons_self) hc,
        skipDigits_append hmore hrest, skipFraction_of_endsNumber hrest]
  rw [readNatural, hskip]
  dsimp only
  rw [if_pos (skipDigits_append hdigits hrest).symm, takeWhile_digits_append hdigits hrest,
    Nat.ofDigitChars_toDigits (by decide) (by decide)]

theorem readScalar_digit {c : Char} (hdigit : c.isDigit = true) (cs : List Char) :
    readScalar (c :: cs) = (readNatural (c :: cs)).map fun (n, left) => (.int n, left) := by
  unfold readScalar
  split
  · next heq => cases heq
  · next heq => exact absurd ((List.cons.inj heq).1 ▸ hdigit) (by decide)
  · next heq => exact absurd ((List.cons.inj heq).1 ▸ hdigit) (by decide)
  · next heq => exact absurd ((List.cons.inj heq).1 ▸ hdigit) (by decide)
  · next heq => exact absurd ((List.cons.inj heq).1 ▸ hdigit) (by decide)
  · next heq => exact absurd ((List.cons.inj heq).1 ▸ hdigit) (by decide)
  · rfl

/-- The first character of a value: no space, and no bracket that closes a list. -/
structure IsFirst (c : Char) : Prop where
  noSpace : isSpace c = false
  noClose : c ≠ ']'

/-- What is written holds no other values and is read as the value. -/
def IsScalar (cs : List Char) (value : Json) : Prop :=
  ∃ c more, cs = c :: more ∧ IsFirst c ∧ c ≠ '[' ∧ c ≠ '\x7b' ∧
    ∀ rest, EndsNumber rest → readScalar (c :: (more ++ rest)) = .ok (value, rest)

theorem isFirst_of_isDigit {c : Char} (h : c.isDigit = true) :
    IsFirst c ∧ c ≠ '[' ∧ c ≠ '\x7b' := by
  refine ⟨⟨?_, ?_⟩, ?_, ?_⟩
  · rw [Bool.eq_false_iff]
    intro hspace
    simp only [isSpace, Bool.or_eq_true, beq_iff_eq] at hspace
    rcases hspace with ((rfl | rfl) | rfl) | rfl <;> cases h
  all_goals
    rintro rfl
    cases h

/-- An integer is read back from its written form. -/
theorem isScalar_int (n : Int) : IsScalar (toString n).toList (.int n) := by
  have hrepr : toString n = if 0 ≤ n then n.toNat.repr else "-" ++ (-n).toNat.repr :=
    Int.repr_eq_if
  rw [hrepr]
  split_ifs with hn
  · rw [Nat.toList_repr]
    cases hdigits : Nat.toDigits 10 n.toNat with
    | nil => exact absurd hdigits Nat.toDigits_ne_nil
    | cons c digits =>
      have hdigit : c.isDigit = true :=
        Nat.isDigit_of_mem_toDigits (by decide) (by decide) (hdigits ▸ List.mem_cons_self)
      obtain ⟨hfirst, hlist, hobject⟩ := isFirst_of_isDigit hdigit
      refine ⟨c, digits, rfl, hfirst, hlist, hobject, fun rest hrest => ?_⟩
      have hread := readNatural_toDigits n.toNat hrest
      rw [hdigits, List.cons_append] at hread
      rw [readScalar_digit hdigit, hread]
      show Except.ok (Json.int (n.toNat : Int), rest) = _
      rw [Int.toNat_of_nonneg hn]
  · rw [String.toList_append, Nat.toList_repr]
    refine ⟨'-', _, rfl, ⟨rfl, by decide⟩, by decide, by decide, fun rest hrest => ?_⟩
    have hread := readNatural_toDigits (-n).toNat hrest
    show (readNatural (Nat.toDigits 10 (-n).toNat ++ rest)).map _ = _
    rw [hread]
    show Except.ok (Json.int (-((-n).toNat : Int)), rest) = _
    rw [Int.toNat_of_nonneg (by omega), Int.neg_neg]

theorem isScalar_text (s : String) : IsScalar (writtenText s) (.text s) := by
  refine ⟨'"', _, rfl, ⟨rfl, by decide⟩, by decide, by decide, fun rest _ => ?_⟩
  show (readText (s.toList.flatMap writtenChar ++ ['"'] ++ rest)).map _ = _
  rw [List.append_assoc, List.singleton_append, readText_flatMap]
  show Except.ok (Json.text (String.ofList s.toList), rest) = _
  rw [String.ofList_toList]

/-! ## Values -/

theorem IsScalar.readWithin {cs rest : List Char} {value : Json} (h : IsScalar cs value)
    (hrest : EndsNumber rest) (frames : List Frame) :
    readWithin frames (cs ++ rest) = readAfter frames value rest := by
  obtain ⟨c, more, rfl, hfirst, hlist, hobject, hread⟩ := h
  exact readWithin_scalar hfirst.noSpace hlist hobject (hread rest hrest)

theorem exists_written (level : Nat) (value : Json) :
    ∃ c cs, written level value = c :: cs ∧ IsFirst c := by
  have hscalar : ∀ {cs value}, IsScalar cs value → ∃ c more, cs = c :: more ∧ IsFirst c := by
    rintro cs value ⟨c, more, hcs, hfirst, -⟩
    exact ⟨c, more, hcs, hfirst⟩
  rw [written.eq_def]
  split
  · exact ⟨'n', _, rfl, rfl, by decide⟩
  · exact ⟨'t', _, rfl, rfl, by decide⟩
  · exact ⟨'f', _, rfl, rfl, by decide⟩
  · exact hscalar (isScalar_int _)
  · exact hscalar (isScalar_text _)
  · exact ⟨'[', _, rfl, rfl, by decide⟩
  · exact ⟨'[', _, rfl, rfl, by decide⟩
  · exact ⟨'\x7b', _, rfl, rfl, by decide⟩
  · exact ⟨'\x7b', _, rfl, rfl, by decide⟩

theorem firstItem_written (level : Nat) (value : Json) (rest : List Char) :
    firstItem (lineStart level ++ (written level value ++ rest)) =
      .ok (.item (written level value ++ rest)) := by
  obtain ⟨c, cs, hwritten, hfirst⟩ := exists_written level value
  rw [hwritten, List.cons_append, firstItem, skipSpace_lineStart,
    skipSpace_of_not_isSpace hfirst.noSpace]
  split
  · next heq => cases heq
  · next heq => exact absurd (List.cons.inj heq).1 hfirst.noClose
  · rfl

theorem nextItem_written (level : Nat) (value : Json) (rest : List Char) :
    nextItem (',' :: (lineStart level ++ (written level value ++ rest))) =
      .ok (.item (written level value ++ rest)) := by
  obtain ⟨c, cs, hwritten, hfirst⟩ := exists_written level value
  rw [hwritten, List.cons_append, nextItem, skipSpace_of_not_isSpace rfl]
  simp only [skipSpace_lineStart, skipSpace_of_not_isSpace hfirst.noSpace]
  split
  · next heq => cases heq
  · next heq => exact absurd (List.cons.inj heq).1 hfirst.noClose
  · rfl

theorem readKey_written (key : String) (rest : List Char) :
    ∃ cs, writtenText key ++ (':' :: ' ' :: rest) = '"' :: cs ∧
      readKey cs = .ok (key, ' ' :: rest) := by
  obtain ⟨cs, hwritten, htext⟩ := writtenText_append key (':' :: ' ' :: rest)
  refine ⟨cs, hwritten, ?_⟩
  rw [readKey, htext]
  dsimp only
  rw [readColon_colon]
  show Except.ok (String.ofList key.toList, ' ' :: rest) = _
  rw [String.ofList_toList]

/-- After the items or members of a written value, a line ends or a comma follows. -/
theorem endsNumber_comma (cs : List Char) : EndsNumber (',' :: cs) := by
  rintro c ⟨⟩
  decide

theorem endsNumber_lineStart (level : Nat) (cs : List Char) :
    EndsNumber (lineStart level ++ cs) := by
  rintro c ⟨⟩
  decide

theorem endsNumber_writtenItems (level outer : Nat) (items : List Json) (cs : List Char) :
    EndsNumber (writtenItems level items ++ (lineStart outer ++ cs)) := by
  cases items with
  | nil => exact endsNumber_lineStart outer cs
  | cons value items => exact endsNumber_comma _

theorem endsNumber_writtenMembers (level outer : Nat) (members : List (String × Json))
    (cs : List Char) : EndsNumber (writtenMembers level members ++ (lineStart outer ++ cs)) := by
  cases members with
  | nil => exact endsNumber_lineStart outer cs
  | cons member members => exact endsNumber_comma _

mutual

/-- A written value is read whole, whatever surrounds it. -/
theorem readWithin_written (frames : List Frame) (level : Nat) (value : Json) {rest : List Char}
    (hrest : EndsNumber rest) :
    readWithin frames (written level value ++ rest) = readAfter frames value rest := by
  match value with
  | .null => exact readWithin_scalar rfl (by decide) (by decide) rfl
  | .bool true => exact readWithin_scalar rfl (by decide) (by decide) rfl
  | .bool false => exact readWithin_scalar rfl (by decide) (by decide) rfl
  | .int n => exact (isScalar_int n).readWithin hrest frames
  | .text s => exact (isScalar_text s).readWithin hrest frames
  | .array [] =>
    rw [readWithin_eq]
    rfl
  | .array (item :: items) =>
    have hitem := readWithin_written (.list [] :: frames) (level + 1) item
      (endsNumber_writtenItems (level + 1) level items (']' :: rest))
    rw [readAfter_writtenItems frames (level + 1) level [] item items rest] at hitem
    simp only [written, List.cons_append, List.append_assoc]
    rw [readWithin_eq, skipSpace_of_not_isSpace rfl]
    simp only [firstItem_written]
    exact hitem
  | .object [] =>
    rw [readWithin_eq]
    rfl
  | .object ((key, item) :: members) =>
    have hitem := readWithin_written (.object [] key :: frames) (level + 1) item
      (endsNumber_writtenMembers (level + 1) level members ('\x7d' :: rest))
    rw [readAfter_writtenMembers frames (level + 1) level [] key item members rest] at hitem
    obtain ⟨cs, hkey, hread⟩ := readKey_written key
      (written (level + 1) item ++ (writtenMembers (level + 1) members ++
        (lineStart level ++ '\x7d' :: rest)))
    simp only [written, List.cons_append, List.append_assoc, List.nil_append]
    rw [readWithin_eq, skipSpace_of_not_isSpace rfl, hkey]
    simp only [firstMember_lineStart, hread]
    exact (readWithin_blank _ _).trans hitem

/-- The items of a written list are read one after another. -/
theorem readAfter_writtenItems (frames : List Frame) (level outer : Nat) (items : List Json)
    (value : Json) (more : List Json) (rest : List Char) :
    readAfter (.list items :: frames) value
        (writtenItems level more ++ (lineStart outer ++ ']' :: rest)) =
      readAfter frames (.array (items ++ value :: more)) rest := by
  match more with
  | [] =>
    rw [readAfter_list]
    simp only [writtenItems, List.nil_append, nextItem_close]
  | next :: more =>
    have hnext := readWithin_written (.list (items ++ [value]) :: frames) level next
      (endsNumber_writtenItems level outer more (']' :: rest))
    rw [readAfter_writtenItems frames level outer (items ++ [value]) next more rest] at hnext
    simp only [writtenItems, List.cons_append, List.append_assoc]
    rw [readAfter_list]
    simp only [nextItem_written]
    rw [hnext, List.append_assoc, List.singleton_append]

/-- The members of a written object are read one after another. -/
theorem readAfter_writtenMembers (frames : List Frame) (level outer : Nat)
    (members : List (String × Json)) (key : String) (value : Json) (more : List (String × Json))
    (rest : List Char) :
    readAfter (.object members key :: frames) value
        (writtenMembers level more ++ (lineStart outer ++ '\x7d' :: rest)) =
      readAfter frames (.object (members ++ (key, value) :: more)) rest := by
  match more with
  | [] =>
    rw [readAfter_object]
    simp only [writtenMembers, List.nil_append, nextMember_close]
  | (next, item) :: more =>
    have hnext := readWithin_written (.object (members ++ [(key, value)]) next :: frames) level item
      (endsNumber_writtenMembers level outer more ('\x7d' :: rest))
    rw [readAfter_writtenMembers frames level outer (members ++ [(key, value)]) next item more rest]
      at hnext
    obtain ⟨cs, hkey, hread⟩ := readKey_written next (written level item ++
      (writtenMembers level more ++ (lineStart outer ++ '\x7d' :: rest)))
    simp only [writtenMembers, List.cons_append, List.append_assoc]
    rw [readAfter_object, hkey]
    simp only [nextMember_comma, hread]
    rw [readWithin_blank, hnext, List.append_assoc, List.singleton_append]

end

/-- **Reading inverts writing.** -/
theorem read_render (value : Json) : read value.render = .ok value := by
  have hend : EndsNumber [] := nofun
  have hwhole := readWithin_written [] 0 value hend
  rw [List.append_nil] at hwhole
  rw [read, render, String.toList_ofList, hwhole, readAfter]
  rfl

end CubeQuery.Json
