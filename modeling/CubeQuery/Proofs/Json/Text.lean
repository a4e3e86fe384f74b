import CubeQuery.Json.Basic
import CubeQuery.Json.Skip
import Mathlib.Tactic.SplitIfs

/-!
# Written texts and layout in JSON

What is written for a text is read as the text, and the space between the tokens
of a written value is passed over.

* `readText_flatMap`: a text with quotes, backslashes, controls or any other
  characters is read back from its written form.
* `nextItem_comma`, `nextMember_comma` and their likes: the steps between items
  and members in the layout of written values.
-/

namespace CubeQuery.Json

/-! ## Texts -/

/-- A text character by character. -/
theorem readText_cons (c : Char) (cs : List Char) :
    readText (c :: cs) =
      if c = '"' then .ok ([], cs)
      else if c = '\\' then readEscape cs >>= fun (d, rest) =>
        readText rest >>= fun (content, left) => .ok (d :: content, left)
      else if c.toNat < 0x20 then .error .malformed
      else readText cs >>= fun (content, left) => .ok (c :: content, left) := by
  rw [readText.eq_def]
  dsimp only
  split_ifs
  · rfl
  · split
    · next h =>
      rw [h]
      rfl
    · next d rest h =>
      rw [h]
      show _ = readText rest >>= _
      cases readText rest <;> rfl
  · rfl
  · cases readText cs <;> rfl

theorem readText_plain {c : Char} {cs content left : List Char} (hquote : c ≠ '"')
    (hescape : c ≠ '\\') (hcontrol : ¬ c.toNat < 0x20) (h : readText cs = .ok (content, left)) :
    readText (c :: cs) = .ok (c :: content, left) := by
  rw [readText_cons, if_neg hquote, if_neg hescape, if_neg hcontrol, h]
  rfl

theorem readText_escape {d : Char} {cs rest content left : List Char}
    (hescape : readEscape cs = .ok (d, rest)) (h : readText rest = .ok (content, left)) :
    readText ('\\' :: cs) = .ok (d :: content, left) := by
  rw [readText_cons, if_neg (by decide), if_pos rfl, hescape]
  show readText rest >>= _ = _
  rw [h]
  rfl

theorem hexNumber?_hexPair :
    ∀ n < 0x20, Text.hexNumber? (['0', '0'] ++ hexPair n) = some n := by
  decide

/-- The escape of a control character. -/
theorem readEscape_hexPair {c : Char} (h : c.toNat < 0x20) (rest : List Char) :
    readEscape (['u', '0', '0'] ++ hexPair c.toNat ++ rest) = .ok (c, rest) := by
  have hhex := hexNumber?_hexPair c.toNat h
  have hlow : isLowHalf c.toNat = false := by
    simp only [isLowHalf, Bool.and_eq_false_iff, decide_eq_false_iff_not]
    omega
  have hhigh : isHighHalf c.toNat = false := by
    simp only [isHighHalf, Bool.and_eq_false_iff, decide_eq_false_iff_not]
    omega
  simp only [hexPair, List.cons_append, List.nil_append] at hhex ⊢
  simp only [readEscape, readHex, hhex, hlow, hhigh, Bool.false_eq_true, if_false,
    Char.ofNat_toNat]

/-- One character is read back from its written form. -/
theorem readText_writtenChar (c : Char) {cs content left : List Char}
    (h : readText cs = .ok (content, left)) :
    readText (writtenChar c ++ cs) = .ok (c :: content, left) := by
  unfold writtenChar
  split
  · exact readText_escape rfl h
  · exact readText_escape rfl h
  · exact readText_escape rfl h
  · exact readText_escape rfl h
  · exact readText_escape rfl h
  · exact readText_escape rfl h
  · exact readText_escape rfl h
  · next hquote hescape _ _ _ _ _ =>
    split_ifs with hcontrol
    · exact readText_escape (readEscape_hexPair hcontrol cs) h
    · exact readText_plain hquote hescape hcontrol h

theorem readText_flatMap (s rest : List Char) :
    readText (s.flatMap writtenChar ++ '"' :: rest) = .ok (s, rest) := by
  induction s with
  | nil =>
    rw [List.flatMap_nil, List.nil_append, readText.eq_def]
    simp only [if_true]
  | cons c s ih =>
    rw [List.flatMap_cons, List.append_assoc]
    exact readText_writtenChar c ih

/-- A text is read back from its written form, whose opening quote has been read. -/
theorem writtenText_append (s : String) (rest : List Char) :
    ∃ cs, writtenText s ++ rest = '"' :: cs ∧ readText cs = .ok (s.toList, rest) := by
  refine ⟨s.toList.flatMap writtenChar ++ '"' :: rest, ?_, readText_flatMap s.toList rest⟩
  rw [writtenText, List.cons_append, List.append_assoc, List.singleton_append]

/-! ## Layout -/

theorem skipSpace_of_not_isSpace {c : Char} (h : isSpace c = false) (cs : List Char) :
    skipSpace (c :: cs) = c :: cs := by
  rw [skipSpace, List.dropWhile_cons_of_neg (by simp [h])]

theorem skipSpace_lineStart (level : Nat) (cs : List Char) :
    skipSpace (lineStart level ++ cs) = skipSpace cs := by
  rw [skipSpace, List.dropWhile_append_of_pos, skipSpace]
  intro c hc
  rcases List.mem_cons.mp hc with rfl | hc
  · rfl
  · rw [List.eq_of_mem_replicate hc]
    rfl

/-- The first item of a list that is written over several lines. -/
theorem firstItem_lineStart (level : Nat) (cs : List Char) :
    firstItem (lineStart level ++ '"' :: cs) = .ok (.item ('"' :: cs)) := by
  rw [firstItem, skipSpace_lineStart, skipSpace_of_not_isSpace rfl]
  rfl

theorem nextItem_comma (level : Nat) (cs : List Char) :
    nextItem (',' :: (lineStart level ++ '"' :: cs)) = .ok (.item ('"' :: cs)) := by
  rw [nextItem, skipSpace_of_not_isSpace rfl]
  simp only [skipSpace_lineStart, skipSpace_of_not_isSpace (show isSpace '"' = false from rfl)]
  rfl

theorem nextItem_close (level : Nat) (cs : List Char) :
    nextItem (lineStart level ++ ']' :: cs) = .ok (.close cs) := by
  rw [nextItem, skipSpace_lineStart, skipSpace_of_not_isSpace rfl]
  rfl

/-- The first member of an object that is written over several lines. -/
theorem firstMember_lineStart (level : Nat) (cs : List Char) :
    firstMember (lineStart level ++ '"' :: cs) = .ok (.item cs) := by
  rw [firstMember, skipSpace_lineStart, skipSpace_of_not_isSpace rfl]
  rfl

theorem nextMember_comma (level : Nat) (cs : List Char) :
    nextMember (',' :: (lineStart level ++ '"' :: cs)) = .ok (.item cs) := by
  rw [nextMember, skipSpace_of_not_isSpace rfl]
  simp only [skipSpace_lineStart, skipSpace_of_not_isSpace (show isSpace '"' = false from rfl)]

theorem nextMember_close (level : Nat) (cs : List Char) :
    nextMember (lineStart level ++ '\x7d' :: cs) = .ok (.close cs) := by
  rw [nextMember, skipSpace_lineStart, skipSpace_of_not_isSpace rfl]
  rfl

theorem readColon_colon (cs : List Char) : readColon (':' :: cs) = .ok cs := by
  rw [readColon, skipSpace_of_not_isSpace rfl]
  rfl

end CubeQuery.Json
