import CubeQuery.CardIndex.Document
import CubeQuery.Settings.Document
import Mathlib.Data.List.DropRight

/-!
# Documents of one kind

A text is never both a document of settings and a document of a card index. The
document of an index starts with a bracket that no line of settings can start
with, after space that may stand before both.

* `CardIndex.opening_of_readDocument`: how the document of an index starts.
* `Toml.readLines_of_skipSpace`: space before a line makes no document of what is none.
* `Settings.read?_eq_none_of_read`: the two kinds are distinct.
-/

namespace CubeQuery

/-! ## The start of an index document -/

namespace CardIndex

open Json (skipSpace)

/-- A document starts with a brace, or with a bracket and then a brace or the other bracket. -/
inductive Opens : List Char → Prop
  | brace (rest : List Char) : Opens ('\x7b' :: rest)
  | bracket {rest more : List Char} {c : Char} (hc : c = ']' ∨ c = '\x7b')
      (hrest : skipSpace rest = c :: more) : Opens ('[' :: rest)

theorem skipSpace_skipSpace (cs : List Char) : skipSpace (skipSpace cs) = skipSpace cs :=
  List.dropWhile_idempotent _ cs

theorem opening_of_readDocument {cs : List Char}
    {ending : List (String × List String) × List Char} (h : readDocument cs = .ok ending) :
    Opens (skipSpace cs) := by
  unfold readDocument at h
  split at h
  · next rest hopen =>
    rw [hopen]
    unfold Json.firstItem at h
    split at h
    · cases h
    · next left hfirst =>
      split at hfirst
      · cases hfirst
      · next hclose => exact .bracket (.inl rfl) hclose
      · cases hfirst
    · next rest' hfirst =>
      split at hfirst
      · cases hfirst
      · cases hfirst
      · next hitem =>
        cases hfirst
        unfold readEntries at h
        split at h
        · cases h
        · next hentries =>
          split at hentries
          · next hbrace =>
            rw [skipSpace_skipSpace] at hbrace
            exact .bracket (.inr rfl) hbrace
          · cases hentries
  · next rest hopen =>
    rw [hopen]
    exact .brace rest
  · cases h

end CardIndex

/-! ## Lines that are none -/

namespace Toml

/-- What starts with neither a quote nor a letter of a key is no key. -/
theorem readKey_eq_none {cs rest : List Char} {c : Char} (hcs : skipSpace cs = c :: rest)
    (hc : isKeyChar c = false) (hdouble : c ≠ '"') (hsingle : c ≠ '\x27') : readKey cs = none := by
  have hpart : readKeyPart cs = none := by
    unfold readKeyPart
    rw [hcs]
    split
    · next heq => exact absurd (List.cons.inj heq).1 hdouble
    · next heq => exact absurd (List.cons.inj heq).1 hsingle
    · simp [hc]
  rw [readKey, readSeparated, hpart]

theorem readLines_congr {cs cs' : List Char} (h : skipSpace cs = skipSpace cs') (limit : Nat)
    (draft : Draft) : readLines limit draft cs = readLines limit draft cs' := by
  cases limit with
  | zero => rfl
  | succ limit => rw [readLines, readLines, h]

/-- Space before a line makes no document of what is none. -/
theorem readLines_of_skipSpace {draft : Draft} {cs : List Char}
    (h : ∀ limit, readLines limit draft (Json.skipSpace cs) = none) (limit : Nat) :
    readLines limit draft cs = none := by
  induction cs generalizing limit with
  | nil => exact h limit
  | cons c cs ih =>
    by_cases hc : Json.isSpace c = true
    · have hskip : Json.skipSpace (c :: cs) = Json.skipSpace cs := List.dropWhile_cons_of_pos hc
      rw [hskip] at h
      have hrest := ih h
      cases limit with
      | zero => rfl
      | succ limit =>
        have hcases : c = ' ' ∨ c = '\n' ∨ c = '\t' ∨ c = '\r' := by
          simpa [Json.isSpace, or_assoc] using hc
        rcases hcases with rfl | rfl | rfl | rfl
        · exact (readLines_congr rfl _ draft).trans (hrest (limit + 1))
        · exact hrest limit
        · exact (readLines_congr rfl _ draft).trans (hrest (limit + 1))
        · -- the two characters of a line end are passed at once
          cases cs with
          | nil => rfl
          | cons d cs =>
            by_cases hd : d = '\n'
            · subst hd
              exact hrest (limit + 1)
            · show (newline? ('\r' :: d :: cs)).bind (readLines limit draft) = none
              rw [newline?.eq_3 _ (by simp) (by simp [hd])]
              rfl
    · rw [Json.skipSpace, List.dropWhile_cons_of_neg hc] at h
      exact h limit

/-- Before the first character after space, there can be the end of a line. -/
theorem exists_skipSpace {cs more : List Char} {c : Char} (h : Json.skipSpace cs = c :: more) :
    ∃ d rest, skipSpace cs = d :: rest ∧ (d = '\n' ∨ d = '\r' ∨ d = c) := by
  induction cs with
  | nil => cases h
  | cons a cs ih =>
    by_cases hspace : isSpace a = true
    · have hjson : Json.isSpace a = true := by
        rcases (by simpa [isSpace] using hspace : a = ' ' ∨ a = '\t') with rfl | rfl <;> rfl
      rw [Json.skipSpace, List.dropWhile_cons_of_pos hjson] at h
      rw [skipSpace, List.dropWhile_cons_of_pos hspace]
      exact ih h
    · refine ⟨a, cs, List.dropWhile_cons_of_neg hspace, ?_⟩
      by_cases hjson : Json.isSpace a = true
      · simp only [Json.isSpace, isSpace, Bool.or_eq_true, beq_iff_eq] at hjson hspace
        grind
      · rw [Json.skipSpace, List.dropWhile_cons_of_neg hjson] at h
        exact .inr (.inr (List.cons.inj h).1)

/-- Where the document of an index starts, no line starts. -/
theorem readLines_of_opens {cs : List Char} (h : CardIndex.Opens cs) (limit : Nat)
    (draft : Draft) : readLines limit draft cs = none := by
  cases limit with
  | zero => rfl
  | succ limit =>
    cases h with
    | brace rest =>
      have hkey : readKey ('\x7b' :: rest) = none :=
        readKey_eq_none rfl (by decide) (by decide) (by decide)
      have hpair : readPair draft ('\x7b' :: rest) = none := by
        rw [readPair, hkey]
        rfl
      have hskip : skipSpace ('\x7b' :: rest) = '\x7b' :: rest := rfl
      simp [readLines, hskip, hpair]
    | @bracket rest more c hc hrest =>
      obtain ⟨d, left, hskip, hd⟩ := exists_skipSpace hrest
      have hd : d = '\n' ∨ d = '\r' ∨ d = ']' ∨ d = '\x7b' := by
        rcases hd with hd | hd | rfl
        · exact .inl hd
        · exact .inr (.inl hd)
        · exact .inr (.inr hc)
      have hkey : readKey rest = none := by
        refine readKey_eq_none hskip ?_ ?_ ?_
        all_goals rcases hd with rfl | rfl | rfl | rfl <;> decide
      have hheader : readHeader draft rest = none := by
        unfold readHeader
        split
        · -- a second bracket is not what follows
          next inner =>
          rw [Json.skipSpace, List.dropWhile_cons_of_neg (by decide)] at hrest
          rcases hc with rfl | rfl <;> cases hrest
        · rw [hkey]
          rfl
      have hskip : skipSpace ('[' :: rest) = '[' :: rest := rfl
      simp only [readLines, hskip, hheader]

end Toml

/-! ## Two kinds of documents -/

/-- What can be read as a card index cannot be read as settings. -/
theorem Settings.read?_eq_none_of_read {text : String} {index : CardIndex}
    (h : CardIndex.read text = .ok index) : read? text = none := by
  have hopens : CardIndex.Opens (Json.skipSpace text.toList) := by
    unfold CardIndex.read CardIndex.listed at h
    cases hdocument : CardIndex.readDocument text.toList with
    | error fault =>
      rw [hdocument] at h
      cases h
    | ok ending => exact CardIndex.opening_of_readDocument hdocument
  have hlines : ∀ limit, Toml.readLines limit ⟨[], []⟩ text.toList = none :=
    Toml.readLines_of_skipSpace fun limit => Toml.readLines_of_opens hopens limit _
  have hread : Toml.read text = none := by
    rw [Toml.read]
    cases htext : text.toList with
    | nil =>
      rw [htext] at hlines
      exact hlines 1
    | cons c rest =>
      rw [htext] at hlines hopens
      have hmark : c ≠ Toml.byteOrderMark := by
        rintro rfl
        rw [Json.skipSpace, List.dropWhile_cons_of_neg (by decide)] at hopens
        cases hopens
      simp only [if_neg hmark]
      exact hlines _
  rw [read?, hread]
  rfl

end CubeQuery
