import CubeQuery.Toml.Text
import CubeQuery.Toml.Written
import Mathlib.Data.List.Infix
import Mathlib.Tactic.SplitIfs

/-!
# Written texts in TOML

A text is read back from each of the four ways in which it may be written, as long
as no quote follows. The way that is chosen always suits the text.

* `escaped_cases`: a character between double quotes stands as it is, or as an escape
  that is read as the character.
* `readMultiBasic_escapedText`, `readMultiLiteral_append`: up to two quotes in a row stand
  in a text over several lines, also right before the closing ones.
* `readText_writtenText`: every text is read back.
-/

namespace CubeQuery.Toml

variable {c : Char} {ds cs rest content left : List Char}

/-! ## Characters between double quotes -/

/-- What follows a backslash is read as the character, and is no line end. -/
structure Escapes (c : Char) (ds : List Char) : Prop where
  reads : ∀ rest, readEscape (ds ++ rest) = some (c, rest)
  stays : ∀ rest, continuation? (ds ++ rest) = none

theorem hexNumber?_hexQuad : ∀ n < 0x80, Text.hexNumber? (hexQuad n) = some n := by
  decide

theorem escapes_hexQuad (h : c.toNat < 0x80) : Escapes c ('u' :: hexQuad c.toNat) := by
  have hscalar : scalar? (hexQuad c.toNat) = some c := by
    have hvalid : c.toNat.isValidChar := c.valid
    rw [scalar?, hexNumber?_hexQuad c.toNat h, Option.bind_some, if_pos hvalid, Char.ofNat_toNat]
  refine ⟨fun rest => ?_, fun rest => rfl⟩
  show readCode 4 (hexQuad c.toNat ++ rest) = some (c, rest)
  rw [readCode, if_neg (by simp [hexQuad])]
  show (scalar? (hexQuad c.toNat)).map (·, rest) = some (c, rest)
  rw [hscalar, Option.map_some]

theorem escapes_quote : Escapes '"' ['"'] := ⟨fun _ => rfl, fun _ => rfl⟩

theorem isLineChar_of_not_isControl (h : isControl c = false) (hnewline : c ≠ '\n') :
    isLineChar c = true := by
  simp only [isControl, Bool.and_eq_false_iff, Bool.or_eq_false_iff, bne_eq_false_iff_eq,
    decide_eq_false_iff_not, beq_eq_false_iff_ne, hnewline, or_false] at h
  simp only [isLineChar, Bool.or_eq_true, Bool.and_eq_true, decide_eq_true_eq, beq_iff_eq]
  rcases h with htab | ⟨hlow, hdelete⟩
  · exact .inl htab
  · exact .inr ⟨by omega, hdelete⟩

theorem toNat_lt_of_isControl (h : isControl c = true) : c.toNat < 0x80 := by
  simp only [isControl, Bool.and_eq_true, Bool.or_eq_true, decide_eq_true_eq, beq_iff_eq] at h
  omega

/-- A character between double quotes stands as it is, or as an escape. -/
theorem escaped_cases (isMulti : Bool) (c : Char) :
    (escaped isMulti c = [c] ∧ c ≠ '\\' ∧ (isLineChar c = true ∨ isMulti = true ∧ c = '\n')) ∨
      ∃ ds, escaped isMulti c = '\\' :: ds ∧ Escapes c ds := by
  unfold escaped
  split
  · exact .inr ⟨_, rfl, fun _ => rfl, fun _ => rfl⟩
  · exact .inr ⟨_, rfl, fun _ => rfl, fun _ => rfl⟩
  · cases isMulti with
    | true => exact .inl ⟨rfl, by decide, .inr ⟨rfl, rfl⟩⟩
    | false => exact .inr ⟨_, rfl, fun _ => rfl, fun _ => rfl⟩
  · exact .inr ⟨_, rfl, fun _ => rfl, fun _ => rfl⟩
  · exact .inr ⟨_, rfl, fun _ => rfl, fun _ => rfl⟩
  · exact .inr ⟨_, rfl, fun _ => rfl, fun _ => rfl⟩
  · next hnewline _ _ hescape =>
    split_ifs with hcontrol
    · exact .inr ⟨_, rfl, escapes_hexQuad (toNat_lt_of_isControl hcontrol)⟩
    · refine .inl ⟨rfl, hescape, .inl (isLineChar_of_not_isControl ?_ hnewline)⟩
      rwa [Bool.not_eq_true] at hcontrol

/-- Escaped text starts with a backslash, or with the first character of the text. If that is
    a quote, quotes may still be written. -/
theorem exists_escapedText_cons (isMulti : Bool) (limit run : Nat) (c : Char) (cs : List Char) :
    ∃ d ds, escapedText isMulti limit run (c :: cs) = d :: ds ∧
      (d = '\\' ∨ d = c ∧ (c = '"' → run < limit) ∧ (isLineChar c = true ∨ c = '\n')) := by
  rw [escapedText]
  split_ifs with hquote hlimit
  · exact ⟨_, _, rfl, .inl rfl⟩
  · subst hquote
    exact ⟨_, _, rfl, .inr ⟨rfl, fun _ => by omega, .inl rfl⟩⟩
  · rcases escaped_cases isMulti c with ⟨h, -, hline⟩ | ⟨ds, h, -⟩
    · rw [h]
      exact ⟨_, _, rfl, .inr ⟨rfl, fun h => absurd h hquote, hline.imp_right And.right⟩⟩
    · rw [h]
      exact ⟨_, _, rfl, .inl rfl⟩

/-! ## Texts on one line -/

theorem readBasic_plain (hquote : c ≠ '"') (hescape : c ≠ '\\') (hline : isLineChar c = true)
    (h : readBasic cs = some (content, left)) :
    readBasic (c :: cs) = some (c :: content, left) := by
  rw [readBasic.eq_def]
  simp only [if_neg hquote, if_neg hescape, hline, if_true, h, Option.map_some]

theorem readBasic_escape (hescapes : Escapes c ds) (h : readBasic cs = some (content, left)) :
    readBasic ('\\' :: (ds ++ cs)) = some (c :: content, left) := by
  rw [readBasic.eq_def]
  simp only [show '\\' ≠ '"' by decide, if_false, if_true]
  split
  · next hnone =>
    rw [hescapes.reads] at hnone
    cases hnone
  · next d rest' hsome =>
    rw [hescapes.reads] at hsome
    cases hsome
    rw [h, Option.map_some]

/-- On one line every quote is escaped. -/
theorem readBasic_escapedText (cs rest : List Char) :
    readBasic (escapedText false 0 0 cs ++ '"' :: rest) = some (cs, rest) := by
  induction cs with
  | nil =>
    rw [escapedText, List.nil_append, readBasic.eq_def]
    simp only [if_true]
  | cons c cs ih =>
    by_cases hquote : c = '"'
    · rw [escapedText, if_pos hquote, if_pos (by decide), hquote]
      exact (readBasic_escape escapes_quote ih :)
    · rw [escapedText, if_neg hquote, List.append_assoc]
      rcases escaped_cases false c with ⟨h, hescape, hline⟩ | ⟨ds, h, hescapes⟩
      · rw [h]
        exact readBasic_plain hquote hescape (hline.resolve_right (by simp)) ih
      · rw [h]
        exact readBasic_escape hescapes ih

theorem readLiteral_append (h : ∀ c ∈ cs, c ≠ '\x27' ∧ isLineChar c = true) (rest : List Char) :
    readLiteral (cs ++ '\x27' :: rest) = some (cs, rest) := by
  induction cs with
  | nil => rfl
  | cons c cs ih =>
    obtain ⟨hquote, hline⟩ := h c List.mem_cons_self
    rw [List.cons_append, readLiteral, if_neg hquote, if_pos hline,
      ih fun d hd => h d (List.mem_cons_of_mem c hd), Option.map_some]

/-! ## Texts over several lines -/

/-- The text does not start with two quotes. -/
def NoTwoQuotes (quote : Char) (cs : List Char) : Prop := ∀ rest, cs ≠ quote :: quote :: rest

theorem noTwoQuotes_cons_of_ne {quote d : Char} (h : d ≠ quote) (cs : List Char) :
    NoTwoQuotes quote (d :: cs) := by
  rintro rest ⟨⟩
  exact h rfl

theorem noTwoQuotes_cons_cons {quote d e : Char} (h : e ≠ quote) (cs : List Char) :
    NoTwoQuotes quote (d :: e :: cs) := by
  rintro rest ⟨⟩
  exact h rfl

/-- The quotes before the closing ones belong to the text. -/
theorem extraQuotes_replicate {quote : Char} (hrest : rest.head? ≠ some quote) {n : Nat}
    (hn : n ≤ 2) :
    extraQuotes quote (List.replicate n quote ++ rest) = (List.replicate n quote, rest) := by
  have hhead : ∀ a t, rest = a :: t → a ≠ quote := by
    rintro a t rfl rfl
    exact hrest rfl
  match n, hn with
  | 0, _ => rcases rest with _ | ⟨a, _ | ⟨b, t⟩⟩ <;> simp_all [extraQuotes]
  | 1, _ => rcases rest with _ | ⟨a, t⟩ <;> simp_all [extraQuotes, List.replicate]
  | 2, _ => simp [extraQuotes, List.replicate]

theorem readMultiBasic_plain (hescape : c ≠ '\\') (hline : isLineChar c = true ∨ c = '\n')
    (hquotes : c = '"' → NoTwoQuotes '"' cs) (h : readMultiBasic cs = some (content, left)) :
    readMultiBasic (c :: cs) = some (c :: content, left) := by
  rw [readMultiBasic.eq_def]
  split
  · next heq => cases heq
  · next t heq =>
    cases heq
    exact absurd rfl (hquotes rfl t)
  · next heq =>
    cases heq
    exact absurd hline (by decide)
  · next heq =>
    cases heq
    have hany : (isLineChar c || c == '\n') = true := by simpa using hline
    rw [if_neg hescape, if_pos hany, h, Option.map_some]

theorem readMultiBasic_escape (hescapes : Escapes c ds)
    (h : readMultiBasic cs = some (content, left)) :
    readMultiBasic ('\\' :: (ds ++ cs)) = some (c :: content, left) := by
  rw [readMultiBasic.eq_def]
  split
  · next heq => cases heq
  · next heq => exact absurd (List.cons.inj heq).1 (by decide)
  · next heq => exact absurd (List.cons.inj heq).1 (by decide)
  · next heq =>
    cases heq
    rw [if_pos rfl]
    split
    · next hsome =>
      rw [hescapes.stays] at hsome
      cases hsome
    · split
      · next hnone =>
        rw [hescapes.reads] at hnone
        cases hnone
      · next d rest' hsome =>
        rw [hescapes.reads] at hsome
        cases hsome
        rw [h, Option.map_some]

/-- After a quote, escaped text goes on with two quotes only if the text ends there. -/
theorem noTwoQuotes_escapedText {run : Nat} (hrun : 0 < run) (hne : cs ≠ [])
    (hlast : cs = ['"'] → 1 < run) (tail : List Char) :
    NoTwoQuotes '"' (escapedText true 2 run cs ++ tail) := by
  obtain ⟨c, cs, rfl⟩ := List.exists_cons_of_ne_nil hne
  obtain ⟨d, ds, htext, hd⟩ := exists_escapedText_cons true 2 run c cs
  by_cases hquote : d = '"'
  · -- one quote was written before, this is the second one, and the next is escaped
    obtain ⟨rfl, hlimit, -⟩ := hd.resolve_left fun h => absurd (h.symm.trans hquote) (by decide)
    have hone : run = 1 := by have := hlimit hquote; omega
    obtain ⟨c, cs, rfl⟩ := List.exists_cons_of_ne_nil fun h : cs = [] =>
      absurd (hlast (by rw [hquote, h])) (by omega)
    obtain ⟨e, es, hrest, he⟩ := exists_escapedText_cons true 2 2 c cs
    have hstop : e ≠ '"' := by
      rcases he with rfl | ⟨rfl, hlimit', -⟩
      · decide
      · exact fun h => absurd (hlimit' h) (by decide)
    rw [hquote, hone, escapedText, if_pos rfl, if_neg (by decide), hrest]
    exact noTwoQuotes_cons_cons hstop _
  · rw [htext]
    exact noTwoQuotes_cons_of_ne hquote _

/-- At most two quotes stand in a row, so three of them close the text. -/
theorem readMultiBasic_escapedText (hrest : rest.head? ≠ some '"') (cs : List Char) (run : Nat) :
    readMultiBasic (escapedText true 2 run cs ++ '"' :: '"' :: '"' :: rest) = some (cs, rest) := by
  have hclose : ∀ n ≤ 2, readMultiBasic ('"' :: '"' :: '"' :: (List.replicate n '"' ++ rest)) =
      some (List.replicate n '"', rest) := by
    intro n hn
    rw [readMultiBasic, extraQuotes_replicate hrest hn]
  induction cs generalizing run with
  | nil => exact hclose 0 (by omega)
  | cons c cs ih =>
    by_cases hquote : c = '"'
    · rw [escapedText, if_pos hquote, hquote]
      split_ifs with hlimit
      · exact (readMultiBasic_escape escapes_quote (ih 0) :)
      by_cases hend : cs = []
      · rw [hend]
        exact hclose 1 (by omega)
      by_cases hlast : cs = ['"'] ∧ run = 0
      · rw [hlast.1, hlast.2]
        exact hclose 2 (by omega)
      · have hquotes := noTwoQuotes_escapedText (Nat.succ_pos run) hend (by grind)
          ('"' :: '"' :: '"' :: rest)
        exact readMultiBasic_plain (by decide) (.inl rfl) (fun _ => hquotes) (ih (run + 1))
    · rw [escapedText, if_neg hquote, List.append_assoc]
      rcases escaped_cases true c with ⟨h, hescape, hline⟩ | ⟨ds, h, hescapes⟩
      · rw [h]
        exact readMultiBasic_plain hescape (hline.imp_right And.right) (absurd · hquote) (ih 0)
      · rw [h]
        exact readMultiBasic_escape hescapes (ih 0)

theorem readMultiLiteral_plain (hline : isLineChar c = true ∨ c = '\n')
    (hquotes : c = '\x27' → NoTwoQuotes '\x27' cs)
    (h : readMultiLiteral cs = some (content, left)) :
    readMultiLiteral (c :: cs) = some (c :: content, left) := by
  rw [readMultiLiteral.eq_def]
  split
  · next heq => cases heq
  · next t heq =>
    cases heq
    exact absurd rfl (hquotes rfl t)
  · next heq =>
    cases heq
    exact absurd hline (by decide)
  · next heq =>
    cases heq
    have hany : (isLineChar c || c == '\n') = true := by simpa using hline
    rw [if_pos hany, h, Option.map_some]

/-- A text without three single quotes in a row is read as it stands. -/
theorem readMultiLiteral_append (hrest : rest.head? ≠ some '\x27')
    (hline : ∀ c ∈ cs, isLineChar c = true ∨ c = '\n')
    (hquotes : ¬ List.replicate 3 '\x27' <:+: cs) :
    readMultiLiteral (cs ++ '\x27' :: '\x27' :: '\x27' :: rest) = some (cs, rest) := by
  have hclose : ∀ n ≤ 2,
      readMultiLiteral ('\x27' :: '\x27' :: '\x27' :: (List.replicate n '\x27' ++ rest)) =
        some (List.replicate n '\x27', rest) := by
    intro n hn
    rw [readMultiLiteral, extraQuotes_replicate hrest hn]
  induction cs with
  | nil => exact hclose 0 (by omega)
  | cons c cs ih =>
    have hread := ih (fun d hd => hline d (List.mem_cons_of_mem c hd))
      fun h => hquotes (h.trans (List.infix_cons List.infix_rfl))
    by_cases hend : c :: cs = ['\x27']
    · rw [hend]
      exact hclose 1 (by omega)
    by_cases hlast : c :: cs = ['\x27', '\x27']
    · rw [hlast]
      exact hclose 2 (by omega)
    refine readMultiLiteral_plain (hline c List.mem_cons_self) (fun hquote => ?_) hread
    -- the text goes on after at most one more quote
    subst hquote
    rcases cs with _ | ⟨d, _ | ⟨e, cs⟩⟩
    · exact absurd rfl hend
    · exact noTwoQuotes_cons_of_ne (fun hd => hlast (by rw [hd])) _
    · by_cases hd : d = '\x27'
      · refine noTwoQuotes_cons_cons (fun he => hquotes ?_) _
        rw [hd, he]
        exact (List.prefix_append (List.replicate 3 '\x27') cs).isInfix
      · exact noTwoQuotes_cons_of_ne hd _

/-! ## The choice of quotes -/

theorem le_longestRun (c : Char) (run : Nat) (cs : List Char) : run ≤ longestRun c run cs := by
  induction cs generalizing run with
  | nil => exact le_rfl
  | cons d cs ih =>
    rw [longestRun]
    split_ifs
    · exact (Nat.le_succ run).trans (ih (run + 1))
    · exact le_max_left _ _

theorem add_le_longestRun {n : Nat} (h : List.replicate n c <+: cs) (run : Nat) :
    run + n ≤ longestRun c run cs := by
  induction n generalizing run cs with
  | zero => exact le_longestRun c run cs
  | succ n ih =>
    obtain ⟨t, rfl⟩ := h
    have hrest := ih (List.prefix_append (List.replicate n c) t) (run + 1)
    rw [List.replicate_succ, List.cons_append, longestRun, if_pos rfl]
    omega

/-- No run of a character is longer than the longest one. -/
theorem length_le_longestRun {n : Nat} (h : List.replicate n c <:+: cs) (run : Nat) :
    n ≤ longestRun c run cs := by
  induction cs generalizing run with
  | nil =>
    have hzero : n = 0 := by simpa using List.infix_nil.mp h
    omega
  | cons d cs ih =>
    rcases List.infix_cons_iff.mp h with hstart | hlater
    · exact (Nat.le_add_left n run).trans (add_le_longestRun hstart run)
    · rw [longestRun]
      split_ifs
      · exact ih hlater (run + 1)
      · exact (ih hlater 0).trans (le_max_right _ _)

/-- Without controls and line ends, every character may stand in a line. -/
theorem isLineChar_of_any_isControl (h : cs.any isControl = false) :
    ∀ c ∈ cs, isLineChar c = true ∨ c = '\n' := by
  intro c hc
  have hcontrol : isControl c = false := by simpa using List.any_eq_false.mp h c hc
  by_cases hnewline : c = '\n'
  · exact .inr hnewline
  · exact .inl (isLineChar_of_not_isControl hcontrol hnewline)

/-- A text that is written between single quotes is not empty, and needs no escapes. -/
theorem of_quoting_eq_literal (h : (traits cs).quoting = .literal) :
    cs ≠ [] ∧ ∀ c ∈ cs, c ≠ '\x27' ∧ isLineChar c = true := by
  unfold Traits.quoting at h
  split_ifs at h with hbasic hliteral
  simp only [traits, Bool.and_eq_true, Bool.not_eq_true', beq_iff_eq] at hliteral
  obtain ⟨⟨hcontrol, hrun⟩, hnewline⟩ := hliteral
  refine ⟨?_, fun c hc => ⟨?_, ?_⟩⟩
  · rintro rfl
    exact hbasic rfl
  · rintro rfl
    obtain ⟨before, after, rfl⟩ := List.append_of_mem hc
    have hone : List.replicate 1 '\x27' <:+: before ++ '\x27' :: after :=
      ⟨before, after, by simp⟩
    have hlong := length_le_longestRun hone 0
    omega
  · refine (isLineChar_of_any_isControl hcontrol c hc).resolve_right ?_
    rintro rfl
    simp [hc] at hnewline

/-- The same for three single quotes, where the text may have several lines. -/
theorem of_quoting_eq_multiLiteral (h : (traits cs).quoting = .multiLiteral) :
    (∀ c ∈ cs, isLineChar c = true ∨ c = '\n') ∧ ¬ List.replicate 3 '\x27' <:+: cs := by
  unfold Traits.quoting at h
  split_ifs at h with _ _ _ hliteral
  simp only [traits, Bool.and_eq_true, Bool.not_eq_true'] at hliteral
  obtain ⟨hcontrol, hrun⟩ := hliteral
  refine ⟨isLineChar_of_any_isControl hcontrol, fun hthree => ?_⟩
  have hlong := (length_le_longestRun hthree 0).trans (of_decide_eq_true hrun)
  exact absurd hlong (by decide)

/-! ## All texts -/

theorem readText_double (h : NoTwoQuotes '"' cs) : readText ('"' :: cs) = readBasic cs := by
  unfold readText
  split
  · next t heq => exact absurd (List.cons.inj heq).2 (h t)
  · next heq => exact absurd (List.cons.inj heq).1 (by decide)
  · next heq => rw [(List.cons.inj heq).2]
  · next heq => exact absurd (List.cons.inj heq).1 (by decide)
  · next hnone _ => exact absurd rfl (hnone cs)

theorem readText_single (h : NoTwoQuotes '\x27' cs) :
    readText ('\x27' :: cs) = readLiteral cs := by
  unfold readText
  split
  · next heq => exact absurd (List.cons.inj heq).1 (by decide)
  · next t heq => exact absurd (List.cons.inj heq).2 (h t)
  · next heq => exact absurd (List.cons.inj heq).1 (by decide)
  · next heq => rw [(List.cons.inj heq).2]
  · next hnone => exact absurd rfl (hnone cs)

/-- The line end after the opening quotes is passed over, and no other. -/
theorem skipFirstNewline_firstNewline {tail : List Char}
    (h : ∀ d, tail.head? = some d → isLineChar d = true ∨ '\n' ∈ cs) :
    skipFirstNewline (firstNewline cs ++ tail) = tail := by
  rw [firstNewline]
  split_ifs with hnewline
  · rfl
  · have hhead : ∀ d, tail.head? = some d → isLineChar d = true :=
      fun d hd => (h d hd).resolve_right (by simpa using hnewline)
    rw [List.nil_append, skipFirstNewline]
    unfold newline?
    split
    · exact absurd (hhead '\n' rfl) (by decide)
    · exact absurd (hhead '\r' rfl) (by decide)
    · rfl

theorem readText_basic (cs : List Char) (hrest : rest.head? ≠ some '"') :
    readText (writtenAs .basic cs ++ rest) = some (cs, rest) := by
  have hquotes : NoTwoQuotes '"' (escapedText false 0 0 cs ++ '"' :: rest) := by
    cases cs with
    | nil =>
      rintro t ⟨⟩
      exact hrest rfl
    | cons c cs =>
      obtain ⟨d, ds, htext, hd⟩ := exists_escapedText_cons false 0 0 c cs
      rw [htext]
      refine noTwoQuotes_cons_of_ne ?_ _
      rcases hd with rfl | ⟨rfl, hlimit, -⟩
      · decide
      · exact fun h => absurd (hlimit h) (by decide)
  rw [writtenAs, List.append_assoc, List.append_assoc]
  show readText ('"' :: (escapedText false 0 0 cs ++ '"' :: rest)) = some (cs, rest)
  rw [readText_double hquotes, readBasic_escapedText]

theorem readText_literal (hne : cs ≠ []) (h : ∀ c ∈ cs, c ≠ '\x27' ∧ isLineChar c = true)
    (rest : List Char) : readText (writtenAs .literal cs ++ rest) = some (cs, rest) := by
  have hquotes : NoTwoQuotes '\x27' (cs ++ '\x27' :: rest) := by
    obtain ⟨c, cs, rfl⟩ := List.exists_cons_of_ne_nil hne
    exact noTwoQuotes_cons_of_ne (h c List.mem_cons_self).1 _
  rw [writtenAs, List.append_assoc, List.append_assoc]
  show readText ('\x27' :: (cs ++ '\x27' :: rest)) = some (cs, rest)
  rw [readText_single hquotes, readLiteral_append h]

theorem readText_multiBasic (cs : List Char) (hrest : rest.head? ≠ some '"') :
    readText (writtenAs .multiBasic cs ++ rest) = some (cs, rest) := by
  have hfirst : skipFirstNewline (firstNewline cs ++
      (escapedText true 2 0 cs ++ '"' :: '"' :: '"' :: rest)) =
      escapedText true 2 0 cs ++ '"' :: '"' :: '"' :: rest := by
    refine skipFirstNewline_firstNewline fun d hd => ?_
    cases cs with
    | nil =>
      cases hd
      exact .inl rfl
    | cons c cs =>
      obtain ⟨d', ds, htext, hd'⟩ := exists_escapedText_cons true 2 0 c cs
      rw [htext] at hd
      obtain rfl : d' = d := Option.some.inj hd
      rcases hd' with rfl | ⟨rfl, -, hline⟩
      · exact .inl rfl
      · exact hline.imp_right fun h : d' = '\n' => h ▸ List.mem_cons_self
  rw [writtenAs, List.append_assoc, List.append_assoc, List.append_assoc]
  show readMultiBasic (skipFirstNewline (firstNewline cs ++
    (escapedText true 2 0 cs ++ '"' :: '"' :: '"' :: rest))) = some (cs, rest)
  rw [hfirst, readMultiBasic_escapedText hrest]

theorem readText_multiLiteral (hrest : rest.head? ≠ some '\x27')
    (hline : ∀ c ∈ cs, isLineChar c = true ∨ c = '\n')
    (hquotes : ¬ List.replicate 3 '\x27' <:+: cs) :
    readText (writtenAs .multiLiteral cs ++ rest) = some (cs, rest) := by
  have hfirst : skipFirstNewline (firstNewline cs ++
      (cs ++ '\x27' :: '\x27' :: '\x27' :: rest)) =
      cs ++ '\x27' :: '\x27' :: '\x27' :: rest := by
    refine skipFirstNewline_firstNewline fun d hd => ?_
    cases cs with
    | nil =>
      cases hd
      exact .inl rfl
    | cons c cs =>
      obtain rfl : c = d := Option.some.inj hd
      exact (hline c List.mem_cons_self).imp_right fun h : c = '\n' => h ▸ List.mem_cons_self
  rw [writtenAs, List.append_assoc, List.append_assoc, List.append_assoc]
  show readMultiLiteral (skipFirstNewline (firstNewline cs ++
    (cs ++ '\x27' :: '\x27' :: '\x27' :: rest))) = some (cs, rest)
  rw [hfirst, readMultiLiteral_append hrest hline hquotes]

/-- **Every text is read back from its written form**, if no quote follows. -/
theorem readText_writtenText (s : String) (hdouble : rest.head? ≠ some '"')
    (hsingle : rest.head? ≠ some '\x27') :
    readText ((writtenText s).toList ++ rest) = some (s.toList, rest) := by
  rw [writtenText, String.toList_ofList]
  cases hquoting : (traits s.toList).quoting with
  | basic => exact readText_basic s.toList hdouble
  | literal =>
    obtain ⟨hne, hline⟩ := of_quoting_eq_literal hquoting
    exact readText_literal hne hline rest
  | multiBasic => exact readText_multiBasic s.toList hdouble
  | multiLiteral =>
    obtain ⟨hline, hquotes⟩ := of_quoting_eq_multiLiteral hquoting
    exact readText_multiLiteral hsingle hline hquotes

end CubeQuery.Toml
