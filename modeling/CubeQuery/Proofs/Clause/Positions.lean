import CubeQuery.Proofs.Clause.Grammar

/-!
# Where a text fails to be a clause

A text that stands for no clause has one flaw, which shows at one place: the text
before that place is a part of a clause, and the text after it does not go on as it
should. `FailsAt` lists the flaws without regard to how a text is read.

* `exists_failsAt`: a text that is refused has a flaw.
* `lexChars_of_failsAt`: a text with a flaw is refused, with the number of bytes before the
  place where the flaw shows. `FailsAt.unique`: so no text has two flaws.
* `malformed_at_flaw`: both for trimmed and for untrimmed texts.
-/

namespace CubeQuery

/-! ## Bytes -/

namespace Text

@[simp]
theorem width_nil : width [] = 0 := rfl

@[simp]
theorem width_cons (c : Char) (cs : List Char) : width (c :: cs) = c.utf8Size + width cs := rfl

@[simp]
theorem width_append (a b : List Char) : width (a ++ b) = width a + width b := by
  induction a with
  | nil => simp [width]
  | cons c a ih =>
    rw [List.cons_append, width_cons, width_cons, ih]
    omega

/-- The width of a text is the number of bytes of its UTF-8 form. -/
theorem utf8ByteSize_ofList (cs : List Char) : (String.ofList cs).utf8ByteSize = width cs := by
  induction cs with
  | nil => rfl
  | cons c cs ih =>
    rw [← List.singleton_append, String.ofList_append, String.utf8ByteSize_append, ih, width_append,
      ← String.singleton_eq_ofList, String.utf8ByteSize_singleton]
    rfl

/-- A text has one start of each width. -/
theorem eq_of_width_eq {a b a' b' : List Char} (h : a ++ b = a' ++ b')
    (hwidth : width a = width a') : a = a' := by
  induction a generalizing a' with
  | nil =>
    cases a' with
    | nil => rfl
    | cons c a' =>
      have := c.utf8Size_pos
      rw [width_nil, width_cons] at hwidth
      omega
  | cons c a ih =>
    cases a' with
    | nil =>
      have := c.utf8Size_pos
      rw [width_nil, width_cons] at hwidth
      omega
    | cons c' a' =>
      obtain ⟨rfl, htail⟩ := List.cons.inj h
      rw [width_cons, width_cons] at hwidth
      rw [ih htail (by omega)]

end Text

namespace Clause

/-! ## Flaws -/

/-- How a text fails to be a clause. -/
inductive Flaw where
  | noName
  | noOperator
  | noValue
  /-- The value is nothing between two quotes. -/
  | emptyQuotes
  | openQuote
  | textAfterQuote
  | blankInValue
deriving DecidableEq, Repr

/-- Characters of names, and at least one of them. -/
structure IsName (name : List Char) : Prop where
  ne_nil : name ≠ []
  chars : ∀ c ∈ name, IsNameChar c

/-- `ValueFailsAt flaw before after`: the text `before ++ after` stands for no value after an
    operator, and this shows after `before`. -/
inductive ValueFailsAt : Flaw → List Char → List Char → Prop
  | noValue : ValueFailsAt .noValue [] []
  | emptyQuotes {quote : Char} : IsQuote quote → ValueFailsAt .emptyQuotes [] [quote, quote]
  | openQuote {quote : Char} {body : List Char} : IsQuote quote →
    (∀ inner value after, Spells quote inner value → body ≠ inner ++ quote :: after) →
    ValueFailsAt .openQuote [] (quote :: body)
  | textAfterQuote {quote : Char} {inner value after : List Char} : IsQuote quote →
    Spells quote inner value → after ≠ [] →
    ValueFailsAt .textAfterQuote (quote :: (inner ++ [quote])) after
  | blankInValue {head after : List Char} {blank : Char} :
    (∀ c ∈ head, Text.isBlank c = false) → (∀ c ∈ head.head?, ¬ IsQuote c) →
    Text.isBlank blank = true → ValueFailsAt .blankInValue head (blank :: after)

/-- `FailsAt flaw before after`: the text `before ++ after` stands for no clause, and this shows
    after `before`. The name is the longest that the text starts with. -/
inductive FailsAt : Flaw → List Char → List Char → Prop
  | noName {after : List Char} : (∀ c ∈ after.head?, ¬ IsNameChar c) → FailsAt .noName [] after
  | noOperator {name after : List Char} : IsName name →
    (∀ c ∈ after.head?, ¬ IsNameChar c ∧ ∀ operator : Operator, c ≠ operator.symbol) →
    FailsAt .noOperator name after
  | value {flaw : Flaw} {name before after : List Char} {operator : Operator} : IsName name →
    ValueFailsAt flaw before after → FailsAt flaw (name ++ operator.symbol :: before) after

theorem not_isNameChar_iff {c : Char} : isNameChar c = false ↔ ¬ IsNameChar c := by
  rw [← isNameChar_iff, Bool.not_eq_true]

/-! ## Refused texts have a flaw -/

theorem exists_first_blank {cs : List Char} (h : ¬ ∀ c ∈ cs, Text.isBlank c = false) :
    ∃ head blank after, cs = head ++ blank :: after ∧ (∀ c ∈ head, Text.isBlank c = false) ∧
      Text.isBlank blank = true := by
  induction cs with
  | nil => exact absurd (fun c hc => absurd hc List.not_mem_nil) h
  | cons c cs ih =>
    by_cases hc : Text.isBlank c = true
    · exact ⟨[], c, cs, rfl, fun d hd => absurd hd List.not_mem_nil, hc⟩
    · have hc' := Bool.eq_false_iff.mpr hc
      obtain ⟨head, blank, after, rfl, hhead, hblank⟩ :=
        ih fun hall => h (List.forall_mem_cons.mpr ⟨hc', hall⟩)
      exact ⟨c :: head, blank, after, rfl, List.forall_mem_cons.mpr ⟨hc', hhead⟩, hblank⟩

/-- A value without quotes is read to its first blank. -/
theorem readValue_of_bare {cs : List Char} (hne : cs ≠ []) (hquote : ∀ c ∈ cs.head?, ¬ IsQuote c)
    (start : Nat) :
    readValue start cs =
      if (cs.takeWhile (!Text.isBlank ·)).length < cs.length then
        .error ⟨.blankInValue, start + Text.width (cs.takeWhile (!Text.isBlank ·))⟩
      else .ok cs := by
  cases cs with
  | nil => exact absurd rfl hne
  | cons c rest =>
    have hc : ¬ isQuote c = true := fun hc => hquote c rfl (isQuote_iff.mp hc)
    rw [readValue, if_neg hc]

/-- Where no value is read, the text stands for none. -/
theorem exists_valueFailsAt {start : Nat} {cs : List Char}
    (h : ∀ value, readValue start cs = .ok value → value = []) :
    ∃ flaw before after, cs = before ++ after ∧ ValueFailsAt flaw before after := by
  cases cs with
  | nil => exact ⟨_, [], [], rfl, .noValue⟩
  | cons c rest =>
    by_cases hc : isQuote c = true
    · have hquote := isQuote_iff.mp hc
      cases hread : readQuoted c rest with
      | none =>
        refine ⟨_, [], c :: rest, rfl, .openQuote hquote ?_⟩
        rintro inner value after hspells rfl
        rw [readQuoted_of_spells hquote.ne_backslash hspells] at hread
        cases hread
      | some result =>
        obtain ⟨value, after⟩ := result
        obtain ⟨inner, hspells, rfl⟩ := spells_of_readQuoted hread
        cases after with
        | nil =>
          obtain rfl : value = [] := h value (by rw [readValue, if_pos hc, hread])
          cases hspells
          exact ⟨_, [], [c, c], rfl, .emptyQuotes hquote⟩
        | cons d after =>
          exact ⟨_, c :: (inner ++ [c]), d :: after, by simp,
            .textAfterQuote hquote hspells (List.cons_ne_nil d after)⟩
    · have hfirst : ∀ d ∈ (c :: rest).head?, ¬ IsQuote d := by
        rintro d ⟨⟩ hquote
        exact hc (isQuote_iff.mpr hquote)
      by_cases hblank : ∀ d ∈ c :: rest, Text.isBlank d = false
      · have hall : ¬ ((c :: rest).takeWhile (!Text.isBlank ·)).length < (c :: rest).length := by
          rw [takeWhile_length_lt_iff, not_not]
          simpa using hblank
        cases h (c :: rest) (by rw [readValue_of_bare (by simp) hfirst, if_neg hall])
      · obtain ⟨head, blank, after, hcs, hhead, hblank⟩ := exists_first_blank hblank
        refine ⟨_, head, blank :: after, hcs, .blankInValue hhead (fun d hd => ?_) hblank⟩
        rw [hcs] at hfirst
        exact hfirst d (by rw [List.head?_append, hd, Option.some_or]; rfl)

/-- A text that is refused has a flaw. -/
theorem exists_failsAt {cs : List Char} {e : LexError} (h : lexChars cs = .error e) :
    ∃ flaw before after, cs = before ++ after ∧ FailsAt flaw before after := by
  have hsplit := List.takeWhile_append_dropWhile (p := isNameChar) (l := cs)
  have hstop : ∀ c ∈ (cs.dropWhile isNameChar).head?, ¬ IsNameChar c := by
    intro c hc hname
    have := List.head?_dropWhile_not isNameChar cs
    rw [hc] at this
    simp [isNameChar_iff.mpr hname] at this
  by_cases hempty : cs.takeWhile isNameChar = []
  · rw [hempty] at hsplit
    exact ⟨_, [], cs, rfl, .noName (hsplit ▸ hstop)⟩
  have hname : IsName (cs.takeWhile isNameChar) :=
    ⟨hempty, fun c hc => isNameChar_iff.mp (List.mem_takeWhile_imp hc)⟩
  cases hrest : cs.dropWhile isNameChar with
  | nil => exact ⟨_, _, _, hsplit.symm, .noOperator hname (by simp [hrest])⟩
  | cons c w =>
    rw [hrest] at hsplit hstop
    cases hop : Operator.ofChar? c with
    | none =>
      refine ⟨_, _, _, hsplit.symm,
        .noOperator hname fun d hd => ⟨hstop d hd, fun operator hd' => ?_⟩⟩
      cases hd
      rw [ofChar?_eq_some_iff.mpr hd'] at hop
      cases hop
    | some operator =>
      have hvalue : ∀ value,
          readValue (Text.width (cs.takeWhile isNameChar) + c.utf8Size) w = .ok value →
            value = [] := by
        intro value hread
        cases value with
        | nil => rfl
        | cons d value =>
          rw [lexChars] at h
          simp [hempty, hrest, hop, hread] at h
      obtain ⟨flaw, before, after, rfl, hfails⟩ := exists_valueFailsAt hvalue
      rw [ofChar?_eq_some_iff.mp hop] at hsplit
      refine ⟨flaw, cs.takeWhile isNameChar ++ operator.symbol :: before, after, ?_,
        .value hname hfails⟩
      rw [List.append_assoc, List.cons_append, hsplit]

/-! ## Texts with a flaw are refused -/

/-- The flaw that a fault tells, when `after` follows the place where it shows. -/
def Fault.flaw (after : List Char) : Fault → Flaw
  | noField _ => .noName
  | noOperator _ _ => .noOperator
  | noValue _ _ => if after = [] then .noValue else .emptyQuotes
  | openQuote _ => .openQuote
  | textAfterQuote => .textAfterQuote
  | blankInValue => .blankInValue

/-- Where a text stands for no value, nothing is read, or the flaw is told. -/
theorem readValue_of_valueFailsAt {flaw : Flaw} {before after : List Char}
    (h : ValueFailsAt flaw before after) (start : Nat) :
    (readValue start (before ++ after) = .ok [] ∧ before = [] ∧
      flaw = if after = [] then .noValue else .emptyQuotes) ∨
    ∃ fault : Fault, readValue start (before ++ after) =
      .error ⟨fault, start + Text.width before⟩ ∧ fault.flaw after = flaw := by
  cases h with
  | noValue => exact .inl ⟨rfl, rfl, rfl⟩
  | @emptyQuotes quote hquote =>
    have hread : readQuoted quote [quote] = some ([], []) :=
      readQuoted_of_spells hquote.ne_backslash .nil []
    refine .inl ⟨?_, rfl, rfl⟩
    rw [List.nil_append, readValue, if_pos (isQuote_iff.mpr hquote), hread]
  | @openQuote quote body hquote hopen =>
    have hread : readQuoted quote body = none := by
      cases hread : readQuoted quote body with
      | none => rfl
      | some result =>
        obtain ⟨inner, hspells, hbody⟩ := spells_of_readQuoted hread
        exact absurd hbody (hopen inner _ _ hspells)
    refine .inr ⟨.openQuote quote, ?_, rfl⟩
    rw [List.nil_append, readValue, if_pos (isQuote_iff.mpr hquote), hread]
    rfl
  | @textAfterQuote quote inner value after hquote hspells hafter =>
    obtain ⟨d, after, rfl⟩ := List.exists_cons_of_ne_nil hafter
    have hread := readQuoted_of_spells hquote.ne_backslash hspells (d :: after)
    refine .inr ⟨.textAfterQuote, ?_, rfl⟩
    have hcs : quote :: (inner ++ [quote]) ++ d :: after =
        quote :: (inner ++ quote :: d :: after) := by simp
    rw [hcs, readValue, if_pos (isQuote_iff.mpr hquote), hread]
    simp only [Text.width_cons, Text.width_append, Text.width_nil, Except.error.injEq,
      LexError.mk.injEq, true_and]
    omega
  | @blankInValue _ after blank hhead hquote hblank =>
    have htake : (before ++ blank :: after).takeWhile (!Text.isBlank ·) = before := by
      rw [List.takeWhile_append_of_pos (by simpa using hhead),
        List.takeWhile_cons_of_neg (by simpa using hblank), List.append_nil]
    have hfirst : ∀ c ∈ (before ++ blank :: after).head?, ¬ IsQuote c := by
      cases before with
      | nil =>
        rintro c ⟨⟩ (rfl | rfl) <;> cases hblank
      | cons d before => exact hquote
    refine .inr ⟨.blankInValue, ?_, rfl⟩
    rw [readValue_of_bare (by simp) hfirst, htake, if_pos (by simp)]

/-- Behind a name and an operator, a text is refused if its value is, or if nothing is read. -/
theorem lexChars_of_name {name : List Char} (hname : IsName name) (operator : Operator)
    (w : List Char) :
    (∀ e, readValue (Text.width (name ++ [operator.symbol])) w = .error e →
      lexChars (name ++ operator.symbol :: w) = .error e) ∧
    (readValue (Text.width (name ++ [operator.symbol])) w = .ok [] →
      lexChars (name ++ operator.symbol :: w) =
        .error ⟨.noValue (String.ofList name) operator,
          Text.width (name ++ [operator.symbol])⟩) := by
  obtain ⟨htake, hdrop⟩ :=
    span_name (fun c hc => isNameChar_iff.mpr (hname.chars c hc)) operator w
  have hempty : ¬ name.isEmpty = true := by simpa using hname.ne_nil
  have hwidth : Text.width (name ++ [operator.symbol]) =
      Text.width name + operator.symbol.utf8Size := by
    rw [Text.width_append]
    rfl
  rw [lexChars, hwidth]
  simp only [htake, hdrop, if_neg hempty, ofChar?_eq_some_iff.mpr rfl]
  constructor
  · intro e h
    rw [h]
  · intro h
    rw [h]

/-- A text with a flaw is refused, with the number of bytes before the place of the flaw. -/
theorem lexChars_of_failsAt {flaw : Flaw} {before after : List Char}
    (h : FailsAt flaw before after) :
    ∃ fault : Fault, lexChars (before ++ after) = .error ⟨fault, Text.width before⟩ ∧
      fault.flaw after = flaw := by
  cases h with
  | noName hafter =>
    obtain ⟨htake, hdrop⟩ := span_of_head (List.forall_mem_nil (isNameChar · = true))
      fun c hc => not_isNameChar_iff.mpr (hafter c hc)
    refine ⟨.noField after.head?, ?_, rfl⟩
    rw [lexChars]
    simp only [htake, hdrop, List.isEmpty_nil, if_true]
    rfl
  | noOperator hname hafter =>
    obtain ⟨htake, hdrop⟩ := span_of_head (fun c hc => isNameChar_iff.mpr (hname.chars c hc))
      fun c hc => not_isNameChar_iff.mpr (hafter c hc).1
    have hempty : ¬ before.isEmpty = true := by simpa using hname.ne_nil
    refine ⟨.noOperator (String.ofList before) after.head?, ?_, rfl⟩
    rw [lexChars]
    simp only [htake, hdrop, if_neg hempty]
    cases after with
    | nil => rfl
    | cons c w =>
      have hop : Operator.ofChar? c = none :=
        Option.eq_none_iff_forall_ne_some.mpr fun operator hop =>
          (hafter c rfl).2 operator (ofChar?_eq_some_iff.mp hop)
      simp only [hop]
      rfl
  | @value _ name before _ operator hname hvalue =>
    have hwidth : Text.width (name ++ operator.symbol :: before) =
        Text.width (name ++ [operator.symbol]) + Text.width before := by
      simp only [Text.width_append, Text.width_cons, Text.width_nil]
      omega
    rw [List.append_assoc, List.cons_append, hwidth]
    obtain ⟨hrefused, hnothing⟩ := lexChars_of_name hname operator (before ++ after)
    rcases readValue_of_valueFailsAt hvalue (Text.width (name ++ [operator.symbol])) with
      ⟨hread, rfl, rfl⟩ | ⟨fault, hread, hfault⟩
    · exact ⟨.noValue (String.ofList name) operator, hnothing hread, rfl⟩
    · exact ⟨fault, hrefused _ hread, hfault⟩

/-- No text has two flaws. -/
theorem FailsAt.unique {flaw flaw' : Flaw} {before after before' after' : List Char}
    (h : FailsAt flaw before after) (h' : FailsAt flaw' before' after')
    (htext : before ++ after = before' ++ after') : flaw = flaw' ∧ before = before' := by
  obtain ⟨fault, hlex, rfl⟩ := lexChars_of_failsAt h
  obtain ⟨fault', hlex', rfl⟩ := lexChars_of_failsAt h'
  rw [htext, hlex'] at hlex
  obtain ⟨rfl, hwidth⟩ := LexError.mk.inj (Except.error.inj hlex)
  obtain rfl := Text.eq_of_width_eq htext hwidth.symm
  obtain rfl := List.append_cancel_left htext
  exact ⟨rfl, rfl⟩

/-! ## Positions -/

/-- The position is that of the only flaw of the text, counted in bytes. -/
structure PointsAtFlaw (text : List Char) (position : ℕ) : Prop where
  /-- The position does not split a character. -/
  boundary : (⟨position⟩ : String.Pos.Raw).IsValid (String.ofList text)
  within : position ≤ (String.ofList text).utf8ByteSize
  flawed : ∃ flaw before after, text = before ++ after ∧ FailsAt flaw before after ∧
    position = (String.ofList before).utf8ByteSize ∧
    ∀ flaw' before' after', text = before' ++ after' → FailsAt flaw' before' after' →
      flaw' = flaw ∧ before' = before

/-- A text that is refused has one flaw, and the position is the place of it. -/
theorem pointsAtFlaw_of_lexChars {cs : List Char} {e : LexError} (h : lexChars cs = .error e) :
    PointsAtFlaw cs e.position := by
  obtain ⟨flaw, before, after, rfl, hfails⟩ := exists_failsAt h
  obtain ⟨fault, hlex, -⟩ := lexChars_of_failsAt hfails
  rw [h] at hlex
  have hposition : e.position = (String.ofList before).utf8ByteSize := by
    rw [Except.error.inj hlex, Text.utf8ByteSize_ofList]
  refine ⟨?_, ?_, flaw, before, after, rfl, hfails, hposition, ?_⟩
  · rw [String.Pos.Raw.isValid_ofList]
    exact ⟨before.length, by rw [List.take_left]; exact hposition⟩
  · rw [hposition, String.ofList_append, String.utf8ByteSize_append]
    exact Nat.le_add_right _ _
  · intro flaw' before' after' htext hfails'
    exact hfails'.unique hfails htext.symm

/-- **Refused clauses are told where they fail.** A text that is not blank and stands for no
    clause has one flaw, and the reason gives the number of bytes before the place where it
    shows. So it is for a text that is read as it is, blank or not. -/
theorem malformed_at_flaw :
    (∀ (text : String) (e : FilterError), Text.trim text.toList ≠ [] → tokenize text = .error e →
      ∃ message position, e = .malformed message position ∧
        PointsAtFlaw (Text.trim text.toList) position) ∧
    ∀ (text : String) (e : FilterError), lex text = .error e →
      ∃ message position, e = .malformed message position ∧ PointsAtFlaw text.toList position := by
  constructor
  · intro text e hblank h
    rw [tokenize] at h
    split at h
    · next hempty => exact absurd hempty hblank
    · obtain ⟨fault, position, hlex, rfl⟩ := mapError_eq_error_iff.mp h
      exact ⟨_, position, rfl, pointsAtFlaw_of_lexChars hlex⟩
  · intro text e h
    obtain ⟨fault, position, hlex, rfl⟩ := mapError_eq_error_iff.mp h
    exact ⟨_, position, rfl, pointsAtFlaw_of_lexChars hlex⟩

/-- Text after a quoted value with a character of two bytes, and a blank text read as it is. -/
theorem malformed_after_accent :
    (tokenize " owner:\"é\"x" = .error (.malformed "unexpected text after quoted value" 10) ∧
      PointsAtFlaw (Text.trim " owner:\"é\"x".toList) 10) ∧
    lex "  " = .error (.malformed "expected a field name, found ' '" 0) ∧
      PointsAtFlaw "  ".toList 0 := by
  have htrimmed : tokenize " owner:\"é\"x" =
      .error (.malformed "unexpected text after quoted value" 10) := by decide +kernel
  have hblank : lex "  " = .error (.malformed "expected a field name, found ' '" 0) := by
    decide +kernel
  obtain ⟨_, _, he, hpoints⟩ := malformed_at_flaw.1 _ _ (by decide +kernel) htrimmed
  obtain ⟨_, _, he', hpoints'⟩ := malformed_at_flaw.2 _ _ hblank
  cases he
  cases he'
  exact ⟨⟨htrimmed, hpoints⟩, hblank, hpoints'⟩

end Clause

end CubeQuery
