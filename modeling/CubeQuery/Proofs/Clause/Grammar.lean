import CubeQuery.Clause.Lexer
import CubeQuery.Proofs.NormalName

/-!
# The grammar of clauses

A clause is a name, the character of an operator and a value. The value stands
as it is, or between two quotes of one kind with some of its characters behind a
backslash. `Derives` says this without regard to how a text is read.

* `lexChars_eq_ok_iff`: the reader accepts exactly the texts that the grammar
  derives, and gives the clause that they are derived from.
* `derives_writtenChars`, `tokenize_written`: every clause with a name and a value can
  be written down so that it is read back, whatever characters are in the value.
* `tokenize_iff_derives`: both for trimmed and for untrimmed texts.
-/

namespace CubeQuery.Clause

/-! ## Grammar -/

/-- A letter or digit of ASCII, or the underscore. -/
def IsNameChar (c : Char) : Prop :=
  ('A' ≤ c ∧ c ≤ 'Z') ∨ ('a' ≤ c ∧ c ≤ 'z') ∨ ('0' ≤ c ∧ c ≤ '9') ∨ c = '_'

instance (c : Char) : Decidable (IsNameChar c) := inferInstanceAs (Decidable (_ ∨ _))

/-- The double or the single quote. -/
def IsQuote (c : Char) : Prop := c = '"' ∨ c = '\x27'

/-- `Spells quote body value`: between two such quotes, `body` stands for `value`. Every
    character of the value stands for itself or behind a backslash, and the quote and the
    backslash only behind a backslash. -/
inductive Spells (quote : Char) : List Char → List Char → Prop
  | nil : Spells quote [] []
  | plain {c : Char} {body value : List Char} :
    c ≠ quote → c ≠ '\\' → Spells quote body value → Spells quote (c :: body) (c :: value)
  | escaped {c : Char} {body value : List Char} :
    Spells quote body value → Spells quote ('\\' :: c :: body) (c :: value)

/-- The texts that stand for a value after the operator. -/
inductive DerivesValue (value : List Char) : List Char → Prop
  | bare : (∀ c ∈ value, Text.isBlank c = false) → (∀ c ∈ value.head?, ¬ IsQuote c) →
    DerivesValue value value
  | quoted {quote : Char} {body : List Char} : IsQuote quote → Spells quote body value →
    DerivesValue value (quote :: (body ++ [quote]))

/-- The texts that stand for a clause. -/
structure Derives (clause : Clause) (text : List Char) : Prop where
  field_ne : clause.field ≠ ""
  field_chars : ∀ c ∈ clause.field.toList, IsNameChar c
  value_ne : clause.value ≠ ""
  parts : ∃ w, text = clause.field.toList ++ clause.operator.symbol :: w ∧
    DerivesValue clause.value.toList w

/-! ## Characters -/

theorem isNameChar_iff {c : Char} : isNameChar c = true ↔ IsNameChar c := by
  show (decide ('A' ≤ c ∧ c ≤ 'Z') || decide ('a' ≤ c) && decide (c ≤ 'z') ||
    decide ('0' ≤ c) && decide (c ≤ '9') || c == '_') = true ↔ IsNameChar c
  simp only [IsNameChar, Bool.or_eq_true, Bool.and_eq_true, decide_eq_true_eq, beq_iff_eq,
    or_assoc]

theorem isQuote_iff {c : Char} : isQuote c = true ↔ IsQuote c := by
  simp [isQuote, IsQuote]

theorem IsQuote.ne_backslash {c : Char} (h : IsQuote c) : c ≠ '\\' := by
  rcases h with rfl | rfl <;> decide

theorem not_isNameChar_symbol (operator : Operator) : isNameChar operator.symbol = false := by
  cases operator <;> decide

theorem ofChar?_eq_some_iff {c : Char} {operator : Operator} :
    Operator.ofChar? c = some operator ↔ c = operator.symbol := by
  constructor
  · intro h
    unfold Operator.ofChar? at h
    split_ifs at h <;> cases h <;> assumption
  · rintro rfl
    cases operator <;> rfl

/-! ## Quoted values -/

theorem readQuoted_of_spells {quote : Char} (hquote : quote ≠ '\\') {body value : List Char}
    (h : Spells quote body value) (rest : List Char) :
    readQuoted quote (body ++ quote :: rest) = some (value, rest) := by
  induction h with
  | nil =>
    rw [List.nil_append, readQuoted.eq_def]
    simp only [if_true]
  | plain hne hesc _ ih =>
    rw [List.cons_append, readQuoted.eq_def]
    simp only [if_neg hne, if_neg hesc, ih, Option.map_some]
  | escaped _ ih =>
    rw [List.cons_append, List.cons_append, readQuoted.eq_def]
    simp only [if_neg hquote.symm, if_true, ih, Option.map_some]

theorem spells_of_readQuoted {quote : Char} {cs value rest : List Char}
    (h : readQuoted quote cs = some (value, rest)) :
    ∃ body, Spells quote body value ∧ cs = body ++ quote :: rest := by
  fun_induction readQuoted quote cs generalizing value with
  | case1 => cases h
  | case2 tail =>
    cases h
    exact ⟨[], .nil, rfl⟩
  | case3 => cases h
  | case4 c tail hquote ih =>
    obtain ⟨⟨v, r⟩, hread, hpair⟩ := Option.map_eq_some_iff.mp h
    cases hpair
    obtain ⟨body, hbody, rfl⟩ := ih hread
    exact ⟨'\\' :: c :: body, .escaped hbody, rfl⟩
  | case5 c tail hquote hesc ih =>
    obtain ⟨⟨v, r⟩, hread, hpair⟩ := Option.map_eq_some_iff.mp h
    cases hpair
    obtain ⟨body, hbody, rfl⟩ := ih hread
    exact ⟨c :: body, .plain hquote hesc hbody, rfl⟩

/-! ## Values and clauses -/

theorem takeWhile_length_lt_iff {p : Char → Bool} {cs : List Char} :
    (cs.takeWhile p).length < cs.length ↔ ¬ ∀ c ∈ cs, p c = true := by
  rw [← List.takeWhile_eq_self_iff, (List.takeWhile_prefix p).length_le.lt_iff_ne, not_iff_not]
  constructor
  · exact (List.takeWhile_prefix p).eq_of_length
  · intro h
    rw [h]

/-- What is read behind the operator is a value that is derived, or nothing. -/
theorem readValue_eq_ok_iff {start : Nat} {cs value : List Char} (hne : value ≠ []) :
    readValue start cs = .ok value ↔ DerivesValue value cs := by
  cases cs with
  | nil =>
    rw [readValue]
    constructor
    · intro h
      cases h
      exact absurd rfl hne
    · intro h
      cases h
      exact absurd rfl hne
  | cons c rest =>
    rw [readValue]
    by_cases hc : isQuote c = true
    · have hquote := isQuote_iff.mp hc
      rw [if_pos hc]
      constructor
      · intro h
        split at h
        · cases h
        · next v hread =>
          cases h
          obtain ⟨body, hbody, rfl⟩ := spells_of_readQuoted hread
          exact .quoted hquote hbody
        · cases h
      · intro h
        cases h with
        | bare _ hhead => exact absurd hquote (hhead c rfl)
        | quoted _ hbody => rw [readQuoted_of_spells hquote.ne_backslash hbody]
    · rw [if_neg hc]
      simp only [takeWhile_length_lt_iff, Bool.not_eq_true']
      constructor
      · intro h
        split_ifs at h with hblank
        cases h
        refine .bare hblank fun d hd => ?_
        cases hd
        exact fun hquote => hc (isQuote_iff.mpr hquote)
      · intro h
        cases h with
        | bare hblank _ => rw [if_neg (not_not.mpr hblank)]
        | quoted hquote _ => exact absurd (isQuote_iff.mpr hquote) hc

/-- A name is read up to the first character that is in no name. -/
theorem span_of_head {name after : List Char} (hname : ∀ c ∈ name, isNameChar c = true)
    (hafter : ∀ c ∈ after.head?, isNameChar c = false) :
    (name ++ after).takeWhile isNameChar = name ∧ (name ++ after).dropWhile isNameChar = after := by
  rw [List.takeWhile_append_of_pos hname, List.dropWhile_append_of_pos hname]
  cases after with
  | nil => simp
  | cons c after =>
    have hc := hafter c rfl
    rw [List.takeWhile_cons_of_neg (by simp [hc]), List.dropWhile_cons_of_neg (by simp [hc]),
      List.append_nil]
    exact ⟨rfl, rfl⟩

theorem span_name {name : List Char} (h : ∀ c ∈ name, isNameChar c = true) (operator : Operator)
    (rest : List Char) :
    (name ++ operator.symbol :: rest).takeWhile isNameChar = name ∧
      (name ++ operator.symbol :: rest).dropWhile isNameChar = operator.symbol :: rest := by
  refine span_of_head h ?_
  rintro c ⟨⟩
  exact not_isNameChar_symbol operator

/-- A clause is read from exactly the texts that stand for it. -/
theorem lexChars_eq_ok_iff {cs : List Char} {clause : Clause} :
    lexChars cs = .ok clause ↔ Derives clause cs := by
  constructor
  · intro h
    unfold lexChars at h
    simp only at h
    split_ifs at h with hname
    split at h
    · cases h
    · next c after hrest =>
      split at h
      · cases h
      · next operator hop =>
        split at h
        · cases h
        · cases h
        · next value hne hvalue =>
          cases h
          have hcs := List.takeWhile_append_dropWhile (p := isNameChar) (l := cs)
          rw [hrest, ofChar?_eq_some_iff.mp hop] at hcs
          have hne' : value ≠ [] := fun h => hne h
          refine ⟨?_, ?_, ?_, after, ?_, ?_⟩
          · rintro hempty
            simp_all
          · intro d hd
            rw [String.toList_ofList] at hd
            exact isNameChar_iff.mp (List.mem_takeWhile_imp hd)
          · rintro hempty
            simp_all
          · rw [String.toList_ofList]
            exact hcs.symm
          · rw [String.toList_ofList]
            exact (readValue_eq_ok_iff hne').mp hvalue
  · rintro ⟨hfield, hchars, hvalue, w, rfl, hw⟩
    have hne : clause.value.toList ≠ [] := by simpa using hvalue
    have hname := span_name (fun c hc => isNameChar_iff.mpr (hchars c hc)) clause.operator w
    unfold lexChars
    simp only [hname.1, hname.2, List.isEmpty_iff]
    rw [if_neg (by simpa using hfield), ofChar?_eq_some_iff.mpr rfl]
    simp only [(readValue_eq_ok_iff hne).mpr hw, String.ofList_toList]

/-! ## Writing clauses -/

/-- One character of a value between quotes. -/
def writtenChar (quote c : Char) : List Char := if c = quote ∨ c = '\\' then ['\\', c] else [c]

/-- The text of a clause with its value between quotes. -/
def writtenChars (quote : Char) (clause : Clause) : List Char :=
  clause.field.toList ++ clause.operator.symbol ::
    (quote :: (clause.value.toList.flatMap (writtenChar quote) ++ [quote]))

/-- The text of a clause with its value between quotes. -/
def written (quote : Char) (clause : Clause) : String := String.ofList (writtenChars quote clause)

theorem spells_writtenChar (quote : Char) (value : List Char) :
    Spells quote (value.flatMap (writtenChar quote)) value := by
  induction value with
  | nil => exact .nil
  | cons c value ih =>
    rw [List.flatMap_cons, writtenChar]
    split_ifs with h
    · exact .escaped ih
    · exact .plain (fun hc => h (.inl hc)) (fun hc => h (.inr hc)) ih

theorem derives_writtenChars {quote : Char} (hquote : IsQuote quote) {clause : Clause}
    (hfield : clause.field ≠ "") (hchars : ∀ c ∈ clause.field.toList, IsNameChar c)
    (hvalue : clause.value ≠ "") : Derives clause (writtenChars quote clause) :=
  ⟨hfield, hchars, hvalue, _, rfl, .quoted hquote (spells_writtenChar quote _)⟩

theorem IsNameChar.toNat_range {c : Char} (h : IsNameChar c) :
    0x30 ≤ c.toNat ∧ c.toNat ≤ 0x7A := by
  rcases h with h | h | h | rfl
  · exact ⟨le_trans (by decide) (show 'A'.toNat ≤ c.toNat from h.1), le_trans h.2 (by decide)⟩
  · exact ⟨le_trans (by decide) (show 'a'.toNat ≤ c.toNat from h.1), h.2⟩
  · exact ⟨h.1, le_trans (show c.toNat ≤ '9'.toNat from h.2) (by decide)⟩
  · decide

theorem IsNameChar.not_isBlank {c : Char} (h : IsNameChar c) : Text.isBlank c = false := by
  have hrange := h.toNat_range
  simp only [Text.isBlank, Bool.or_eq_false_iff, Bool.and_eq_false_iff, decide_eq_false_iff_not,
    beq_eq_false_iff_ne]
  omega

/-- A text that stands for a clause has no blank at an end. -/
theorem Derives.isTrimmed {clause : Clause} {text : List Char} (h : Derives clause text) :
    Text.IsTrimmed text := by
  obtain ⟨hfield, hchars, hvalue, w, rfl, hw⟩ := h
  have hne : clause.field.toList ≠ [] := by simpa using hfield
  constructor
  · intro c hc
    rw [List.head?_append_of_ne_nil _ hne] at hc
    exact (hchars c (List.mem_of_mem_head? hc)).not_isBlank
  · intro c hc
    cases hw with
    | bare hblank _ =>
      have hne' : clause.value.toList ≠ [] := by simpa using hvalue
      rw [List.getLast?_append_of_ne_nil _ (by simp), List.getLast?_cons,
        List.getLast?_eq_some_getLast hne'] at hc
      cases hc
      exact hblank _ (List.getLast_mem hne')
    | @quoted quote body hquote _ =>
      have hlast : (clause.field.toList ++ clause.operator.symbol ::
          (quote :: (body ++ [quote]))).getLast? = some quote := by
        simp [List.getLast?_append, List.getLast?_cons]
      rw [hlast] at hc
      cases hc
      rcases hquote with rfl | rfl <;> decide

/-! ## Trimmed texts -/

theorem mapError_eq_ok_iff {α : Type} {r : Except LexError α} {a : α} :
    r.mapError LexError.toFilterError = .ok a ↔ r = .ok a := by
  cases r <;> simp [Except.mapError]

theorem mapError_eq_error_iff {α : Type} {r : Except LexError α} {e : FilterError} :
    r.mapError LexError.toFilterError = .error e ↔
      ∃ fault position, r = .error ⟨fault, position⟩ ∧ e = .malformed fault.message position := by
  cases r with
  | ok a => simp [Except.mapError]
  | error e' =>
    obtain ⟨fault, position⟩ := e'
    simp [Except.mapError, LexError.toFilterError, eq_comm]

theorem mapError_ne_emptyExpression {α : Type} (r : Except LexError α) :
    r.mapError LexError.toFilterError ≠ .error .emptyExpression := by
  cases r <;> simp [Except.mapError, LexError.toFilterError]

theorem lex_eq_ok_iff {text : String} {clause : Clause} :
    lex text = .ok clause ↔ Derives clause text.toList := by
  rw [lex, mapError_eq_ok_iff, lexChars_eq_ok_iff]

theorem Derives.ne_nil {clause : Clause} {text : List Char} (h : Derives clause text) :
    text ≠ [] := by
  obtain ⟨w, rfl, -⟩ := h.parts
  simp

theorem tokenize_eq_ok_iff {text : String} {clause : Clause} :
    tokenize text = .ok clause ↔ Derives clause (Text.trim text.toList) := by
  rw [tokenize]
  split
  · next h =>
    constructor
    · intro h'
      cases h'
    · intro hd
      exact absurd h hd.ne_nil
  · rw [mapError_eq_ok_iff, lexChars_eq_ok_iff]

theorem tokenize_of_derives {clause : Clause} {cs : List Char} (h : Derives clause cs) :
    tokenize (String.ofList cs) = .ok clause := by
  rw [tokenize_eq_ok_iff, String.toList_ofList, Text.trim_eq_self_iff.mpr h.isTrimmed]
  exact h

theorem tokenize_written {quote : Char} (hquote : IsQuote quote) {clause : Clause}
    (hfield : clause.field ≠ "") (hchars : ∀ c ∈ clause.field.toList, IsNameChar c)
    (hvalue : clause.value ≠ "") : tokenize (written quote clause) = .ok clause :=
  tokenize_of_derives (derives_writtenChars hquote hfield hchars hvalue)

theorem tokenize_eq_emptyExpression_iff {text : String} :
    tokenize text = .error .emptyExpression ↔ Text.trim text.toList = [] := by
  rw [tokenize]
  split
  · next h => simp [h]
  · next h =>
    constructor
    · intro h'
      exact absurd h' (mapError_ne_emptyExpression _)
    · intro h'
      exact absurd h' h

/-- **Reading clauses accepts exactly the grammar.** A trimmed text is read as a clause iff it
    stands for it, and so is a text that is read as it is. Every name, operator and value has
    such a text, for either quote. Only a text of blanks counts as empty, and only when it is
    trimmed. -/
theorem tokenize_iff_derives :
    (∀ (text : String) (clause : Clause),
      tokenize text = .ok clause ↔ Derives clause (Text.trim text.toList)) ∧
    (∀ (text : String) (clause : Clause),
      lex text = .ok clause ↔ Derives clause text.toList) ∧
    (∀ (quote : Char) (clause : Clause), IsQuote quote → clause.field ≠ "" →
      (∀ c ∈ clause.field.toList, IsNameChar c) → clause.value ≠ "" →
      tokenize (written quote clause) = .ok clause ∧ lex (written quote clause) = .ok clause) ∧
    (∀ text : String, tokenize text = .error .emptyExpression ↔ Text.trim text.toList = []) ∧
    ∀ text : String, lex text ≠ .error .emptyExpression := by
  refine ⟨fun _ _ => tokenize_eq_ok_iff, fun _ _ => lex_eq_ok_iff, ?_,
    fun _ => tokenize_eq_emptyExpression_iff, fun _ => mapError_ne_emptyExpression _⟩
  intro quote clause hquote hfield hchars hvalue
  refine ⟨tokenize_written hquote hfield hchars hvalue, ?_⟩
  rw [lex_eq_ok_iff, written, String.toList_ofList]
  exact derives_writtenChars hquote hfield hchars hvalue

/-- Both quotes, a backslash and a blank in one value. -/
theorem tokenize_both_quotes :
    tokenize "owner:\"it's \\\"so\\\" \\\\\"" = .ok ⟨"owner", .equal, "it's \"so\" \\"⟩ :=
  (tokenize_iff_derives.2.2.1 '"' ⟨"owner", .equal, "it's \"so\" \\"⟩ (.inl rfl) (by decide)
    (by simp [IsNameChar]) (by decide)).1

end CubeQuery.Clause
