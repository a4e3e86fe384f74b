import CubeQuery.Proofs.Clause.Grammar
import CubeQuery.Proofs.Filter.Decision
import CubeQuery.Proofs.Json.Reading
import Mathlib.Data.Bool.AllAny

/-!
# Numbers in clauses are exact

A clause on a number compiles iff its value denotes an integer of 64 bits, and then the
comparison, the document and the written document have that integer and no other.

* `denotes_toString`: an integer of 64 bits is denoted by its decimal form.
* `Denotes.derivesValue`: what denotes an integer needs no quotes.
* `compile_of_denotes`, `compile_of_not_denotes`: a clause on a number, by its value.
* `numbers_are_exact`: both, and that every integer of 64 bits can be asked for.
-/

namespace CubeQuery

namespace Number

/-! ## Decimal forms -/

theorem digitsValue_nil : digitsValue [] = 0 := Nat.ofDigits_nil

theorem digitsValue_append (digits : List Char) (c : Char) :
    digitsValue (digits ++ [c]) = 10 * digitsValue digits + (c.toNat - '0'.toNat) := by
  rw [digitsValue, List.reverse_append, List.reverse_singleton, List.singleton_append,
    List.map_cons, Nat.ofDigits_cons, digitsValue]
  omega

theorem digitsValue_toDigits (n : ℕ) : digitsValue (Nat.toDigits 10 n) = n := by
  have hdigit : ∀ m < 10, (Nat.digitChar m).toNat - '0'.toNat = m := by decide
  induction n using Nat.strong_induction_on with
  | h n ih =>
    rw [Nat.toDigits_eq_if (by decide)]
    split_ifs with hn
    · rw [← List.nil_append [Nat.digitChar n], digitsValue_append, hdigit n hn, digitsValue_nil]
      omega
    · rw [digitsValue_append, ih (n / 10) (by omega), hdigit (n % 10) (by omega)]
      omega

/-- An integer of 64 bits is denoted by its decimal form. -/
theorem denotes_toString {n : ℤ} (hleast : -2 ^ 63 ≤ n) (hgreatest : n ≤ 2 ^ 63 - 1) :
    Denotes (toString n) n := by
  have hdigits : ∀ m, ∀ c ∈ Nat.toDigits 10 m, '0' ≤ c ∧ c ≤ '9' := fun m c hc =>
    isDigit_iff.mp (Nat.isDigit_of_mem_toDigits (by decide) (by decide) hc)
  have hrepr : toString n = if 0 ≤ n then n.toNat.repr else "-" ++ (-n).toNat.repr :=
    Int.repr_eq_if
  rw [hrepr]
  split_ifs with hn
  · refine ⟨[], Nat.toDigits 10 n.toNat, Nat.toList_repr, Nat.toDigits_ne_nil, hdigits _,
      .inl ⟨.inl rfl, ?_⟩, hleast, hgreatest⟩
    rw [digitsValue_toDigits, Int.toNat_of_nonneg hn]
  · refine ⟨['-'], Nat.toDigits 10 (-n).toNat, ?_, Nat.toDigits_ne_nil, hdigits _,
      .inr ⟨rfl, ?_⟩, hleast, hgreatest⟩
    · rw [String.toList_append, Nat.toList_repr]
      rfl
    · rw [digitsValue_toDigits]
      omega

/-- What denotes an integer has no blank and no quote. -/
theorem Denotes.plain {text : String} {n : ℤ} (h : Denotes text n) :
    ∀ c ∈ text.toList, Text.isBlank c = false ∧ ¬ Clause.IsQuote c := by
  obtain ⟨sign, digits, htext, -, hdigits, hsign, -⟩ := h
  intro c hc
  rw [htext, List.mem_append] at hc
  rcases hc with hc | hc
  · have hc' : c = '+' ∨ c = '-' := by
      rcases hsign with ⟨rfl | rfl, -⟩ | ⟨rfl, -⟩
      · cases hc
      · exact .inl (List.mem_singleton.mp hc)
      · exact .inr (List.mem_singleton.mp hc)
    rcases hc' with rfl | rfl <;> simp [Text.isBlank, Clause.IsQuote]
  · have hname : Clause.IsNameChar c := .inr (.inr (.inl (hdigits c hc)))
    refine ⟨hname.not_isBlank, ?_⟩
    rintro (rfl | rfl)
    · exact absurd (hdigits _ hc) (by decide)
    · exact absurd (hdigits _ hc) (by decide)

/-- What denotes an integer needs no quotes. -/
theorem Denotes.derivesValue {text : String} {n : ℤ} (h : Denotes text n) :
    Clause.DerivesValue text.toList text.toList :=
  .bare (fun c hc => (h.plain c hc).1) fun c hc => (h.plain c (List.mem_of_mem_head? hc)).2

theorem Denotes.ne_empty {text : String} {n : ℤ} (h : Denotes text n) : text ≠ "" := by
  obtain ⟨sign, digits, htext, hne, -⟩ := h
  rintro rfl
  exact hne (List.append_eq_nil_iff.mp htext.symm).2

end Number

namespace Filter

/-! ## Clauses on numbers -/

/-- What a document demands of a number. -/
def numberCondition (operator : Operator) (n : ℤ) : Json :=
  match operator with
  | .equal => .int n
  | .greater => .object [("$gt", .int n)]
  | .less => .object [("$lt", .int n)]

/-- A filter that compares one field with an integer, in its query, in its document and in the
    written document. -/
structure ComparesWith (filter : Filter) (target : String) (operator : Operator) (n : ℤ) :
    Prop where
  query : filter.query = .leaf ⟨target, relationOf operator, .int n, false⟩
  document : filter.query.document = .object [(target, numberCondition operator n)]
  written : Json.read filter.query.document.render =
    .ok (.object [(target, numberCondition operator n)])

theorem comparesWith_ofComparison (target : String) (operator : Operator) (n : ℤ) :
    ComparesWith (ofComparison ⟨target, relationOf operator, .int n, false⟩ target) target
      operator n := by
  have hdocument : (Predicate.leaf ⟨target, relationOf operator, .int n, false⟩).document =
      .object [(target, numberCondition operator n)] := by
    cases operator <;> rfl
  exact ⟨rfl, hdocument, (Json.read_render _).trans (congrArg Except.ok hdocument)⟩

section

variable {text name target field value : String} {operator : Operator}

/-- A value that denotes an integer is compared with. -/
theorem compile_of_denotes (htext : Clause.tokenize text = .ok ⟨field, operator, value⟩)
    (hsame : Text.SameName name field) (hentry : (name, target) ∈ numberFields) {n : ℤ}
    (hn : Number.Denotes value n) (find : String → Except String TextSet) :
    ∃ filter, compile (m := Id) find text = .ok filter ∧ ComparesWith filter target operator n :=
  ⟨_, compile_of_judged (m := Id) (.number htext hsame hentry hn) find,
    comparesWith_ofComparison target operator n⟩

/-- A value that denotes no integer is refused. -/
theorem compile_of_not_denotes (htext : Clause.tokenize text = .ok ⟨field, operator, value⟩)
    (hsame : Text.SameName name field) (hentry : (name, target) ∈ numberFields)
    (hn : ∀ n, ¬ Number.Denotes value n) (find : String → Except String TextSet) :
    compile (m := Id) find text = .error (.invalidValue name value "an integer") :=
  compile_of_judged (m := Id) (.invalidNumber htext hsame hentry hn) find

end

/-- The text of a clause with a number in its decimal form. -/
theorem tokenize_decimal {value : String} {n : ℤ} (h : Number.Denotes value n) :
    Clause.tokenize ("decks>" ++ value) = .ok ⟨"decks", .greater, value⟩ := by
  have hchars : ∀ c ∈ "decks".toList, Clause.IsNameChar c :=
    List.all_iff_forall_prop.mp (by decide)
  have hstart : "decks>".toList = "decks".toList ++ ['>'] := by decide
  have hparts : ("decks>" ++ value).toList = "decks".toList ++ '>' :: value.toList := by
    rw [String.toList_append, hstart, List.append_assoc, List.singleton_append]
  have hderives : Clause.Derives ⟨"decks", .greater, value⟩ ("decks>" ++ value).toList :=
    ⟨by simp, hchars, h.ne_empty, value.toList, hparts, h.derivesValue⟩
  have htext := Clause.tokenize_of_derives hderives
  rwa [String.ofList_toList] at htext

/-- **Numbers in clauses are exact.** A clause on a number compiles iff its value denotes an
    integer of 64 bits, and then to the comparison with that integer. Any other value is refused
    as it stands. Every integer of 64 bits can be asked for in its decimal form. -/
theorem numbers_are_exact (find : String → Except String TextSet) :
    (∀ (text name target field value : String) (operator : Operator),
      Clause.tokenize text = .ok ⟨field, operator, value⟩ → Text.SameName name field →
      (name, target) ∈ numberFields →
      ((∃ filter, compile (m := Id) find text = .ok filter) ↔ ∃ n, Number.Denotes value n) ∧
      (∀ n, Number.Denotes value n → ∃ filter, compile (m := Id) find text = .ok filter ∧
        ComparesWith filter target operator n) ∧
      ((∀ n, ¬ Number.Denotes value n) →
        compile (m := Id) find text = .error (.invalidValue name value "an integer"))) ∧
    ∀ n : Int64, ∃ filter,
      compile (m := Id) find ("decks>" ++ toString n.toInt) = .ok filter ∧
        ComparesWith filter "numDecks" .greater n.toInt := by
  constructor
  · intro text name target field value operator htext hsame hentry
    refine ⟨⟨?_, ?_⟩, fun n hn => compile_of_denotes htext hsame hentry hn find,
      fun hn => compile_of_not_denotes htext hsame hentry hn find⟩
    · rintro ⟨filter, hfilter⟩
      by_contra hn
      rw [compile_of_not_denotes htext hsame hentry (not_exists.mp hn) find] at hfilter
      cases hfilter
    · rintro ⟨n, hn⟩
      obtain ⟨filter, hfilter, -⟩ := compile_of_denotes htext hsame hentry hn find
      exact ⟨filter, hfilter⟩
  · intro n
    have hn := Number.denotes_toString n.le_toInt (Int.le_sub_one_of_lt n.toInt_lt)
    exact compile_of_denotes (tokenize_decimal hn) (Text.SameName.refl "decks") (by decide) hn find

/-- The least integer of 64 bits behind zeros, and the next below it. -/
theorem numbers_are_exact_of_least :
    (∃ filter, compile (m := Id) (fun _ => .error "out of order")
      "CARDS<-009223372036854775808" = .ok filter ∧
        ComparesWith filter "card_count" .less (-2 ^ 63)) ∧
    compile (m := Id) (fun _ => .error "out of order") "CARDS<-9223372036854775809" =
      .error (.invalidValue "cards" "-9223372036854775809" "an integer") := by
  have hsame : Text.SameName "cards" "CARDS" := Text.sameIgnoringAsciiCase_iff.mp (by decide)
  have hentry : ("cards", "card_count") ∈ numberFields := by decide
  have hleast : Number.Denotes "-009223372036854775808" (-2 ^ 63) :=
    Number.ofText?_eq_some_iff.mp (by decide +kernel)
  have hnone : Number.ofText? "-9223372036854775809" = none := by decide +kernel
  have hbelow : ∀ n, ¬ Number.Denotes "-9223372036854775809" n := by
    intro n hn
    rw [Number.ofText?_eq_some_iff.mpr hn] at hnone
    cases hnone
  exact ⟨((numbers_are_exact _).1 _ _ _ _ _ .less (by decide +kernel) hsame hentry).2.1 _ hleast,
    ((numbers_are_exact _).1 _ _ _ _ _ .less (by decide +kernel) hsame hentry).2.2 hbelow⟩

end Filter

end CubeQuery
