import CubeQuery.Proofs.Text.Lowering

/-!
# Spellings of a name

The normal form of a name stands for all its spellings: blanks around the name
and the case of ASCII letters have no part in it. The case of a letter cannot
show through a neighbour either, since a capital sigma looks only for letters
that are cased, and small letters are so no less than capitals.

* `trim_append`: blanks around a text are cut off with the text's own.
* `lowerAfter_map_toLower`: lowercasing ignores the case of ASCII letters, also
  where it looks at the characters around a sigma.
* `normalName_eq_self_iff`: the names that are in normal form.
* `names_have_normal_forms`: what makes the normal form one.
-/

namespace CubeQuery

namespace Text

/-! ## Blanks around a text -/

theorem trimStart_append {before cs : List Char} (h : ∀ c ∈ before, isBlank c = true) :
    trimStart (before ++ cs) = trimStart cs :=
  List.dropWhile_append_of_pos h

theorem trimEnd_append {cs after : List Char} (h : ∀ c ∈ after, isBlank c = true) :
    trimEnd (cs ++ after) = trimEnd cs := by
  have hreverse : ∀ c ∈ after.reverse, isBlank c = true := fun c hc => h c (List.mem_reverse.mp hc)
  rw [trimEnd, List.reverse_append, List.dropWhile_append_of_pos hreverse, trimEnd]

/-- Blanks around a text are cut off with the text's own. -/
theorem trim_append {before cs after : List Char} (hbefore : ∀ c ∈ before, isBlank c = true)
    (hafter : ∀ c ∈ after, isBlank c = true) : trim (before ++ cs ++ after) = trim cs := by
  rw [trim, List.append_assoc, trimStart_append hbefore, trim, trimStart, List.dropWhile_append]
  split_ifs with hempty
  · -- nothing of the text is left, so the blanks behind it go from the front
    have hcs : trimStart cs = [] := List.isEmpty_iff.mp hempty
    have hblank : after.dropWhile isBlank = [] := List.dropWhile_eq_nil_iff.mpr hafter
    rw [hblank, hcs]
  · exact trimEnd_append hafter

/-! ## The case of ASCII letters -/

/-- A property that does not tell the capitals of ASCII from their small letters. -/
theorem apply_toLower {p : Char → Bool}
    (h : ∀ n < 26, p (Char.ofNat (0x61 + n)) = p (Char.ofNat (0x41 + n))) (c : Char) :
    p c.toLower = p c := by
  by_cases hcapital : 'A' ≤ c ∧ c ≤ 'Z'
  · have hfirst : 65 ≤ c.toNat := hcapital.1
    have hlast : c.toNat ≤ 90 := hcapital.2
    have hsmall : 0x61 + (c.toNat - 0x41) = c.toLower.toNat := by
      rw [toNat_toLower, if_pos hcapital]
      omega
    have hletter := h (c.toNat - 0x41) (by omega)
    rwa [hsmall, Nat.add_sub_cancel' hfirst, Char.ofNat_toNat, Char.ofNat_toNat] at hletter
  · have hsame : c.toLower = c := dif_neg hcapital
    rw [hsame]

theorem isBlank_toLower (c : Char) : isBlank c.toLower = isBlank c := apply_toLower (by decide) c

theorem isCased_toLower (c : Char) : isCased c.toLower = isCased c :=
  apply_toLower (by decide +kernel) c

theorem isCaseIgnorable_toLower (c : Char) : isCaseIgnorable c.toLower = isCaseIgnorable c :=
  apply_toLower (by decide +kernel) c

theorem dropWhile_map_toLower {p : Char → Bool} (h : ∀ c : Char, p c.toLower = p c)
    (cs : List Char) : (cs.map Char.toLower).dropWhile p = (cs.dropWhile p).map Char.toLower := by
  have hp : p ∘ Char.toLower = p := funext h
  rw [List.dropWhile_map, hp]

theorem trim_map_toLower (cs : List Char) :
    trim (cs.map Char.toLower) = (trim cs).map Char.toLower := by
  simp only [trim, trimEnd, trimStart, dropWhile_map_toLower isBlank_toLower, ← List.map_reverse]

/-- What a sigma looks for beside it. -/
theorem meetsCased_map_toLower (cs : List Char) :
    meetsCased (cs.map Char.toLower) = meetsCased cs := by
  rw [meetsCased, meetsCased, dropWhile_map_toLower isCaseIgnorable_toLower]
  cases cs.dropWhile isCaseIgnorable with
  | nil => rfl
  | cons c rest => exact isCased_toLower c

theorem endsWord_map_toLower (before after : List Char) :
    endsWord (before.map Char.toLower) (after.map Char.toLower) = endsWord before after := by
  rw [endsWord, endsWord, meetsCased_map_toLower, meetsCased_map_toLower]

theorem lowerBetween_map_toLower (before : List Char) (c : Char) (after : List Char) :
    lowerBetween (before.map Char.toLower) c.toLower (after.map Char.toLower) =
      lowerBetween before c after := by
  by_cases hascii : c.toNat < 0x80
  · have hlower := lowerBetween_of_ascii hascii before after
    have hmem : c.toLower ∈ lowerBetween before c after := by
      rw [hlower]
      exact List.mem_singleton_self _
    rw [hlower, lowerBetween_of_isSettled (mem_lowerBetween hmem).1]
  · -- beyond ASCII the character stays, and only a sigma has a look at its neighbours
    have hsame : c.toLower = c := by
      refine dif_neg fun hcapital => hascii ?_
      have hlast : c.toNat ≤ 90 := hcapital.2
      omega
    rw [hsame, lowerBetween, lowerBetween, endsWord_map_toLower]

/-- Lowercasing ignores the case of ASCII letters, in the text and in what stands before it. -/
theorem lowerAfter_map_toLower (before cs : List Char) :
    lowerAfter (before.map Char.toLower) (cs.map Char.toLower) = lowerAfter before cs := by
  induction cs generalizing before with
  | nil => rfl
  | cons c cs ih =>
    rw [List.map_cons, lowerAfter, lowerBetween_map_toLower, ← List.map_cons, ih, lowerAfter]

theorem lower_map_toLower (cs : List Char) : lower (cs.map Char.toLower) = lower cs :=
  lowerAfter_map_toLower [] cs

end Text

/-! ## Normal forms -/

open Text (IsTrimmed IsSettled SameName isBlank)

theorem isTrimmed_normalName (name : String) : IsTrimmed (normalName name).toList := by
  rw [normalName, String.toList_ofList]
  exact Text.isTrimmed_lower (Text.isTrimmed_trim name.toList)

/-- The names in normal form are those that lack nothing of it: they have no blank at an end,
    and every character of theirs is its own lowercase form. -/
theorem normalName_eq_self_iff {name : String} :
    normalName name = name ↔ IsTrimmed name.toList ∧ ∀ c ∈ name.toList, IsSettled c := by
  constructor
  · intro h
    rw [← h]
    refine ⟨isTrimmed_normalName name, fun c hc => ?_⟩
    rw [normalName, String.toList_ofList] at hc
    exact Text.isSettled_of_mem_lowerAfter hc
  · rintro ⟨htrimmed, hsettled⟩
    rw [normalName, Text.trim_eq_self_iff.mpr htrimmed, Text.lower,
      Text.lowerAfter_of_isSettled hsettled, String.ofList_toList]

theorem normalName_of_blanks {before after : String}
    (hbefore : ∀ c ∈ before.toList, isBlank c = true)
    (hafter : ∀ c ∈ after.toList, isBlank c = true) (name : String) :
    normalName (before ++ name ++ after) = normalName name := by
  rw [normalName, String.toList_append, String.toList_append, Text.trim_append hbefore hafter,
    normalName]

theorem normalName_eq_of_sameName {name name' : String} (h : SameName name name') :
    normalName name = normalName name' := by
  have hmap : name.toList.map Char.toLower = name'.toList.map Char.toLower :=
    beq_iff_eq.mp (Text.sameIgnoringAsciiCase_iff.mpr h)
  rw [normalName, normalName, ← Text.lower_map_toLower, ← Text.trim_map_toLower, hmap,
    Text.trim_map_toLower, Text.lower_map_toLower]

/-- **Names have normal forms.** The normal form of a name is its own normal form, and has no
    blank at either end. Blanks around a name do not change it, whatever they are, nor does the
    case of ASCII letters, whatever stands beside them. It does not take away more than that:
    a trimmed name of characters that are their own lowercase forms is left as it is, and no
    other name is. -/
theorem names_have_normal_forms :
    (∀ name, normalName (normalName name) = normalName name) ∧
    (∀ name, IsTrimmed (normalName name).toList) ∧
    (∀ before name after : String, (∀ c ∈ before.toList, isBlank c = true) →
      (∀ c ∈ after.toList, isBlank c = true) →
      normalName (before ++ name ++ after) = normalName name) ∧
    (∀ name name', SameName name name' → normalName name = normalName name') ∧
    ∀ name, normalName name = name ↔
      IsTrimmed name.toList ∧ ∀ c ∈ name.toList, IsSettled c := by
  refine ⟨normalName_normalName, isTrimmed_normalName, ?_, ?_, fun name => normalName_eq_self_iff⟩
  · intro before name after hbefore hafter
    exact normalName_of_blanks hbefore hafter name
  · intro name name' hsame
    exact normalName_eq_of_sameName hsame

/-- A sigma at the end of a word and one within a word, beside letters of either case and an
    `İ`, with blanks of several kinds around the name. -/
theorem names_have_normal_forms_of_sigmas :
    normalName ("\t\u2003" ++ "aOΣ İΣx" ++ "\u0085") = "aoς i\u0307σx" ∧
      normalName "AoΣ İΣX" = "aoς i\u0307σx" ∧
      normalName "aoς i\u0307σx" = "aoς i\u0307σx" := by
  obtain ⟨hidem, -, hblanks, hcase, -⟩ := names_have_normal_forms
  have hname : normalName "aOΣ İΣx" = "aoς i\u0307σx" := by decide +kernel
  have hsame : SameName "AoΣ İΣX" "aOΣ İΣx" :=
    Text.sameIgnoringAsciiCase_iff.mp (by decide +kernel)
  have hbefore : ∀ c ∈ "\t\u2003".toList, isBlank c = true := List.all_eq_true.mp (by decide)
  have hafter : ∀ c ∈ "\u0085".toList, isBlank c = true := List.all_eq_true.mp (by decide)
  refine ⟨?_, (hcase _ _ hsame).trans hname, ?_⟩
  · rw [hblanks _ _ _ hbefore hafter, hname]
  · rw [← hname, hidem]

end CubeQuery
