import CubeQuery.CardIndex.Basic
import Mathlib.Data.List.DropRight
import Mathlib.Tactic.SplitIfs

/-!
# Normal names

The normal form of a name is trimmed and in lower case. Here it is shown to be
a fixed point: normalising twice is normalising once.

* `trim_eq_self_iff`: trimming leaves exactly the texts alone that have no
  blank at either end.
* `lower_lower`: lowercasing is idempotent. No lowercase form in the case data
  is held by a run of capitals, and the two forms of sigma are final.
* `isTrimmed_lower`: lowercasing moves no blank to an end.
* `normalName_normalName`: the normal form of a normal form is itself.
-/

namespace CubeQuery

namespace Text

/-! ## Trimming -/

/-- Neither end of the text is a blank. -/
def IsTrimmed (cs : List Char) : Prop :=
  (∀ c ∈ cs.head?, isBlank c = false) ∧ ∀ c ∈ cs.getLast?, isBlank c = false

theorem trimStart_eq_self_iff {cs : List Char} :
    trimStart cs = cs ↔ ∀ c ∈ cs.head?, isBlank c = false := by
  cases cs with
  | nil => simp [trimStart]
  | cons c cs => simp [trimStart, List.dropWhile_eq_self_iff]

theorem trimEnd_eq_self_iff {cs : List Char} :
    trimEnd cs = cs ↔ ∀ c ∈ cs.getLast?, isBlank c = false := by
  show cs.rdropWhile isBlank = cs ↔ _
  rw [List.rdropWhile_eq_self_iff]
  cases cs with
  | nil => simp
  | cons c cs => simp [List.getLast?_eq_getLast_of_ne_nil]

theorem head?_trimEnd {cs : List Char} {c : Char} (h : (trimEnd cs).head? = some c) :
    cs.head? = some c := by
  obtain ⟨rest, hrest⟩ : trimEnd cs <+: cs := List.rdropWhile_prefix isBlank cs
  rw [← hrest, List.head?_append, h, Option.some_or]

theorem isTrimmed_trim (cs : List Char) : IsTrimmed (trim cs) := by
  constructor
  · intro c hc
    have hstart : trimStart (trimStart cs) = trimStart cs := List.dropWhile_idempotent isBlank cs
    exact trimStart_eq_self_iff.mp hstart c (head?_trimEnd hc)
  · have hend : trimEnd (trim cs) = trim cs := List.rdropWhile_idempotent isBlank _
    exact trimEnd_eq_self_iff.mp hend

/-- Trimming leaves exactly the trimmed texts alone. -/
theorem trim_eq_self_iff {cs : List Char} : trim cs = cs ↔ IsTrimmed cs := by
  constructor
  · intro h
    rw [← h]
    exact isTrimmed_trim cs
  · rintro ⟨hhead, hlast⟩
    rw [trim, trimStart_eq_self_iff.mpr hhead, trimEnd_eq_self_iff.mpr hlast]

/-! ## The case data -/

/-- The lowercase forms of one run lie outside the other run, or between its members. -/
def CaseRun.misses (run other : CaseRun) : Bool :=
  run.target + (run.last - run.first) < other.first || other.last < run.target ||
    (other.step == 2 && (run.step == 2 || run.first == run.last) &&
      (run.target + other.first) % 2 == 1)

theorem CaseRun.not_holds_lower {run other : CaseRun} (h : run.misses other = true) {n : Nat}
    (hn : run.holds n = true) : other.holds (run.lower n) = false := by
  simp only [CaseRun.holds, Bool.and_eq_true, decide_eq_true_eq, beq_iff_eq] at hn
  simp only [CaseRun.misses, Bool.or_eq_true, Bool.and_eq_true, decide_eq_true_eq,
    beq_iff_eq] at h
  obtain ⟨⟨hfirst, hlast⟩, hstep⟩ := hn
  rw [Bool.eq_false_iff]
  intro hother
  simp only [CaseRun.holds, Bool.and_eq_true, decide_eq_true_eq, beq_iff_eq] at hother
  simp only [CaseRun.lower] at hother
  obtain ⟨⟨hfirst', hlast'⟩, hstep'⟩ := hother
  rcases h with (h | h) | ⟨⟨htwo, heven⟩, hodd⟩
  · omega
  · omega
  · rw [htwo] at hstep'
    rcases heven with heven | hsingle
    · rw [heven] at hstep
      omega
    · omega

/-- The blanks, `İ`, and the code points that are no characters. -/
def strangeRanges : List (Nat × Nat) :=
  [(0x09, 0x0D), (0x20, 0x20), (0x85, 0x85), (0xA0, 0xA0), (0x130, 0x130), (0x1680, 0x1680),
    (0x2000, 0x200A), (0x2028, 0x2029), (0x202F, 0x202F), (0x205F, 0x205F), (0x3000, 0x3000),
    (0xD800, 0xDFFF)]

/-- No lowercase form of the run is strange. -/
def CaseRun.isPlain (run : CaseRun) : Bool :=
  run.target + (run.last - run.first) < 0x110000 &&
    strangeRanges.all fun r => run.target + (run.last - run.first) < r.1 || r.2 < run.target

theorem CaseRun.lower_plain {run : CaseRun} (h : run.isPlain = true) {n : Nat}
    (hn : run.holds n = true) :
    run.lower n < 0x110000 ∧ inRanges strangeRanges (run.lower n) = false := by
  simp only [CaseRun.holds, Bool.and_eq_true, decide_eq_true_eq, beq_iff_eq] at hn
  simp only [CaseRun.isPlain, Bool.and_eq_true, List.all_eq_true, Bool.or_eq_true,
    decide_eq_true_eq] at h
  refine ⟨by rw [CaseRun.lower]; omega, ?_⟩
  rw [Bool.eq_false_iff]
  intro hin
  simp only [inRanges, List.any_eq_true, Bool.and_eq_true, decide_eq_true_eq] at hin
  simp only [CaseRun.lower] at hin
  obtain ⟨r, hr, hlow, hhigh⟩ := hin
  have := h.2 r hr
  omega

theorem caseRuns_misses : ∀ run ∈ caseRuns, ∀ other ∈ caseRuns, run.misses other = true := by
  have hall : (caseRuns.all fun run => caseRuns.all run.misses) = true := by decide +kernel
  simpa only [List.all_eq_true] using hall

theorem caseRuns_isPlain : ∀ run ∈ caseRuns, run.isPlain = true := by decide +kernel

theorem inRanges_of_isBlank {c : Char} (h : isBlank c = true) :
    inRanges strangeRanges c.toNat = true := by
  simp only [isBlank, Bool.or_eq_true, Bool.and_eq_true, decide_eq_true_eq, beq_iff_eq] at h
  simp only [inRanges, strangeRanges, List.any_cons, List.any_nil, Bool.or_eq_true,
    Bool.and_eq_true, decide_eq_true_eq]
  omega

/-! ## Lowercasing twice -/

/-- A character that is its own lowercase form, wherever it stands. -/
def IsSettled (c : Char) : Prop := c ≠ 'İ' ∧ ∀ run ∈ caseRuns, run.holds c.toNat = false

instance (c : Char) : Decidable (IsSettled c) := inferInstanceAs (Decidable (_ ∧ _))

theorem lowerBetween_of_isSettled {c : Char} (h : IsSettled c) (before after : List Char) :
    lowerBetween before c after = [c] := by
  have hsigma : c ≠ 'Σ' := by
    rintro rfl
    exact absurd h (by decide)
  have hfind : caseRuns.find? (·.holds c.toNat) = none := by
    rw [List.find?_eq_none]
    intro run hrun
    rw [h.2 run hrun]
    exact Bool.false_ne_true
  rw [lowerBetween, if_neg hsigma, lowerChar, if_neg h.1, lowerSimple, hfind]

theorem toNat_ofNat {n : Nat} (hlt : n < 0x110000) (hplain : inRanges strangeRanges n = false) :
    (Char.ofNat n).toNat = n := by
  have hvalid : n.isValidChar := by
    simp only [inRanges, strangeRanges, List.any_cons, List.any_nil, Bool.or_eq_false_iff,
      Bool.and_eq_false_iff, decide_eq_false_iff_not] at hplain
    unfold Nat.isValidChar
    omega
  rw [Char.ofNat, dif_pos hvalid]
  rfl

/-- A capital of a run becomes a character that is settled and no blank. -/
theorem lower_of_holds {c : Char} {run : CaseRun} (hrun : run ∈ caseRuns)
    (hc : run.holds c.toNat = true) :
    IsSettled (Char.ofNat (run.lower c.toNat)) ∧
      isBlank (Char.ofNat (run.lower c.toNat)) = false := by
  obtain ⟨hlt, hplain⟩ := CaseRun.lower_plain (caseRuns_isPlain run hrun) hc
  have hnat := toNat_ofNat hlt hplain
  refine ⟨⟨?_, ?_⟩, ?_⟩
  · intro hdot
    rw [← hnat, hdot] at hplain
    exact absurd hplain (by decide)
  · intro other hother
    rw [hnat]
    exact CaseRun.not_holds_lower (caseRuns_misses run hrun other hother) hc
  · rw [Bool.eq_false_iff]
    intro hblank
    have := inRanges_of_isBlank hblank
    rw [hnat, hplain] at this
    exact absurd this Bool.false_ne_true

/-- The lowercase forms of sigma and `İ`, which no run gives. -/
theorem exceptional_plain :
    ∀ d ∈ ['ς', 'σ', 'i', '\u0307'], IsSettled d ∧ isBlank d = false := by
  simp only [List.mem_cons, List.not_mem_nil, or_false, forall_eq_or_imp, forall_eq]
  decide +kernel

/-- Every character of a lowercase form is settled, and a blank only if it stands for one. -/
theorem mem_lowerBetween {before after : List Char} {c d : Char}
    (h : d ∈ lowerBetween before c after) :
    IsSettled d ∧ (isBlank c = false → isBlank d = false) := by
  have hexc (hd : d ∈ ['ς', 'σ', 'i', '\u0307']) :
      IsSettled d ∧ (isBlank c = false → isBlank d = false) :=
    ⟨(exceptional_plain d hd).1, fun _ => (exceptional_plain d hd).2⟩
  rw [lowerBetween] at h
  split_ifs at h with hsigma hend
  · exact hexc (by simp_all)
  · exact hexc (by simp_all)
  rw [lowerChar] at h
  split_ifs at h with hdot
  · exact hexc (by simp_all)
  rw [List.mem_singleton.mp h, lowerSimple]
  cases hfind : caseRuns.find? (·.holds c.toNat) with
  | none =>
    have hnone := List.find?_eq_none.mp hfind
    exact ⟨⟨hdot, fun run hrun => Bool.eq_false_iff.mpr (hnone run hrun)⟩, id⟩
  | some run =>
    have hholds : run.holds c.toNat = true := by simpa using List.find?_some hfind
    have hrun := lower_of_holds (List.mem_of_find?_eq_some hfind) hholds
    exact ⟨hrun.1, fun _ => hrun.2⟩

theorem lowerBetween_ne_nil (before : List Char) (c : Char) (after : List Char) :
    lowerBetween before c after ≠ [] := by
  rw [lowerBetween, lowerChar]
  split_ifs <;> simp

theorem isSettled_of_mem_lowerAfter {before cs : List Char} {d : Char}
    (h : d ∈ lowerAfter before cs) : IsSettled d := by
  induction cs generalizing before with
  | nil => exact absurd h List.not_mem_nil
  | cons c cs ih =>
    rw [lowerAfter, List.mem_append] at h
    rcases h with h | h
    · exact (mem_lowerBetween h).1
    · exact ih h

theorem lowerAfter_of_isSettled {before cs : List Char} (h : ∀ c ∈ cs, IsSettled c) :
    lowerAfter before cs = cs := by
  induction cs generalizing before with
  | nil => rfl
  | cons c cs ih =>
    rw [lowerAfter, lowerBetween_of_isSettled (h c List.mem_cons_self),
      ih fun d hd => h d (List.mem_cons_of_mem c hd)]
    rfl

/-- Lowercasing is idempotent. -/
theorem lower_lower (cs : List Char) : lower (lower cs) = lower cs :=
  lowerAfter_of_isSettled fun _ h => isSettled_of_mem_lowerAfter h

/-! ## Both ends -/

theorem head?_lowerAfter {before cs : List Char} {d : Char}
    (h : (lowerAfter before cs).head? = some d) :
    ∃ c after, cs.head? = some c ∧ d ∈ lowerBetween before c after := by
  cases cs with
  | nil => simp [lowerAfter] at h
  | cons c cs =>
    refine ⟨c, cs, rfl, ?_⟩
    rw [lowerAfter, List.head?_append_of_ne_nil _ (lowerBetween_ne_nil before c cs)] at h
    exact List.mem_of_mem_head? h

theorem getLast?_lowerAfter {before cs : List Char} {d : Char}
    (h : (lowerAfter before cs).getLast? = some d) :
    ∃ c before', cs.getLast? = some c ∧ d ∈ lowerBetween before' c [] := by
  induction cs generalizing before with
  | nil => simp [lowerAfter] at h
  | cons c cs ih =>
    rw [lowerAfter] at h
    cases cs with
    | nil =>
      rw [lowerAfter, List.append_nil] at h
      exact ⟨c, before, rfl, List.mem_of_getLast? h⟩
    | cons c' cs =>
      have hne : lowerAfter (c :: before) (c' :: cs) ≠ [] := by
        rw [lowerAfter]
        exact List.append_ne_nil_of_left_ne_nil (lowerBetween_ne_nil _ _ _) _
      rw [List.getLast?_append_of_ne_nil _ hne] at h
      obtain ⟨e, before', he, hd⟩ := ih h
      exact ⟨e, before', by rw [List.getLast?_cons_cons, he], hd⟩

/-- Lowercasing moves no blank to an end. -/
theorem isTrimmed_lower {cs : List Char} (h : IsTrimmed cs) : IsTrimmed (lower cs) := by
  constructor
  · intro d hd
    obtain ⟨c, after, hc, hmem⟩ := head?_lowerAfter hd
    exact (mem_lowerBetween hmem).2 (h.1 c hc)
  · intro d hd
    obtain ⟨c, before, hc, hmem⟩ := getLast?_lowerAfter hd
    exact (mem_lowerBetween hmem).2 (h.2 c hc)

end Text

/-- The normal form of a normal form is itself. -/
@[simp]
theorem normalName_normalName (name : String) : normalName (normalName name) = normalName name := by
  have htrim := Text.trim_eq_self_iff.mpr
    (Text.isTrimmed_lower (Text.isTrimmed_trim name.toList))
  rw [normalName, normalName, String.toList_ofList, htrim, Text.lower_lower]

end CubeQuery
