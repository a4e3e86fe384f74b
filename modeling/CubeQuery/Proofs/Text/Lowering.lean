import CubeQuery.Proofs.Filter.Words
import CubeQuery.Proofs.NormalName

/-!
# Lowercasing and ASCII

A text of ASCII is lowercased letter by letter. The converse nearly holds: what is
lowercased to a text of ASCII is of ASCII itself, unless the text has a `k`, which
is the lowercase form of the Kelvin sign too.

* `lowerAfter_of_ascii`: only the capitals of an ASCII text change.
* `lowerAfter_eq_iff`: lowercasing gives a word without `k` only if ASCII letters differ in case.
-/

namespace CubeQuery.Text

/-! ## Texts of ASCII -/

/-- The run is that of the capitals of ASCII, or it holds no character of ASCII and leads to
    none, but for the Kelvin sign. -/
def CaseRun.sparesAscii (run : CaseRun) : Bool :=
  run.first == 0x41 && run.last == 0x5A && run.target == 0x61 ||
    0x80 ≤ run.first && (0x80 ≤ run.target || run.first == run.last && run.target == 0x6B)

theorem caseRuns_sparesAscii : ∀ run ∈ caseRuns, run.sparesAscii = true := by decide +kernel

/-- Capitals of ASCII are lowercased to their small letters. -/
theorem lowerBetween_of_capital {c : Char} (h : 'A' ≤ c ∧ c ≤ 'Z') (before after : List Char) :
    lowerBetween before c after = [c.toLower] := by
  have hfirst : 65 ≤ c.toNat := h.1
  have hlast : c.toNat ≤ 90 := h.2
  have hne : ∀ d : Char, 90 < d.toNat → c ≠ d := by
    rintro d hd rfl
    omega
  have hsimple : lowerSimple c = Char.ofNat (0x61 + (c.toNat - 0x41)) := by
    obtain ⟨runs, hruns⟩ : ∃ runs, caseRuns = ⟨0x41, 0x5A, 1, 0x61⟩ :: runs := ⟨_, rfl⟩
    have hholds : CaseRun.holds ⟨0x41, 0x5A, 1, 0x61⟩ c.toNat = true := by
      simp only [CaseRun.holds, Bool.and_eq_true, decide_eq_true_eq, beq_iff_eq]
      omega
    rw [lowerSimple, hruns, List.find?_cons, hholds]
    rfl
  have hsmall : 0x61 + (c.toNat - 0x41) = c.toLower.toNat := by
    rw [toNat_toLower, if_pos h]
    omega
  rw [lowerBetween, if_neg (hne 'Σ' (by decide)), lowerChar, if_neg (hne 'İ' (by decide)), hsimple,
    hsmall, Char.ofNat_toNat]

theorem isSettled_of_ascii {c : Char} (h : c.toNat < 0x80) (hcapital : ¬ ('A' ≤ c ∧ c ≤ 'Z')) :
    IsSettled c := by
  refine ⟨?_, fun run hrun => ?_⟩
  · rintro rfl
    exact absurd h (by decide)
  · have hspares := caseRuns_sparesAscii run hrun
    simp only [CaseRun.sparesAscii, Bool.or_eq_true, Bool.and_eq_true, beq_iff_eq,
      decide_eq_true_eq] at hspares
    rw [Bool.eq_false_iff]
    intro hholds
    simp only [CaseRun.holds, Bool.and_eq_true, decide_eq_true_eq, beq_iff_eq] at hholds
    have hnot : ¬ (65 ≤ c.toNat ∧ c.toNat ≤ 90) := hcapital
    omega

theorem lowerBetween_of_ascii {c : Char} (h : c.toNat < 0x80) (before after : List Char) :
    lowerBetween before c after = [c.toLower] := by
  by_cases hcapital : 'A' ≤ c ∧ c ≤ 'Z'
  · exact lowerBetween_of_capital hcapital before after
  · have hsame : c.toLower = c := dif_neg hcapital
    rw [lowerBetween_of_isSettled (isSettled_of_ascii h hcapital), hsame]

/-- Only the capitals of an ASCII text change. -/
theorem lowerAfter_of_ascii {cs : List Char} (h : ∀ c ∈ cs, c.toNat < 0x80)
    (before : List Char) : lowerAfter before cs = cs.map Char.toLower := by
  induction cs generalizing before with
  | nil => rfl
  | cons c cs ih =>
    rw [lowerAfter, lowerBetween_of_ascii (h c List.mem_cons_self),
      ih (fun d hd => h d (List.mem_cons_of_mem c hd)), List.map_cons, List.singleton_append]

/-! ## Words of ASCII -/

/-- A character of ASCII that no character but its capital is lowercased to. -/
def IsSmallAscii (d : Char) : Prop := d.toNat < 0x80 ∧ d.toLower = d ∧ d ≠ 'k'

instance (d : Char) : Decidable (IsSmallAscii d) := inferInstanceAs (Decidable (_ ∧ _))

/-- Only ASCII letters are lowercased to nothing but such characters. -/
theorem toLower_of_lowerBetween {before after : List Char} {c : Char}
    (h : ∀ d ∈ lowerBetween before c after, IsSmallAscii d) :
    lowerBetween before c after = [c.toLower] := by
  rw [lowerBetween] at h ⊢
  split_ifs at h ⊢ with hsigma hend
  · exact absurd (h 'ς' List.mem_cons_self) (by decide)
  · exact absurd (h 'σ' List.mem_cons_self) (by decide)
  rw [lowerChar] at h ⊢
  split_ifs at h ⊢ with hdot
  · exact absurd (h '\u0307' (by simp)) (by decide)
  have hsmall := h _ List.mem_cons_self
  rw [lowerSimple] at hsmall ⊢
  cases hfind : caseRuns.find? (·.holds c.toNat) with
  | none =>
    rw [hfind] at hsmall
    exact congrArg (fun d => [d]) hsmall.2.1.symm
  | some run =>
    rw [hfind] at hsmall
    have hrun := List.mem_of_find?_eq_some hfind
    have hholds : run.holds c.toNat = true := by simpa using List.find?_some hfind
    obtain ⟨hlt, hplain⟩ := CaseRun.lower_plain (caseRuns_isPlain run hrun) hholds
    have hnat := toNat_ofNat hlt hplain
    have hspares := caseRuns_sparesAscii run hrun
    simp only [CaseRun.holds, Bool.and_eq_true, decide_eq_true_eq, beq_iff_eq] at hholds
    simp only [CaseRun.sparesAscii, Bool.or_eq_true, Bool.and_eq_true, beq_iff_eq,
      decide_eq_true_eq] at hspares
    have hascii : (Char.ofNat (run.lower c.toNat)).toNat < 0x80 := hsmall.1
    have hk : (Char.ofNat (run.lower c.toNat)).toNat ≠ 0x6B :=
      fun hk => hsmall.2.2 (Char.toNat_inj.mp hk)
    show [Char.ofNat (run.lower c.toNat)] = [c.toLower]
    rw [hnat, CaseRun.lower] at hascii hk
    have hcapital : 'A' ≤ c ∧ c ≤ 'Z' := by
      show 65 ≤ c.toNat ∧ c.toNat ≤ 90
      omega
    congr 1
    rw [← Char.toNat_inj, hnat, toNat_toLower, if_pos hcapital, CaseRun.lower]
    omega

/-- Lowercasing gives a word of such characters iff ASCII letters differ in case at most. -/
theorem lowerAfter_eq_iff {word : List Char} (hword : ∀ d ∈ word, IsSmallAscii d)
    {before cs : List Char} : lowerAfter before cs = word ↔ cs.map Char.toLower = word := by
  constructor
  · intro h
    induction cs generalizing before word with
    | nil => exact h
    | cons c cs ih =>
      rw [lowerAfter] at h
      subst h
      rw [toLower_of_lowerBetween fun d hd => hword d (List.mem_append_left _ hd), List.map_cons,
        ih (fun d hd => hword d (List.mem_append_right _ hd)) rfl, List.singleton_append]
  · intro h
    rw [lowerAfter_of_ascii _ before, h]
    intro c hc
    have hsmall := (hword c.toLower (h ▸ List.mem_map_of_mem hc)).1
    rw [toNat_toLower] at hsmall
    split_ifs at hsmall <;> omega

end CubeQuery.Text
