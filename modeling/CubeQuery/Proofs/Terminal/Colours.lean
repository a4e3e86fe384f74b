import CubeQuery.Terminal
import Mathlib.Data.List.Basic

/-!
# Colours only decorate

A page with colours is the plain page with colour sequences among its characters.
They are found again by their form, as long as the texts on the page start no
sequence of their own.

* `withoutColours`: a text from which all colour sequences are deleted.
* `afterColour?_eq_some_iff`: what is deleted are the sequences of that form.
* `splitOn_uncoloured`: no sequence reaches over the end of a line, so to delete
  them line by line is to delete them from the whole.
* `uncoloured_render`: what is left of a page with colours is the plain page.
* `onlyDecorated_of_escapeFree`: what this means for a page.
-/

namespace CubeQuery.Terminal

/-! ## Colour sequences -/

/-- A character that can stand between the bracket and the letter of a control sequence. -/
def isParameter (c : Char) : Bool := '0' ≤ c && c ≤ '?'

/-- A colour sequence: an escape character, a bracket, parameters and an `m`. -/
def IsColour (sequence : List Char) : Prop :=
  ∃ parameters, (∀ c ∈ parameters, isParameter c = true) ∧
    sequence = '\x1b' :: '[' :: (parameters ++ ['m'])

/-- What follows the colour sequence that a text starts with. -/
def afterColour? : List Char → Option (List Char)
  | '\x1b' :: '[' :: rest =>
    match rest.dropWhile isParameter with
    | 'm' :: after => some after
    | _ => none
  | _ => none

theorem afterColour?_eq_some_iff {cs after : List Char} :
    afterColour? cs = some after ↔ ∃ sequence, IsColour sequence ∧ cs = sequence ++ after := by
  constructor
  · intro h
    unfold afterColour? at h
    split at h
    · next rest =>
      split at h
      · next hdrop =>
        cases h
        refine ⟨_, ⟨rest.takeWhile isParameter, ?_, rfl⟩, ?_⟩
        · exact List.all_eq_true.mp List.all_takeWhile
        · rw [List.cons_append, List.cons_append, List.append_assoc, List.singleton_append, ← hdrop,
            List.takeWhile_append_dropWhile]
      · cases h
    · cases h
  · rintro ⟨_, ⟨parameters, hparameters, rfl⟩, rfl⟩
    have hdrop : (parameters ++ ['m'] ++ after).dropWhile isParameter = 'm' :: after := by
      rw [List.append_assoc, List.dropWhile_append_of_pos hparameters]
      exact List.dropWhile_cons_of_neg (by decide)
    simp only [afterColour?, List.cons_append, hdrop]

theorem length_of_afterColour? {cs after : List Char} (h : afterColour? cs = some after) :
    after.length < cs.length := by
  obtain ⟨_, ⟨parameters, -, rfl⟩, rfl⟩ := afterColour?_eq_some_iff.mp h
  simp only [List.length_cons, List.length_append]
  omega

/-- Deletes the colour sequences of a text. -/
def uncoloured : List Char → List Char
  | [] => []
  | c :: rest =>
    match _h : afterColour? (c :: rest) with
    | some after => uncoloured after
    | none => c :: uncoloured rest
termination_by cs => cs.length
decreasing_by
  · exact length_of_afterColour? _h
  · exact Nat.lt_succ_self _

/-- The text without its colour sequences. -/
def withoutColours (text : String) : String := String.ofList (uncoloured text.toList)

theorem uncoloured_of_colour {sequence : List Char} (h : IsColour sequence) (rest : List Char) :
    uncoloured (sequence ++ rest) = uncoloured rest := by
  have hafter : afterColour? (sequence ++ rest) = some rest :=
    afterColour?_eq_some_iff.mpr ⟨sequence, h, rfl⟩
  obtain ⟨parameters, -, rfl⟩ := h
  rw [List.cons_append] at hafter ⊢
  rw [uncoloured]
  split
  · next h => rw [Option.some.inj (h.symm.trans hafter)]
  · next h => cases h.symm.trans hafter

theorem uncoloured_cons {c : Char} {rest : List Char} (h : afterColour? (c :: rest) = none) :
    uncoloured (c :: rest) = c :: uncoloured rest := by
  rw [uncoloured]
  split
  · next h' => cases h'.symm.trans h
  · rfl

theorem uncoloured_sublist (cs : List Char) : (uncoloured cs).Sublist cs := by
  fun_induction uncoloured cs with
  | case1 => exact .slnil
  | case2 c rest after h ih =>
    obtain ⟨sequence, -, heq⟩ := afterColour?_eq_some_iff.mp h
    rw [heq]
    exact ih.trans (List.sublist_append_right sequence after)
  | case3 c rest _ ih => exact ih.cons_cons c

/-! ## Lines -/

/-- The lines of a text. -/
def lines (text : String) : List String := (text.toList.splitOn '\n').map String.ofList

theorem IsColour.newline_not_mem {sequence : List Char} (h : IsColour sequence) :
    '\n' ∉ sequence := by
  obtain ⟨parameters, hparameters, rfl⟩ := h
  have hnewline : '\n' ∉ parameters := fun hmem => absurd (hparameters _ hmem) (by decide)
  simp [hnewline]

/-- A sequence that starts in a line ends in it. -/
theorem afterColour?_newline (cs ds : List Char) :
    afterColour? (cs ++ '\n' :: ds) = (afterColour? cs).map (· ++ '\n' :: ds) := by
  ext after
  rw [Option.map_eq_some_iff]
  constructor
  · intro h
    obtain ⟨sequence, hsequence, heq⟩ := afterColour?_eq_some_iff.mp h
    rcases List.append_eq_append_iff.mp heq with ⟨inner, hinner, hrest⟩ | ⟨rest, hcs, hafter⟩
    · -- the sequence has to end where the line does
      cases inner with
      | nil =>
        refine ⟨[], afterColour?_eq_some_iff.mpr ⟨sequence, hsequence, ?_⟩, hrest⟩
        rw [hinner, List.append_nil, List.append_nil]
      | cons c inner =>
        obtain ⟨rfl, -⟩ := List.cons.inj hrest
        exact absurd (hinner ▸ by simp) hsequence.newline_not_mem
    · exact ⟨rest, afterColour?_eq_some_iff.mpr ⟨sequence, hsequence, hcs⟩, hafter.symm⟩
  · rintro ⟨rest, h, rfl⟩
    obtain ⟨sequence, hsequence, rfl⟩ := afterColour?_eq_some_iff.mp h
    exact afterColour?_eq_some_iff.mpr ⟨sequence, hsequence, List.append_assoc ..⟩

theorem uncoloured_newline (cs ds : List Char) :
    uncoloured (cs ++ '\n' :: ds) = uncoloured cs ++ '\n' :: uncoloured ds := by
  fun_induction uncoloured cs with
  | case1 => exact uncoloured_cons rfl
  | case2 c rest after h ih =>
    obtain ⟨sequence, hsequence, heq⟩ := afterColour?_eq_some_iff.mp h
    rw [heq, List.append_assoc, uncoloured_of_colour hsequence, ih]
  | case3 c rest h ih =>
    have hnone := afterColour?_newline (c :: rest) ds
    rw [h, Option.map_none, List.cons_append] at hnone
    rw [List.cons_append, uncoloured_cons hnone, ih, List.cons_append]

/-- To delete the sequences line by line is to delete them from the whole. -/
theorem splitOn_uncoloured (cs : List Char) :
    (uncoloured cs).splitOn '\n' = (cs.splitOn '\n').map uncoloured := by
  by_cases hmem : '\n' ∈ cs
  · obtain ⟨line, rest, heq, -⟩ := List.eq_append_cons_of_mem hmem
    rw [heq, uncoloured_newline, List.splitOn_append_cons_self, List.splitOn_append_cons_self,
      List.map_append, splitOn_uncoloured line, splitOn_uncoloured rest]
  · have hleft : '\n' ∉ uncoloured cs := fun h => hmem ((uncoloured_sublist cs).mem h)
    rw [List.splitOn_eq_singleton hmem, List.splitOn_eq_singleton hleft]
    rfl
termination_by cs.length
decreasing_by
  all_goals
    rw [heq, List.length_append, List.length_cons]
    omega

theorem lines_withoutColours (text : String) :
    lines (withoutColours text) = (lines text).map withoutColours := by
  simp only [lines, withoutColours, String.toList_ofList, splitOn_uncoloured, List.map_map,
    Function.comp_def]

/-! ## Texts without sequences of their own -/

/-- A text that starts no control sequence. -/
def EscapeFree (text : String) : Prop := '\x1b' ∉ text.toList

instance (text : String) : Decidable (EscapeFree text) := inferInstanceAs (Decidable (¬ _))

@[simp]
theorem escapeFree_append {a b : String} : EscapeFree (a ++ b) ↔ EscapeFree a ∧ EscapeFree b := by
  rw [EscapeFree, String.toList_append, List.mem_append, not_or, EscapeFree, EscapeFree]

theorem uncoloured_of_not_mem {cs : List Char} (h : '\x1b' ∉ cs) (rest : List Char) :
    uncoloured (cs ++ rest) = cs ++ uncoloured rest := by
  induction cs with
  | nil => rfl
  | cons c cs ih =>
    rw [List.mem_cons, not_or] at h
    obtain ⟨hc, hcs⟩ := h
    have hnone : afterColour? (c :: (cs ++ rest)) = none := by
      rw [Option.eq_none_iff_forall_ne_some]
      intro after hafter
      obtain ⟨_, ⟨parameters, -, rfl⟩, heq⟩ := afterColour?_eq_some_iff.mp hafter
      exact hc (List.cons.inj heq).1.symm
    rw [List.cons_append, uncoloured_cons hnone, ih hcs, List.cons_append]

/-! ## Pages -/

theorem uncoloured_control {code : String} (h : code.toList.all isParameter = true)
    (rest : List Char) : uncoloured ((control code).toList ++ rest) = uncoloured rest := by
  refine uncoloured_of_colour ⟨code.toList, List.all_eq_true.mp h, ?_⟩ rest
  rw [control, String.toList_append, String.toList_append]
  rfl

theorem uncoloured_opening (style : Style) (rest : List Char) :
    uncoloured (style.opening.toList ++ rest) = uncoloured rest := by
  cases style <;> simp (disch := decide) only [Style.opening, String.toList_append,
    String.toList_empty, List.append_assoc, List.nil_append, uncoloured_control]

theorem uncoloured_closing (style : Style) (rest : List Char) :
    uncoloured (style.closing.toList ++ rest) = uncoloured rest := by
  cases style <;> simp (disch := decide) only [Style.closing, String.toList_append,
    String.toList_empty, List.append_assoc, List.nil_append, uncoloured_control]

theorem uncoloured_span {span : Span} (h : EscapeFree span.text) (rest : List Char) :
    uncoloured ((span.render true).toList ++ rest) = span.text.toList ++ uncoloured rest := by
  have hrender : span.render true = span.style.opening ++ span.text ++ span.style.closing := rfl
  rw [hrender, String.toList_append, String.toList_append, List.append_assoc, List.append_assoc,
    uncoloured_opening, uncoloured_of_not_mem h, uncoloured_closing]

theorem toList_render (coloured : Bool) (page : List Span) :
    (render coloured page).toList = page.flatMap fun span => (span.render coloured).toList := by
  rw [render, String.toList_join, List.flatMap_map]

/-- What is left of a page with colours is the plain page. -/
theorem uncoloured_render {page : List Span} (h : ∀ span ∈ page, EscapeFree span.text) :
    uncoloured (render true page).toList = (render false page).toList := by
  rw [toList_render, toList_render]
  induction page with
  | nil => exact uncoloured.eq_1
  | cons span page ih =>
    have hpage : ∀ span ∈ page, EscapeFree span.text :=
      fun other hother => h other (List.mem_cons_of_mem span hother)
    rw [List.flatMap_cons, List.flatMap_cons, uncoloured_span (h span List.mem_cons_self), ih hpage]
    rfl

theorem escapeFree_render {page : List Span} (h : ∀ span ∈ page, EscapeFree span.text) :
    EscapeFree (render false page) := by
  rw [EscapeFree, toList_render, List.mem_flatMap]
  rintro ⟨span, hspan, hmem⟩
  exact h span hspan hmem

/-- Colours add nothing to a page but their sequences: without these it is the plain page, as a
    whole and line by line, and the plain page has no sequences at all. -/
structure OnlyDecorated (page : List Span) : Prop where
  content : withoutColours (render true page) = render false page
  lines : (lines (render true page)).map withoutColours = lines (render false page)
  escapeFree : EscapeFree (render false page)

theorem onlyDecorated_of_escapeFree {page : List Span}
    (h : ∀ span ∈ page, EscapeFree span.text) : OnlyDecorated page := by
  have hcontent : withoutColours (render true page) = render false page := by
    rw [withoutColours, uncoloured_render h, String.ofList_toList]
  refine ⟨hcontent, ?_, escapeFree_render h⟩
  rw [← lines_withoutColours, hcontent]

end CubeQuery.Terminal
