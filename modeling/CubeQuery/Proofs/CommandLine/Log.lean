import CubeQuery.CommandLine.Log
import Mathlib.Tactic.SplitIfs

/-!
# What a log shows

A log shows the events that one of its directives asks for, and a warning for
each part of its specification that cannot be read.

* `LogFilter.isSilent_of_levels`: without a directive for events, no event is shown.
* `LogFilter.warnings_ofRun_eq_empty_iff`: there are no warnings if and only if the
  specification is one that can be read.
-/

namespace CubeQuery

namespace LogFilter

/-! ## Events -/

/-- No event is shown. -/
def IsSilent (log : LogFilter) : Prop := ∀ event, log.shows event = false

theorem IsSilent.lines_eq {log : LogFilter} (h : log.IsSilent) (events : List Event) :
    log.lines events = "" := by
  have hnone : events.filter log.shows = [] := by
    rw [List.filter_eq_nil_iff]
    intro event _
    simp [h event]
  rw [lines, hnone]
  rfl

theorem foldl_heavier_mem (first : Directive) (rest : List Directive) :
    rest.foldl heavier first ∈ first :: rest := by
  induction rest generalizing first with
  | nil => exact List.mem_singleton_self first
  | cons second rest ih =>
    have hchosen : heavier first second = first ∨ heavier first second = second := by
      unfold heavier
      split_ifs <;> simp
    rcases hchosen with h | h <;> rw [List.foldl_cons, h]
    · exact List.cons_subset_cons first (List.subset_cons_self second rest) (ih first)
    · exact List.mem_cons_of_mem first (ih second)

/-- The directive that decides is one of those that were given. -/
theorem mem_of_deciding? {log : LogFilter} {origin : String} {directive : Directive}
    (h : log.deciding? origin = some directive) : directive ∈ log.directives := by
  rw [deciding?] at h
  split at h
  · cases h
  · next first rest happlicable =>
    cases h
    have hmem := foldl_heavier_mem first rest
    rw [← happlicable] at hmem
    exact (List.mem_filter.mp hmem).1

theorem isSilent_of_levels {log : LogFilter}
    (h : ∀ directive ∈ log.directives, directive.level.showsEvents = false) : log.IsSilent := by
  intro event
  rw [shows]
  cases hdeciding : log.deciding? event.origin with
  | none => rfl
  | some directive => simp [h directive (mem_of_deciding? hdeciding)]

/-- Without a specification, events are shown only if the flags ask for them. -/
theorem isSilent_ofRun {env : Environment} {presentation : Presentation}
    (hlogging : env.logging = none) (hverbose : presentation.verbose = false) :
    (ofRun env presentation).IsSilent := by
  refine isSilent_of_levels fun directive hdirective => ?_
  simp only [ofRun, hlogging, List.mem_singleton] at hdirective
  subst hdirective
  simp only [levelOf, hverbose, Bool.false_eq_true, if_false]
  split_ifs <;> rfl

/-! ## Warnings -/

/-- The text is blank, or it is that of a directive. -/
def IsReadableText (text : String) : Prop :=
  let trimmed := String.ofList (Text.trim text.toList)
  trimmed.isEmpty = true ∨ ∃ directive, Directive.ofText trimmed = .ok directive

/-- All parts of a list of directives can be read. -/
def AreReadable (directives : String) : Prop :=
  ∀ text ∈ directives.splitOn ",", IsReadableText text

/-- The specification is a list of directives, perhaps with an expression after a slash. -/
def IsReadable (specification : String) : Prop :=
  match specification.splitOn "/" with
  | [directives] => AreReadable directives
  | [directives, pattern] =>
    AreReadable directives ∧ ∃ regex, Regex.ofPattern pattern = .ok regex
  | _ => False

theorem complaints_addText (log : LogFilter) (text : String) :
    (log.addText text).complaints = [] ↔ log.complaints = [] ∧ IsReadableText text := by
  rw [addText, IsReadableText]
  split_ifs with hblank
  · simp [hblank]
  · cases hdirective : Directive.ofText (String.ofList (Text.trim text.toList)) with
    | ok directive => simp [add]
    | error complaint => simp [complain, hblank]

theorem complaints_foldl_addText (log : LogFilter) (texts : List String) :
    (texts.foldl addText log).complaints = [] ↔
      log.complaints = [] ∧ ∀ text ∈ texts, IsReadableText text := by
  induction texts generalizing log with
  | nil => simp
  | cons text texts ih =>
    rw [List.foldl_cons, ih, complaints_addText, List.forall_mem_cons, and_assoc]

theorem complaints_addDirectives (log : LogFilter) (directives : String) :
    (log.addDirectives directives).complaints = [] ↔
      log.complaints = [] ∧ AreReadable directives :=
  complaints_foldl_addText log _

theorem complaints_addPattern (log : LogFilter) (pattern : String) :
    (log.addPattern pattern).complaints = [] ↔
      log.complaints = [] ∧ ∃ regex, Regex.ofPattern pattern = .ok regex := by
  rw [addPattern]
  cases Regex.ofPattern pattern <;> simp [complain]

theorem complaints_addSpecification (log : LogFilter) (specification : String) :
    (log.addSpecification specification).complaints = [] ↔
      log.complaints = [] ∧ IsReadable specification := by
  rw [addSpecification, IsReadable]
  generalize specification.splitOn "/" = parts
  match parts with
  | [directives] => exact complaints_addDirectives log directives
  | [directives, pattern] =>
    rw [complaints_addPattern, complaints_addDirectives, and_assoc]
  | [] => simp [complain]
  | _ :: _ :: _ :: _ => simp [complain]

theorem warnings_eq_empty_iff (log : LogFilter) : log.warnings = "" ↔ log.complaints = [] := by
  rw [warnings]
  cases log.complaints with
  | nil => simp
  | cons complaint complaints => simp

/-- A run warns of its specification if and only if it cannot be read. -/
theorem warnings_ofRun_eq_empty_iff (env : Environment) (presentation : Presentation) :
    (ofRun env presentation).warnings = "" ↔
      ∀ specification, env.logging = some specification → IsReadable specification := by
  rw [warnings_eq_empty_iff, ofRun]
  cases env.logging with
  | none => simp
  | some specification => simp [complaints_addSpecification]

end LogFilter

end CubeQuery
