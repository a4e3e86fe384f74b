import CubeQuery.Proofs.CommandLine.Runs
import CubeQuery.Proofs.Filter.Decision
import CubeQuery.Proofs.Json.Reading

/-!
# Replies in print

What a run prints, character by character: for programs a text that reads as a
document, and for people a page, with colours or without.

* `Run.Prints`: the run succeeds, with a document and a page.
* `Run.Refuses`: the run fails, with a code and a message.
* `prints_of_added`, `prints_of_removed`, `prints_of_compiled`, `prints_of_card`:
  the replies about a card index and the filters of cards.
* `refuses_of_notFound`: the reason why nothing is removed.
-/

namespace CubeQuery

open Terminal (Span plain)

/-! ## Pages -/

/-- A text in bold. -/
def bold (coloured : Bool) (text : String) : String :=
  if coloured then "\x1b[1m" ++ text ++ "\x1b[0m" else text

/-- A text in cyan. -/
def cyan (coloured : Bool) (text : String) : String :=
  if coloured then "\x1b[36m" ++ text ++ "\x1b[39m" else text

/-- A text in bold green. -/
def boldGreen (coloured : Bool) (text : String) : String :=
  if coloured then "\x1b[1m\x1b[32m" ++ text ++ "\x1b[39m\x1b[0m" else text

theorem render_strong (coloured : Bool) (text : String) :
    Span.render coloured ⟨.strong, text⟩ = bold coloured text := by
  cases coloured <;> rfl

theorem render_accent (coloured : Bool) (text : String) :
    Span.render coloured ⟨.accent, text⟩ = cyan coloured text := by
  cases coloured <;> rfl

theorem render_heading (coloured : Bool) (text : String) :
    Span.render coloured ⟨.heading, text⟩ = boldGreen coloured text := by
  cases coloured <;> rfl

/-- A card and its cubes in print. -/
def printedCard (coloured : Bool) (card : String) (cubes : List String) : String :=
  bold coloured card ++ "\n" ++
    if cubes = [] then "  (not in any cube)\n"
    else String.join (cubes.map fun cube => "  " ++ cube ++ "\n")

theorem render_cardPage (coloured : Bool) (card : String) (cubes : TextSet) :
    Terminal.render coloured (cardPage card cubes) = printedCard coloured card cubes.toList := by
  have hcubes : Terminal.render coloured (cubes.toList.map indented) =
      String.join (cubes.toList.map fun cube => "  " ++ cube ++ "\n") :=
    Terminal.render_map_plain coloured _ cubes.toList
  rw [cardPage, printedCard, Terminal.render_append, Terminal.render_append, hcubes,
    TextSet.isEmpty]
  cases cubes.toList <;> simp [render_strong, indented]

/-- The filter of a card in print, with the text of its query. -/
def printedFilter (coloured : Bool) (query : String) : String :=
  boldGreen coloured "Query" ++ "\n" ++ query ++ "\n\n" ++
    boldGreen coloured "Fields used" ++ "\n" ++ "  " ++ cyan coloured "card" ++ "\n"

theorem render_filterPage (coloured : Bool) (comparison : Comparison) :
    Terminal.render coloured (filterPage (Filter.ofComparison comparison "card")) =
      printedFilter coloured comparison.document.render := by
  have hused : (TextSet.ofList ["card"]).toList = ["card"] := rfl
  simp [filterPage, printedFilter, Filter.ofComparison, Predicate.document, hused, render_heading,
    render_accent, String.append_assoc, -String.reduceAppend]

namespace Run

/-- Whether the replies to the run are coloured: unless it or its settings decline. -/
def isColoured (run : Run) : Bool :=
  run.settings.colour.getD true && !run.invocation.presentation.noColour

variable [Wording]

/-! ## Success and failure -/

/-- The run succeeds. For programs it prints a text that reads as the document, and for people
    it prints the page, unless it is to be quiet. -/
structure Prints (run : Run) (document : Json) (page : String) : Prop where
  exitCode : run.ending.1.exitCode = 0
  forPrograms : run.invocation.presentation.json = true →
    ∃ text, Json.read text = .ok document ∧ run.ending.1.stdout = text ++ "\n"
  forPeople : run.invocation.presentation.json = false →
    run.invocation.presentation.quiet = false → run.ending.1.stdout = page
  quietly : run.invocation.presentation.json = false →
    run.invocation.presentation.quiet = true → run.ending.1.stdout = ""

/-- The run fails and prints no reply. After its log, it tells why. -/
structure Refuses (run : Run) (exitCode : Nat) (code message : String) : Prop where
  exitCode : run.ending.1.exitCode = exitCode
  stdout : run.ending.1.stdout = ""
  forPrograms : run.invocation.presentation.json = true → ∃ log text,
    Json.read text = .ok (.object [("error",
      .object [("code", .text code), ("message", .text message)])]) ∧
    run.ending.1.stderr = log ++ (text ++ "\n")
  forPeople : run.invocation.presentation.json = false → ∃ log,
    run.ending.1.stderr = log ++ ("Error: " ++ message ++ "\n")

variable {run : Run} {files : FileTree}

/-- A reply with a document is printed as that or as its page. -/
theorem EndsWith.prints {reply : Reply} {document : Json} (h : run.EndsWith (.ok reply) files)
    (hdocument : reply.document? = some document) (hspares : reply.isEssential = false) :
    run.Prints document (Terminal.render run.isColoured reply.page) := by
  have hcode := h.exitCode_of_ok
  obtain ⟨log, hending⟩ := h
  have hstdout : run.ending.1.stdout =
      reply.shown run.invocation.presentation (run.settings.colour.getD true) := by
    rw [hending]
    rfl
  constructor
  case exitCode => exact hcode
  case forPrograms =>
    intro hjson
    refine ⟨document.render, Json.read_render document, ?_⟩
    rw [hstdout, Reply.shown, hjson, hdocument]
  case forPeople =>
    intro hjson hquiet
    rw [hstdout, Reply.shown, hjson, hquiet]
    rfl
  case quietly =>
    intro hjson hquiet
    rw [hstdout, Reply.shown, hjson, hquiet, hspares]
    rfl

/-- A failure that is no answer is told after the log. -/
theorem EndsWith.refuses {failure : Failure} (h : run.EndsWith (.error failure) files)
    (hother : ∀ cause, failure ≠ .filter cause) :
    run.Refuses failure.exitCode failure.code failure.message := by
  have hcode := h.exitCode_of_error
  obtain ⟨log, hending⟩ := h
  have hprograms : run.invocation.presentation.json = true → run.ending.1 =
      ⟨failure.exitCode, "", log ++ (failure.document.render ++ "\n")⟩ := by
    intro hjson
    rw [hending, Outcome.output]
    cases failure with
    | filter cause => exact absurd rfl (hother cause)
    | _ => simp [Failure.output, hjson]
  have hpeople : run.invocation.presentation.json = false → run.ending.1 =
      ⟨failure.exitCode, "", log ++ ("Error: " ++ failure.message ++ "\n")⟩ := by
    intro hjson
    rw [hending]
    simp [Outcome.output, Failure.output, hjson]
  constructor
  case exitCode => exact hcode
  case stdout =>
    cases hjson : run.invocation.presentation.json with
    | true => rw [hprograms hjson]
    | false => rw [hpeople hjson]
  case forPrograms =>
    intro hjson
    exact ⟨log, _, Json.read_render failure.document, by rw [hprograms hjson]⟩
  case forPeople =>
    intro hjson
    exact ⟨log, by rw [hpeople hjson]⟩

/-! ## Edits -/

/-- Cubes that were added are counted, and those that the card now has are listed. -/
theorem prints_of_added {card : String} {count : Nat} {cubes : TextSet}
    (h : run.EndsWith (.ok (.added card count (some cubes))) files) :
    run.Prints
      (.object [("added", .int count), ("card", .text card), ("cubes", .texts cubes.toList),
        ("status", .text "success")])
      ("Added " ++ toString count ++ " cube(s) to '" ++ card ++ "'\n") := by
  simpa [Reply.page] using h.prints rfl rfl

/-- Cubes that were removed are counted. -/
theorem prints_of_removed {card : String} {count : Nat}
    (h : run.EndsWith (.ok (.removed card count)) files) :
    run.Prints
      (.object [("card", .text card), ("removed", .int count), ("status", .text "success")])
      ("Removed " ++ toString count ++ " cube(s) from '" ++ card ++ "'\n") := by
  simpa [Reply.page] using h.prints rfl rfl

/-- When nothing is removed, the card is named. -/
theorem refuses_of_notFound {card : String} (h : run.EndsWith (.error (.notFound card)) files) :
    run.Refuses 1 "NOT_FOUND" ("card '" ++ card ++ "' has no matching entries in the index") :=
  h.refuses nofun

/-! ## Cards and filters -/

/-- A card is shown with its cubes. -/
theorem prints_of_card {card : String} {cubes : TextSet}
    (h : run.EndsWith (.ok (.card card cubes)) files) :
    run.Prints (.object [("card", .text card), ("cubes", .texts cubes.toList)])
      (printedCard run.isColoured card cubes.toList) := by
  rw [← render_cardPage]
  exact h.prints rfl rfl

/-- The query of the filter is shown as a text that reads as its document. -/
theorem prints_of_compiled {cubes : TextSet}
    (h : run.EndsWith (.ok (.compiled
      (Filter.ofComparison ⟨"_id", .oneOf, .set cubes, false⟩ "card"))) files) :
    ∃ query, Json.read query =
        .ok (.object [("_id", .object [("$in", .texts cubes.toList)])]) ∧
      run.Prints
        (.object [("err", .null), ("filter", .object [
          ("query", .object [("_id", .object [("$in", .texts cubes.toList)])]),
          ("fieldsUsed", .texts ["card"])])])
        (printedFilter run.isColoured query) := by
  refine ⟨_, Json.read_render _, ?_⟩
  have hprints := h.prints rfl rfl
  rw [Reply.page, render_filterPage] at hprints
  exact hprints

end Run

end CubeQuery
