/-!
# Pages for a terminal

A page is a list of spans of text, each in a style. The same page is printed
with colours, where a style is a pair of control sequences around its text, or
plainly, where it is nothing.
-/

namespace CubeQuery.Terminal

/-- How a span of text stands out. -/
inductive Style where
  | plain
  | heading
  | accent
  | strong
  | faint
  | calm
  | muted
deriving DecidableEq

/-- A control sequence with its number. -/
def control (code : String) : String := "\x1b[" ++ code ++ "m"

/-- What is sent before a text in the style. -/
def Style.opening : Style → String
  | .plain => ""
  | .heading => control "1" ++ control "32"
  | .accent => control "36"
  | .strong => control "1"
  | .faint => control "2"
  | .calm => control "34"
  | .muted => control "90"

/-- What is sent after a text in the style. -/
def Style.closing : Style → String
  | .plain => ""
  | .heading => control "39" ++ control "0"
  | .accent => control "39"
  | .strong => control "0"
  | .faint => control "0"
  | .calm => control "0"
  | .muted => control "0"

/-- A text in a style. -/
structure Span where
  style : Style
  text : String

/-- A text without a style. -/
def plain (text : String) : Span := ⟨.plain, text⟩

/-- The span as it is sent to the terminal. -/
def Span.render (coloured : Bool) (span : Span) : String :=
  if coloured then span.style.opening ++ span.text ++ span.style.closing else span.text

/-- The text of a whole page. -/
def render (coloured : Bool) (page : List Span) : String :=
  String.join (page.map (Span.render coloured))

/-! ## Parts of pages -/

@[simp]
theorem render_nil (coloured : Bool) : render coloured [] = "" := rfl

@[simp]
theorem render_cons (coloured : Bool) (span : Span) (page : List Span) :
    render coloured (span :: page) = span.render coloured ++ render coloured page := by
  rw [render, List.map_cons, String.join_cons, render]

@[simp]
theorem render_append (coloured : Bool) (page page' : List Span) :
    render coloured (page ++ page') = render coloured page ++ render coloured page' := by
  induction page with
  | nil => simp
  | cons span page ih => simp [ih, String.append_assoc]

/-- Colours have no part in a text without a style. -/
@[simp]
theorem render_plain (coloured : Bool) (text : String) : (plain text).render coloured = text := by
  cases coloured
  · rfl
  · show "" ++ text ++ "" = text
    rw [String.empty_append, String.append_empty]

theorem render_map_plain {α : Type} (coloured : Bool) (text : α → String) (items : List α) :
    render coloured (items.map fun item => plain (text item)) = String.join (items.map text) := by
  induction items with
  | nil => rfl
  | cons item items ih => simp [ih]

end CubeQuery.Terminal
