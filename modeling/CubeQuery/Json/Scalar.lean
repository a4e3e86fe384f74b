import CubeQuery.Json.Fault
import CubeQuery.Text.Blank
import CubeQuery.Text.Hex

/-!
# Texts, numbers and words in JSON

Readers of the parts of a JSON text that hold no other values. Each takes the
characters that are left and returns what remains after the part. What remains
is shorter, which the lemmas named `…_shorter` say.

A part can be read or skipped. Skipping is more lenient: a skipped text may hold
half of a surrogate pair, and a skipped number may be of any size.
-/

namespace CubeQuery.Json

/-- A character between the tokens of a text. -/
def isSpace (c : Char) : Bool := c == ' ' || c == '\n' || c == '\t' || c == '\r'

/-- Passes over space. -/
def skipSpace (cs : List Char) : List Char := cs.dropWhile isSpace

theorem skipSpace_length_le (cs : List Char) : (skipSpace cs).length ≤ cs.length :=
  (List.dropWhile_sublist isSpace).length_le

/-! ## Words -/

/-- Reads the rest of a word of which the first letter has been read. -/
def skipWord : List Char → List Char → Except Fault (List Char)
  | [], cs => .ok cs
  | _ :: _, [] => .error .truncated
  | w :: word, c :: cs => if c = w then skipWord word cs else .error .malformed

theorem skipWord_length_le {word cs rest : List Char} (h : skipWord word cs = .ok rest) :
    rest.length ≤ cs.length := by
  fun_induction skipWord word cs <;> grind

/-! ## Texts -/

/-- Reads the four digits of an escape. The text ends too early only if it has not
    even four bytes left. -/
def readHex (cs : List Char) : Except Fault (Nat × List Char) :=
  match cs with
  | a :: b :: c :: d :: rest =>
    match Text.hexNumber? [a, b, c, d] with
    | some n => .ok (n, rest)
    | none => .error .malformed
  | short => if Text.width short < 4 then .error .truncated else .error .malformed

theorem readHex_shorter {cs rest : List Char} {n : Nat} (h : readHex cs = .ok (n, rest)) :
    rest.length < cs.length := by
  unfold readHex at h
  grind

/-- The character that an escape of one letter stands for. -/
def shortEscape? (c : Char) : Option Char :=
  match c with
  | '"' => some '"'
  | '\\' => some '\\'
  | '/' => some '/'
  | 'b' => some '\x08'
  | 'f' => some '\x0c'
  | 'n' => some '\n'
  | 'r' => some '\r'
  | 't' => some '\t'
  | _ => none

/-- The first half of a pair of escapes. -/
def isHighHalf (n : Nat) : Bool := 0xD800 ≤ n && n ≤ 0xDBFF

/-- The second half of a pair of escapes. -/
def isLowHalf (n : Nat) : Bool := 0xDC00 ≤ n && n ≤ 0xDFFF

/-- The character of a pair of halves. -/
def joinHalves (high low : Nat) : Char :=
  Char.ofNat (0x10000 + (high - 0xD800) * 0x400 + (low - 0xDC00))

/-- Reads the second half of a pair, an escape of its own. -/
def readLowHalf (high : Nat) (cs : List Char) : Except Fault (Char × List Char) :=
  match cs with
  | [] => .error .truncated
  | '\\' :: [] => .error .truncated
  | '\\' :: 'u' :: rest =>
    match readHex rest with
    | .error e => .error e
    | .ok (low, rest') =>
      if isLowHalf low then .ok (joinHalves high low, rest') else .error .malformed
  | _ => .error .malformed

theorem readLowHalf_shorter {high : Nat} {cs rest : List Char} {c : Char}
    (h : readLowHalf high cs = .ok (c, rest)) : rest.length < cs.length := by
  unfold readLowHalf at h
  split at h
  · simp at h
  · simp at h
  · split at h
    · simp at h
    · next hx =>
      have := readHex_shorter hx
      grind
  · simp at h

/-- Reads an escape whose backslash has been read. -/
def readEscape (cs : List Char) : Except Fault (Char × List Char) :=
  match cs with
  | [] => .error .truncated
  | 'u' :: rest =>
    match readHex rest with
    | .error e => .error e
    | .ok (n, rest') =>
      if isLowHalf n then .error .malformed
      else if isHighHalf n then readLowHalf n rest'
      else .ok (Char.ofNat n, rest')
  | c :: rest =>
    match shortEscape? c with
    | some d => .ok (d, rest)
    | none => .error .malformed

theorem readEscape_shorter {cs rest : List Char} {c : Char}
    (h : readEscape cs = .ok (c, rest)) : rest.length < cs.length := by
  unfold readEscape at h
  split at h
  · simp at h
  · split at h
    · simp at h
    · next hx =>
      have := readHex_shorter hx
      split at h
      · simp at h
      · split at h
        · have := readLowHalf_shorter h
          grind
        · grind
  · grind

/-- Reads a text whose opening quote has been read. -/
def readText (cs : List Char) : Except Fault (List Char × List Char) :=
  match cs with
  | [] => .error .truncated
  | c :: rest =>
    if c = '"' then .ok ([], rest)
    else if c = '\\' then
      match h : readEscape rest with
      | .error e => .error e
      | .ok (d, rest') =>
        have := readEscape_shorter h
        match readText rest' with
        | .error e => .error e
        | .ok (content, left) => .ok (d :: content, left)
    else if c.toNat < 0x20 then .error .malformed
    else
      match readText rest with
      | .error e => .error e
      | .ok (content, left) => .ok (c :: content, left)
termination_by cs.length
decreasing_by all_goals grind

theorem readText_shorter {cs content rest : List Char} (h : readText cs = .ok (content, rest)) :
    rest.length < cs.length := by
  fun_induction readText cs generalizing content rest <;> grind

/-- Passes over an escape whose backslash has been read. -/
def skipEscape (cs : List Char) : Except Fault (List Char) :=
  match cs with
  | [] => .error .truncated
  | 'u' :: rest => (readHex rest).map (·.2)
  | c :: rest => if (shortEscape? c).isSome then .ok rest else .error .malformed

theorem skipEscape_shorter {cs rest : List Char} (h : skipEscape cs = .ok rest) :
    rest.length < cs.length := by
  unfold skipEscape at h
  split at h
  · simp at h
  · next tail =>
    cases hx : readHex tail with
    | error e => simp [hx, Except.map] at h
    | ok p =>
      obtain ⟨n, left⟩ := p
      have := readHex_shorter hx
      simp [hx, Except.map] at h
      grind
  · grind

/-- Passes over a text whose opening quote has been read. -/
def skipText (cs : List Char) : Except Fault (List Char) :=
  match cs with
  | [] => .error .truncated
  | c :: rest =>
    if c = '"' then .ok rest
    else if c = '\\' then
      match h : skipEscape rest with
      | .error e => .error e
      | .ok rest' =>
        have := skipEscape_shorter h
        skipText rest'
    else if c.toNat < 0x20 then .error .malformed
    else skipText rest
termination_by cs.length
decreasing_by all_goals grind

theorem skipText_shorter {cs rest : List Char} (h : skipText cs = .ok rest) :
    rest.length < cs.length := by
  fun_induction skipText cs <;> grind

/-! ## Numbers -/

/-- Passes over digits. -/
def skipDigits (cs : List Char) : List Char := cs.dropWhile Char.isDigit

theorem skipDigits_length_le (cs : List Char) : (skipDigits cs).length ≤ cs.length :=
  (List.dropWhile_sublist Char.isDigit).length_le

/-- Passes over one digit or more. -/
def skipSomeDigits (cs : List Char) : Except Fault (List Char) :=
  match cs with
  | c :: rest => if c.isDigit then .ok (skipDigits rest) else .error .malformed
  | [] => .error .malformed

/-- Passes over the sign of an exponent. -/
def skipSign (cs : List Char) : List Char :=
  match cs with
  | c :: rest => if c = '+' ∨ c = '-' then rest else cs
  | [] => cs

/-- Passes over an exponent, if there is one. -/
def skipExponent (cs : List Char) : Except Fault (List Char) :=
  match cs with
  | c :: rest => if c = 'e' ∨ c = 'E' then skipSomeDigits (skipSign rest) else .ok cs
  | [] => .ok cs

/-- Passes over a fraction and an exponent, if there are any. -/
def skipFraction (cs : List Char) : Except Fault (List Char) :=
  match cs with
  | '.' :: rest =>
    match skipSomeDigits rest with
    | .error e => .error e
    | .ok rest' => skipExponent rest'
  | _ => skipExponent cs

/-- Passes over a number without its sign. Only zero starts with a zero. -/
def skipNumber (cs : List Char) : Except Fault (List Char) :=
  match cs with
  | '0' :: rest =>
    match rest with
    | c :: _ => if c.isDigit then .error .malformed else skipFraction rest
    | [] => .ok rest
  | c :: rest => if c.isDigit then skipFraction (skipDigits rest) else .error .malformed
  | [] => .error .malformed

theorem skipSomeDigits_shorter {cs rest : List Char} (h : skipSomeDigits cs = .ok rest) :
    rest.length < cs.length := by
  unfold skipSomeDigits at h
  split at h
  · next c tail =>
    have := skipDigits_length_le tail
    grind
  · simp at h

theorem skipSign_length_le (cs : List Char) : (skipSign cs).length ≤ cs.length := by
  unfold skipSign
  grind

theorem skipExponent_length_le {cs rest : List Char} (h : skipExponent cs = .ok rest) :
    rest.length ≤ cs.length := by
  unfold skipExponent at h
  split at h
  · next c tail =>
    split at h
    · have := skipSomeDigits_shorter h
      have := skipSign_length_le tail
      grind
    · grind
  · grind

theorem skipFraction_length_le {cs rest : List Char} (h : skipFraction cs = .ok rest) :
    rest.length ≤ cs.length := by
  unfold skipFraction at h
  split at h
  · next tail =>
    cases hd : skipSomeDigits tail with
    | error e => simp [hd] at h
    | ok left =>
      have := skipSomeDigits_shorter hd
      rw [hd] at h
      have := skipExponent_length_le h
      grind
  · exact skipExponent_length_le h

theorem skipNumber_shorter {cs rest : List Char} (h : skipNumber cs = .ok rest) :
    rest.length < cs.length := by
  unfold skipNumber at h
  split at h
  · next tail =>
    split at h
    · split at h
      · simp at h
      · have := skipFraction_length_le h
        grind
    · grind
  · next c tail _ =>
    split at h
    · have := skipFraction_length_le h
      have := skipDigits_length_le tail
      grind
    · simp at h
  · simp at h

end CubeQuery.Json
