import CubeQuery.Json.Scalar

/-!
# Lists, objects and skipped values

The steps between the items of a list and the members of an object, and passing
over a whole value of any depth. The brackets that are open while a value is
skipped are kept in a list, so that the depth has no limit.
-/

namespace CubeQuery.Json

/-- What stands before an item: the end of the list or object, or the item. -/
inductive Step where
  /-- The closing bracket has been read. -/
  | close (rest : List Char)
  /-- An item follows. For a member of an object, its opening quote has been read. -/
  | item (rest : List Char)
deriving DecidableEq, Repr

/-- The step after the opening bracket of a list. -/
def firstItem (cs : List Char) : Except Fault Step :=
  match skipSpace cs with
  | [] => .error .truncated
  | ']' :: rest => .ok (.close rest)
  | rest => .ok (.item rest)

/-- The step after an item of a list. -/
def nextItem (cs : List Char) : Except Fault Step :=
  match skipSpace cs with
  | [] => .error .truncated
  | ']' :: rest => .ok (.close rest)
  | ',' :: rest =>
    match skipSpace rest with
    | [] => .error .truncated
    | ']' :: _ => .error .malformed
    | rest' => .ok (.item rest')
  | _ => .error .malformed

/-- The step after the opening bracket of an object. -/
def firstMember (cs : List Char) : Except Fault Step :=
  match skipSpace cs with
  | [] => .error .truncated
  | '\x7d' :: rest => .ok (.close rest)
  | '"' :: rest => .ok (.item rest)
  | _ => .error .malformed

/-- The step after a member of an object. -/
def nextMember (cs : List Char) : Except Fault Step :=
  match skipSpace cs with
  | [] => .error .truncated
  | '\x7d' :: rest => .ok (.close rest)
  | ',' :: rest =>
    match skipSpace rest with
    | [] => .error .truncated
    | '"' :: rest' => .ok (.item rest')
    | _ => .error .malformed
  | _ => .error .malformed

/-- Reads the colon between a key and its value. -/
def readColon (cs : List Char) : Except Fault (List Char) :=
  match skipSpace cs with
  | [] => .error .truncated
  | ':' :: rest => .ok rest
  | _ => .error .malformed

/-- The characters after a step. -/
def Step.rest : Step → List Char
  | close rest => rest
  | item rest => rest

theorem firstItem_rest_le {cs : List Char} {step : Step} (h : firstItem cs = .ok step) :
    step.rest.length ≤ cs.length := by
  have := skipSpace_length_le cs
  unfold firstItem at h
  grind [Step.rest]

theorem nextItem_rest_lt {cs : List Char} {step : Step} (h : nextItem cs = .ok step) :
    step.rest.length < cs.length := by
  have hle := skipSpace_length_le cs
  unfold nextItem at h
  split at h
  · simp at h
  · grind [Step.rest]
  · next tail _ =>
    have := skipSpace_length_le tail
    grind [Step.rest]
  · simp at h

theorem firstMember_rest_lt {cs : List Char} {step : Step} (h : firstMember cs = .ok step) :
    step.rest.length < cs.length := by
  have := skipSpace_length_le cs
  unfold firstMember at h
  grind [Step.rest]

theorem nextMember_rest_lt {cs : List Char} {step : Step} (h : nextMember cs = .ok step) :
    step.rest.length < cs.length := by
  have hle := skipSpace_length_le cs
  unfold nextMember at h
  split at h
  · simp at h
  · grind [Step.rest]
  · next tail _ =>
    have := skipSpace_length_le tail
    grind [Step.rest]
  · simp at h

theorem readColon_shorter {cs rest : List Char} (h : readColon cs = .ok rest) :
    rest.length < cs.length := by
  have := skipSpace_length_le cs
  unfold readColon at h
  grind

/-! ## Skipped values -/

/-- The value that an open bracket has started. -/
inductive Bracket where
  | list
  | object
deriving DecidableEq, Repr

/-- Passes over a value that holds no other values and starts here. -/
def skipScalar (cs : List Char) : Except Fault (List Char) :=
  match cs with
  | [] => .error .truncated
  | 'n' :: rest => skipWord ['u', 'l', 'l'] rest
  | 't' :: rest => skipWord ['r', 'u', 'e'] rest
  | 'f' :: rest => skipWord ['a', 'l', 's', 'e'] rest
  | '-' :: rest => skipNumber rest
  | '"' :: rest => skipText rest
  | c :: _ => if c.isDigit then skipNumber cs else .error .malformed

theorem skipScalar_shorter {cs rest : List Char} (h : skipScalar cs = .ok rest) :
    rest.length < cs.length := by
  unfold skipScalar at h
  split at h
  · simp at h
  · exact Nat.lt_succ_of_le (skipWord_length_le h)
  · exact Nat.lt_succ_of_le (skipWord_length_le h)
  · exact Nat.lt_succ_of_le (skipWord_length_le h)
  · exact Nat.lt_succ_of_lt (skipNumber_shorter h)
  · exact Nat.lt_succ_of_lt (skipText_shorter h)
  · split at h
    · exact skipNumber_shorter h
    · simp at h

/-- Passes over a key whose opening quote has been read, and the colon after it. -/
def skipKey (cs : List Char) : Except Fault (List Char) :=
  match skipText cs with
  | .error e => .error e
  | .ok rest => readColon rest

theorem skipKey_shorter {cs rest : List Char} (h : skipKey cs = .ok rest) :
    rest.length < cs.length := by
  unfold skipKey at h
  split at h
  · simp at h
  · next left hs =>
    have := skipText_shorter hs
    have := readColon_shorter h
    omega

theorem length_lt_of_skipSpace {cs rest : List Char} {c : Char} (h : skipSpace cs = c :: rest) :
    rest.length < cs.length := by
  have := skipSpace_length_le cs
  grind

mutual

/-- Passes over a value and all that its enclosing brackets still hold. -/
def skipWithin (enclosing : List Bracket) (cs : List Char) : Except Fault (List Char) :=
  match hs : skipSpace cs with
  | [] => .error .truncated
  | '[' :: rest =>
    have := length_lt_of_skipSpace hs
    match h : firstItem rest with
    | .error e => .error e
    | .ok (.close rest') =>
      have : rest'.length ≤ rest.length := firstItem_rest_le h
      skipAfter enclosing rest'
    | .ok (.item rest') =>
      have : rest'.length ≤ rest.length := firstItem_rest_le h
      skipWithin (.list :: enclosing) rest'
  | '\x7b' :: rest =>
    have := length_lt_of_skipSpace hs
    match h : firstMember rest with
    | .error e => .error e
    | .ok (.close rest') =>
      have : rest'.length < rest.length := firstMember_rest_lt h
      skipAfter enclosing rest'
    | .ok (.item rest') =>
      have : rest'.length < rest.length := firstMember_rest_lt h
      match hk : skipKey rest' with
      | .error e => .error e
      | .ok rest'' =>
        have := skipKey_shorter hk
        skipWithin (.object :: enclosing) rest''
  | c :: rest =>
    have := length_lt_of_skipSpace hs
    match h : skipScalar (c :: rest) with
    | .error e => .error e
    | .ok rest' =>
      have : rest'.length < rest.length + 1 := skipScalar_shorter h
      skipAfter enclosing rest'
termination_by cs.length

/-- Passes over all that the enclosing brackets still hold after a value. -/
def skipAfter (enclosing : List Bracket) (cs : List Char) : Except Fault (List Char) :=
  match enclosing with
  | [] => .ok cs
  | .list :: outer =>
    match h : nextItem cs with
    | .error e => .error e
    | .ok (.close rest) =>
      have : rest.length < cs.length := nextItem_rest_lt h
      skipAfter outer rest
    | .ok (.item rest) =>
      have : rest.length < cs.length := nextItem_rest_lt h
      skipWithin (.list :: outer) rest
  | .object :: outer =>
    match h : nextMember cs with
    | .error e => .error e
    | .ok (.close rest) =>
      have : rest.length < cs.length := nextMember_rest_lt h
      skipAfter outer rest
    | .ok (.item rest) =>
      have : rest.length < cs.length := nextMember_rest_lt h
      match hk : skipKey rest with
      | .error e => .error e
      | .ok rest' =>
        have := skipKey_shorter hk
        skipWithin (.object :: outer) rest'
termination_by cs.length

end

section Steps

variable {enclosing : List Bracket} {cs rest : List Char}

-- in both lemmas a case without a remainder is a fault

/-- Less is left after the start of a value: what the enclosing brackets still hold, or first
    what a further bracket holds. -/
theorem skipWithin_step : skipWithin enclosing cs = .ok rest → ∃ left, left.length < cs.length ∧
    (skipAfter enclosing left = .ok rest ∨
      ∃ bracket, skipWithin (bracket :: enclosing) left = .ok rest) := by
  fun_cases skipWithin enclosing cs with
  | case1 => nofun
  | case2 => nofun
  | case3 tail _ _ left => exact fun h => ⟨left, by omega, .inl h⟩
  | case4 tail _ _ left => exact fun h => ⟨left, by omega, .inr ⟨.list, h⟩⟩
  | case5 => nofun
  | case6 tail _ _ left => exact fun h => ⟨left, by omega, .inl h⟩
  | case7 => nofun
  | case8 tail _ _ member _ _ left => exact fun h => ⟨left, by omega, .inr ⟨.object, h⟩⟩
  | case9 => nofun
  | case10 c tail _ _ _ _ left => exact fun h => ⟨left, by omega, .inl h⟩

/-- Less is left after the step that follows a value: the last bracket is closed, or it holds
    another value. -/
theorem skipAfter_step : skipAfter enclosing cs = .ok rest → enclosing = [] ∧ rest = cs ∨
    ∃ left, left.length < cs.length ∧
      ((∃ outer, skipAfter outer left = .ok rest) ∨ skipWithin enclosing left = .ok rest) := by
  fun_cases skipAfter enclosing cs with
  | case1 => exact fun h => .inl ⟨rfl, (Except.ok.inj h).symm⟩
  | case2 => nofun
  | case3 outer left => exact fun h => .inr ⟨left, by omega, .inl ⟨outer, h⟩⟩
  | case4 outer left => exact fun h => .inr ⟨left, by omega, .inr h⟩
  | case5 => nofun
  | case6 outer left => exact fun h => .inr ⟨left, by omega, .inl ⟨outer, h⟩⟩
  | case7 => nofun
  | case8 outer member _ _ left => exact fun h => .inr ⟨left, by omega, .inr h⟩

end Steps

mutual

theorem skipWithin_shorter {enclosing : List Bracket} {cs rest : List Char}
    (h : skipWithin enclosing cs = .ok rest) : rest.length < cs.length := by
  obtain ⟨left, hleft, hafter | ⟨bracket, hwithin⟩⟩ := skipWithin_step h
  · exact Nat.lt_of_le_of_lt (skipAfter_length_le hafter) hleft
  · exact Nat.lt_trans (skipWithin_shorter hwithin) hleft
termination_by cs.length

theorem skipAfter_length_le {enclosing : List Bracket} {cs rest : List Char}
    (h : skipAfter enclosing cs = .ok rest) : rest.length ≤ cs.length := by
  obtain ⟨-, rfl⟩ | ⟨left, hleft, ⟨outer, hafter⟩ | hwithin⟩ := skipAfter_step h
  · exact Nat.le_refl _
  · exact Nat.le_of_lt (Nat.lt_of_le_of_lt (skipAfter_length_le hafter) hleft)
  · exact Nat.le_of_lt (Nat.lt_trans (skipWithin_shorter hwithin) hleft)
termination_by cs.length

end

/-- Passes over a whole value. -/
def skipValue (cs : List Char) : Except Fault (List Char) := skipWithin [] cs

theorem skipValue_shorter {cs rest : List Char} (h : skipValue cs = .ok rest) :
    rest.length < cs.length :=
  skipWithin_shorter h

end CubeQuery.Json
