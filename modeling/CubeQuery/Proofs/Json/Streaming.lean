import CubeQuery.Json.WrongType
import CubeQuery.Proofs.Json.Text

/-!
# Texts that are cut off

A reader goes through a text from the left. If it reads a text, then it reads any start of
that text in the same way, unless the start ends too early. Numbers are the exception, since
only what follows a number tells where it ends, and no reader here reads one.

* `Streamed`: what a reader makes of a start of a text, against what it makes of the text.
* `Streamed.bind`: readers one after the other.
* `streamed_readText`, `streamed_nextItem` and their likes: the readers of texts and of the
  steps between items and members.
* `streamed_of_opened`, `streamed_of_listed`: readers of values that a bracket or a quote
  opens, and of all items or members of a value.
-/

namespace CubeQuery

/-! ## Widths of digits -/

namespace Text

theorem utf8Size_of_hexValue? {c : Char} {n : Nat} (h : hexValue? c = some n) :
    c.utf8Size = 1 := by
  have hle : ∀ d : Char, d.toNat ≤ 0x7f → c ≤ d → c.utf8Size = 1 := by
    intro d hd hcd
    have : c.val.toNat ≤ d.val.toNat := hcd
    rw [Char.utf8Size_eq_one_iff]
    show c.val.toNat ≤ 0x7f
    exact Nat.le_trans this hd
  unfold hexValue? at h
  split at h
  · next hc => exact hle '9' (by decide) hc.2
  · split at h
    · next hc => exact hle 'f' (by decide) hc.2
    · split at h
      · next hc => exact hle 'F' (by decide) hc.2
      · cases h

/-- Hexadecimal digits are as many bytes as characters. -/
theorem utf8Size_of_hexNumber? {cs : List Char} {n : Nat} (h : hexNumber? cs = some n) :
    ∀ c ∈ cs, c.utf8Size = 1 := by
  rw [hexNumber?] at h
  generalize 0 = start at h
  induction cs generalizing start with
  | nil => nofun
  | cons d cs ih =>
    rw [List.foldlM_cons, Option.bind_eq_bind, Option.bind_eq_some_iff] at h
    obtain ⟨next, hnext, h⟩ := h
    obtain ⟨value, hvalue, -⟩ := Option.map_eq_some_iff.mp hnext
    intro c hc
    rcases List.mem_cons.mp hc with rfl | hc
    · exact utf8Size_of_hexValue? hvalue
    · exact ih next h c hc

theorem width_eq_length {cs : List Char} (h : ∀ c ∈ cs, c.utf8Size = 1) :
    width cs = cs.length := by
  induction cs with
  | nil => rfl
  | cons c cs ih =>
    rw [List.forall_mem_cons] at h
    rw [width, List.foldr_cons, h.1, List.length_cons, Nat.add_comm]
    exact congrArg (· + 1) (ih h.2)

end Text

namespace Json

/-! ## Results of readers -/

/-- Results in which characters are left to be read. -/
class Extend (α : Type) where
  /-- The result with more characters behind those that are left. -/
  extend : α → List Char → α

open Extend (extend)

instance : Extend (List Char) := ⟨fun rest tail => rest ++ tail⟩

instance {α : Type} : Extend (α × List Char) := ⟨fun (a, rest) tail => (a, rest ++ tail)⟩

instance : Extend Step where
  extend
    | .close rest, tail => .close (rest ++ tail)
    | .item rest, tail => .item (rest ++ tail)

@[simp, grind =]
theorem extend_chars (rest tail : List Char) : extend rest tail = rest ++ tail := rfl

@[simp, grind =]
theorem extend_pair {α : Type} (a : α) (rest tail : List Char) :
    extend (a, rest) tail = (a, rest ++ tail) := rfl

@[simp, grind =]
theorem extend_close (rest tail : List Char) :
    extend (Step.close rest) tail = .close (rest ++ tail) := rfl

@[simp, grind =]
theorem extend_item (rest tail : List Char) :
    extend (Step.item rest) tail = .item (rest ++ tail) := rfl

variable {α β : Type} [Extend α] [Extend β] {tail : List Char}

/-- The results of a reader for a start of a text and for the text, which goes on with
    `tail`. If the text is read, then the start ends too early or is read in the same way. -/
def Streamed (tail : List Char) (short long : Except Fault α) : Prop :=
  ∀ b, long = .ok b → short = .error .truncated ∨ ∃ a, short = .ok a ∧ b = extend a tail

theorem Streamed.ok (a : α) : Streamed tail (.ok a) (.ok (extend a tail)) := by
  rintro b ⟨⟩
  exact .inr ⟨a, rfl, rfl⟩

theorem Streamed.error (short : Except Fault α) (e : Fault) : Streamed tail short (.error e) :=
  nofun

theorem Streamed.truncated (long : Except Fault α) :
    Streamed tail (.error .truncated) long :=
  fun _ _ => .inl rfl

/-- Two readers one after the other. -/
theorem Streamed.bind {short long : Except Fault α} {f g : α → Except Fault β}
    (h : Streamed tail short long)
    (hnext : ∀ a, short = .ok a → Streamed tail (f a) (g (extend a tail))) :
    Streamed tail (short >>= f) (long >>= g) := by
  intro b hb
  cases long with
  | error e => cases hb
  | ok c =>
    rcases h c rfl with rfl | ⟨a, rfl, rfl⟩
    · exact .inl rfl
    · exact hnext a rfl b hb

/-! ## Space and steps -/

/-- A start of a text is all space, or the space in it ends where that of the text ends. -/
theorem skipSpace_append (start tail : List Char) :
    skipSpace start = [] ∨ ∃ c rest,
      skipSpace start = c :: rest ∧ skipSpace (start ++ tail) = c :: (rest ++ tail) := by
  rw [skipSpace, skipSpace, List.dropWhile_append]
  cases h : start.dropWhile isSpace with
  | nil => exact .inl rfl
  | cons c rest => exact .inr ⟨c, rest, rfl, rfl⟩

theorem streamed_readColon (start : List Char) :
    Streamed tail (readColon start) (readColon (start ++ tail)) := by
  intro b hb
  unfold readColon at hb ⊢
  rcases skipSpace_append start tail with hs | ⟨c, rest, hs, hs'⟩ <;> grind

theorem streamed_firstItem (start : List Char) :
    Streamed tail (firstItem start) (firstItem (start ++ tail)) := by
  intro b hb
  unfold firstItem at hb ⊢
  rcases skipSpace_append start tail with hs | ⟨c, rest, hs, hs'⟩ <;> grind

theorem streamed_nextItem (start : List Char) :
    Streamed tail (nextItem start) (nextItem (start ++ tail)) := by
  intro b hb
  unfold nextItem at hb ⊢
  rcases skipSpace_append start tail with hs | ⟨c, rest, hs, hs'⟩
  · grind
  · rcases skipSpace_append rest tail with hr | ⟨d, rest', hr, hr'⟩ <;> grind

theorem streamed_firstMember (start : List Char) :
    Streamed tail (firstMember start) (firstMember (start ++ tail)) := by
  intro b hb
  unfold firstMember at hb ⊢
  rcases skipSpace_append start tail with hs | ⟨c, rest, hs, hs'⟩ <;> grind

theorem streamed_nextMember (start : List Char) :
    Streamed tail (nextMember start) (nextMember (start ++ tail)) := by
  intro b hb
  unfold nextMember at hb ⊢
  rcases skipSpace_append start tail with hs | ⟨c, rest, hs, hs'⟩
  · grind
  · rcases skipSpace_append rest tail with hr | ⟨d, rest', hr, hr'⟩ <;> grind

/-! ## Texts -/

/-- Four characters are read as the digits of an escape if they are digits. -/
theorem readHex_eq_ok_iff {cs rest : List Char} {n : Nat} :
    readHex cs = .ok (n, rest) ↔
      ∃ digits, digits.length = 4 ∧ Text.hexNumber? digits = some n ∧ cs = digits ++ rest := by
  constructor
  · intro h
    unfold readHex at h
    split at h
    · next a b c d left =>
      split at h
      · next n hn =>
        cases h
        exact ⟨[a, b, c, d], rfl, hn, rfl⟩
      · cases h
    · split at h <;> cases h
  · rintro ⟨digits, hlength, hn, rfl⟩
    match digits, hlength with
    | [a, b, c, d], _ => simp only [List.cons_append, List.nil_append, readHex, hn]

theorem readHex_of_width_lt {cs : List Char} (h : Text.width cs < 4) :
    readHex cs = .error .truncated := by
  unfold readHex
  split
  · next a b c d rest =>
    have ha := a.utf8Size_pos
    have hb := b.utf8Size_pos
    have hc := c.utf8Size_pos
    have hd := d.utf8Size_pos
    simp only [Text.width, List.foldr_cons] at h
    omega
  · exact if_pos h

/-- Some of the digits of an escape are too few bytes, since digits are narrow. -/
theorem streamed_readHex (start : List Char) :
    Streamed tail (readHex start) (readHex (start ++ tail)) := by
  rintro ⟨n, left⟩ h
  obtain ⟨digits, hlength, hn, happend⟩ := readHex_eq_ok_iff.mp h
  rcases List.append_eq_append_iff.mp happend with ⟨missing, rfl, rfl⟩ | ⟨rest, rfl, rfl⟩
  · cases missing with
    | nil =>
      rw [List.append_nil] at hlength hn
      exact .inr ⟨(n, []), readHex_eq_ok_iff.mpr ⟨start, hlength, hn, by simp⟩, rfl⟩
    | cons c missing =>
      have hsize := Text.utf8Size_of_hexNumber? hn
      have hwidth := Text.width_eq_length fun c hc => hsize c (List.mem_append_left _ hc)
      rw [List.length_append, List.length_cons] at hlength
      exact .inl (readHex_of_width_lt (by omega))
  · exact .inr ⟨(n, rest), readHex_eq_ok_iff.mpr ⟨digits, hlength, hn, rfl⟩, rfl⟩

theorem readLowHalf_u (high : Nat) (cs : List Char) :
    readLowHalf high ('\\' :: 'u' :: cs) = readHex cs >>= fun (low, rest) =>
      if isLowHalf low then .ok (joinHalves high low, rest) else .error .malformed := by
  rw [readLowHalf]
  cases readHex cs <;> rfl

theorem eq_cons_of_readLowHalf {high : Nat} {cs : List Char} {b : Char × List Char}
    (h : readLowHalf high cs = .ok b) : ∃ rest, cs = '\\' :: 'u' :: rest := by
  unfold readLowHalf at h
  split at h
  · cases h
  · cases h
  · next rest => exact ⟨rest, rfl⟩
  · cases h

theorem streamed_readLowHalf (high : Nat) (start : List Char) :
    Streamed tail (readLowHalf high start) (readLowHalf high (start ++ tail)) := by
  intro b hb
  obtain ⟨cs, hcs⟩ := eq_cons_of_readLowHalf hb
  rcases start with _ | ⟨c, _ | ⟨d, rest⟩⟩
  · exact .inl rfl
  · cases hcs
    exact .inl rfl
  · cases hcs
    rw [List.cons_append, List.cons_append, readLowHalf_u] at hb
    rw [readLowHalf_u]
    refine (streamed_readHex rest).bind (fun (low, left) _ => ?_) b hb
    rw [extend_pair]
    dsimp only
    split_ifs
    · exact .ok (joinHalves high low, left)
    · exact .error _ _

theorem readEscape_u (cs : List Char) :
    readEscape ('u' :: cs) = readHex cs >>= fun (n, rest) =>
      if isLowHalf n then .error .malformed
      else if isHighHalf n then readLowHalf n rest
      else .ok (Char.ofNat n, rest) := by
  rw [readEscape]
  cases readHex cs <;> rfl

theorem streamed_readEscape (start : List Char) :
    Streamed tail (readEscape start) (readEscape (start ++ tail)) := by
  match start with
  | [] => exact .truncated _
  | c :: rest =>
    by_cases hc : c = 'u'
    · subst hc
      rw [List.cons_append, readEscape_u, readEscape_u]
      refine (streamed_readHex rest).bind fun (n, left) _ => ?_
      rw [extend_pair]
      dsimp only
      split_ifs
      · exact .error _ _
      · exact streamed_readLowHalf n left
      · exact .ok (Char.ofNat n, left)
    · intro b hb
      grind [readEscape]

theorem streamed_readText (start : List Char) :
    Streamed tail (readText start) (readText (start ++ tail)) := by
  match start with
  | [] =>
    rw [readText.eq_def]
    exact .truncated _
  | c :: rest =>
    rw [List.cons_append, readText_cons, readText_cons]
    split_ifs
    · exact .ok (([] : List Char), rest)
    · refine (streamed_readEscape rest).bind fun (d, left) hd => ?_
      have := readEscape_shorter hd
      refine (streamed_readText left).bind fun (content, left') _ => ?_
      exact .ok (d :: content, left')
    · exact .error _ _
    · refine (streamed_readText rest).bind fun (content, left) _ => ?_
      exact .ok (c :: content, left)
termination_by start.length

/-! ## Values in brackets -/

/-- A reader of values that one character opens. -/
theorem streamed_of_opened (opening : Char) {read : List Char → Except Fault α}
    (body : List Char → Except Fault α)
    (hopen : ∀ cs rest, skipSpace cs = opening :: rest → read cs = body rest)
    (hother : ∀ cs, (∀ rest, skipSpace cs ≠ opening :: rest) →
      read cs = .error (wrongType (skipSpace cs)))
    (hbody : ∀ start, Streamed tail (body start) (body (start ++ tail))) (start : List Char) :
    Streamed tail (read start) (read (start ++ tail)) := by
  rcases skipSpace_append start tail with hs | ⟨c, rest, hs, hs'⟩
  · have hread : read start = .error .truncated := by
      rw [hother start (by simp [hs]), hs]
      rfl
    rw [hread]
    exact .truncated _
  · by_cases hc : c = opening
    · rw [hopen _ _ (hc ▸ hs), hopen _ _ (hc ▸ hs')]
      exact hbody rest
    · rw [hother (start ++ tail) (by simp [hs', hc])]
      exact .error _ _

/-- A reader of all items or members of a value, the first of which starts here. -/
theorem streamed_of_listed {γ : Type} {item : List Char → Except Fault (γ × List Char)}
    {next : List Char → Except Fault Step} {read : List Char → Except Fault (List γ × List Char)}
    (hread : ∀ cs, read cs = item cs >>= fun (x, rest) => next rest >>= fun
      | .close left => .ok ([x], left)
      | .item rest' => read rest' >>= fun (xs, left) => .ok (x :: xs, left))
    (hitem : ∀ start, Streamed tail (item start) (item (start ++ tail)))
    (hnext : ∀ start, Streamed tail (next start) (next (start ++ tail)))
    (hshorter : ∀ {cs x rest}, item cs = .ok (x, rest) → rest.length < cs.length)
    (hshorter' : ∀ {cs step}, next cs = .ok step → step.rest.length < cs.length)
    (start : List Char) : Streamed tail (read start) (read (start ++ tail)) := by
  rw [hread, hread (start ++ tail)]
  refine (hitem start).bind fun (x, rest) hx => (hnext rest).bind fun step hstep => ?_
  have h₁ := hshorter hx
  have h₂ := hshorter' hstep
  cases step with
  | close left => exact .ok ([x], left)
  | item rest' =>
    have : rest'.length < start.length := Nat.lt_trans h₂ h₁
    exact (streamed_of_listed hread hitem hnext hshorter hshorter' rest').bind
      fun (xs, left) _ => .ok (x :: xs, left)
termination_by start.length

end Json

end CubeQuery
