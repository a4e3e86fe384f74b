/-!
# Sets of texts

A finite set of texts is the list of its members in ascending order of their
characters, each once, so that equal sets are equal lists.
-/

namespace CubeQuery

/-- A finite set of texts. -/
structure TextSet where
  /-- The members in ascending order. -/
  toList : List String
  ascending : toList.Pairwise (· < ·)
deriving DecidableEq

namespace TextSet

/-- Puts a text into its place in an ascending list, unless it is there. -/
def place (t : String) : List String → List String
  | [] => [t]
  | u :: rest =>
    if t < u then t :: u :: rest else if t = u then u :: rest else u :: place t rest

theorem mem_place {t v : String} {l : List String} : v ∈ place t l ↔ v = t ∨ v ∈ l := by
  fun_induction place t l <;> grind

theorem lt_of_not_lt_of_ne {t u : String} (h : ¬ t < u) (hne : ¬ t = u) : u < t := by
  rcases Std.lt_trichotomy t u with h' | h' | h'
  · exact absurd h' h
  · exact absurd h' hne
  · exact h'

theorem ascending_place {t : String} {l : List String} (h : l.Pairwise (· < ·)) :
    (place t l).Pairwise (· < ·) := by
  fun_induction place t l with
  | case1 => simp
  | case2 u rest htu =>
    refine List.pairwise_cons.2 ⟨fun v hv => ?_, h⟩
    rcases List.mem_cons.1 hv with rfl | hv
    · exact htu
    · exact String.lt_trans htu ((List.pairwise_cons.1 h).1 v hv)
  | case3 rest => exact h
  | case4 u rest hlt hne ih =>
    have h' := List.pairwise_cons.1 h
    refine List.pairwise_cons.2 ⟨fun v hv => ?_, ih h'.2⟩
    rcases mem_place.1 hv with rfl | hv
    · exact lt_of_not_lt_of_ne hlt hne
    · exact h'.1 v hv

/-- The set without members. -/
def empty : TextSet := ⟨[], List.Pairwise.nil⟩

instance : EmptyCollection TextSet := ⟨empty⟩

instance : Inhabited TextSet := ⟨empty⟩

/-- The set with one more member. -/
def insert (t : String) (s : TextSet) : TextSet := ⟨place t s.toList, ascending_place s.ascending⟩

/-- The set with one member less. -/
def erase (t : String) (s : TextSet) : TextSet :=
  ⟨s.toList.filter (· ≠ t), s.ascending.filter _⟩

/-- Whether a text is a member. -/
def contains (s : TextSet) (t : String) : Bool := s.toList.contains t

/-- The number of members. -/
def size (s : TextSet) : Nat := s.toList.length

/-- Whether there is no member. -/
def isEmpty (s : TextSet) : Bool := s.toList.isEmpty

/-- The members of both sets. -/
def union (s t : TextSet) : TextSet := t.toList.foldl (fun acc u => acc.insert u) s

/-- The set of the texts of a list. -/
def ofList (texts : List String) : TextSet := texts.foldl (fun acc t => acc.insert t) empty

/-! ## Members -/

instance : Membership String TextSet := ⟨fun s t => t ∈ s.toList⟩

theorem mem_def {s : TextSet} {t : String} : t ∈ s ↔ t ∈ s.toList := Iff.rfl

theorem not_mem_empty (t : String) : t ∉ empty := List.not_mem_nil

theorem mem_insert {s : TextSet} {t u : String} : u ∈ s.insert t ↔ u = t ∨ u ∈ s := mem_place

theorem mem_erase {s : TextSet} {t u : String} : u ∈ s.erase t ↔ u ∈ s ∧ u ≠ t := by
  simp [mem_def, erase]

theorem contains_iff_mem {s : TextSet} {t : String} : s.contains t = true ↔ t ∈ s := by
  simp [mem_def, contains]

theorem mem_foldl_insert {texts : List String} {s : TextSet} {u : String} :
    u ∈ texts.foldl (fun acc t => acc.insert t) s ↔ u ∈ texts ∨ u ∈ s := by
  induction texts generalizing s with
  | nil => simp
  | cons t texts ih =>
    rw [List.foldl_cons, ih, mem_insert, List.mem_cons, or_assoc, or_left_comm]

theorem mem_union {s t : TextSet} {u : String} : u ∈ s.union t ↔ u ∈ t ∨ u ∈ s :=
  mem_foldl_insert

theorem mem_ofList {texts : List String} {u : String} : u ∈ ofList texts ↔ u ∈ texts := by
  rw [ofList, mem_foldl_insert]
  simp [not_mem_empty]

/-- The head of an ascending list is below every other member, so it is determined by the
    members. -/
theorem eq_of_ascending {l r : List String} (hl : l.Pairwise (· < ·)) (hr : r.Pairwise (· < ·))
    (h : ∀ u, u ∈ l ↔ u ∈ r) : l = r := by
  induction l generalizing r with
  | nil =>
    cases r with
    | nil => rfl
    | cons b r => exact absurd ((h b).2 (List.mem_cons_self ..)) List.not_mem_nil
  | cons a l ih =>
    cases r with
    | nil => exact absurd ((h a).1 (List.mem_cons_self ..)) List.not_mem_nil
    | cons b r =>
      obtain ⟨ha, hl'⟩ := List.pairwise_cons.1 hl
      obtain ⟨hb, hr'⟩ := List.pairwise_cons.1 hr
      have hab : a = b := by
        rcases List.mem_cons.1 ((h a).1 (List.mem_cons_self ..)) with hab | hab
        · exact hab
        · rcases List.mem_cons.1 ((h b).2 (List.mem_cons_self ..)) with hba | hba
          · exact hba.symm
          · exact absurd (String.lt_trans (hb a hab) (ha b hba)) (String.lt_irrefl b)
      subst hab
      congr 1
      refine ih hl' hr' fun u => ⟨fun hu => ?_, fun hu => ?_⟩
      · rcases List.mem_cons.1 ((h u).1 (List.mem_cons_of_mem a hu)) with hua | hu'
        · exact absurd (hua ▸ ha u hu) (String.lt_irrefl a)
        · exact hu'
      · rcases List.mem_cons.1 ((h u).2 (List.mem_cons_of_mem a hu)) with hua | hu'
        · exact absurd (hua ▸ hb u hu) (String.lt_irrefl a)
        · exact hu'

/-- Sets with the same members are equal. -/
theorem ext {s t : TextSet} (h : ∀ u, u ∈ s ↔ u ∈ t) : s = t := by
  cases s with
  | mk l hl =>
    cases t with
    | mk r hr =>
      have := eq_of_ascending hl hr h
      subst this
      rfl

theorem ofList_toList (s : TextSet) : ofList s.toList = s := ext fun _ => mem_ofList

end TextSet

end CubeQuery
