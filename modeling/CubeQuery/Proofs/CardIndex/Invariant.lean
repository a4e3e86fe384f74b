import CubeQuery.CardIndex.Document
import CubeQuery.Proofs.NormalName

/-!
# The invariant of card indexes

The entries of an index are in ascending order of their names, every name is
normal, and every card has a cube. `Reachable` are the indexes that come of the
operations and of reading documents.

* `Keyed.find?_eq_some_iff`: in ascending order, the value of a key is the one it
  is listed with.
* `IsNormal`: the invariant, and that each operation keeps it.
* `Reachable.isNormal`: every reachable index has it.
-/

namespace CubeQuery

/-! ## Lists in ascending order -/

namespace Keyed

variable {β : Type}

/-- The keys are in ascending order, each once. -/
def Ascending (entries : List (String × β)) : Prop := entries.Pairwise fun a b => a.1 < b.1

theorem mem_put {key : String} {value : β} {entries : List (String × β)} {entry : String × β}
    (h : entry ∈ put key value entries) : entry = (key, value) ∨ entry ∈ entries := by
  fun_induction put key value entries with
  | case1 => simpa using h
  | case2 k b rest hlt => simpa using h
  | case3 b rest hlt =>
    rcases List.mem_cons.mp h with h | h
    · exact .inl h
    · exact .inr (List.mem_cons_of_mem _ h)
  | case4 k b rest hlt hne ih =>
    rcases List.mem_cons.mp h with h | h
    · exact .inr (h ▸ List.mem_cons_self)
    · exact (ih h).imp_right (List.mem_cons_of_mem _)

theorem ascending_put {key : String} {value : β} {entries : List (String × β)}
    (h : Ascending entries) : Ascending (put key value entries) := by
  fun_induction put key value entries with
  | case1 => exact List.pairwise_singleton _ _
  | case2 k b rest hlt =>
    refine List.pairwise_cons.mpr ⟨fun e he => ?_, h⟩
    rcases List.mem_cons.mp he with rfl | he
    · exact hlt
    · exact String.lt_trans hlt ((List.pairwise_cons.mp h).1 e he)
  | case3 b rest hlt =>
    exact List.pairwise_cons.mpr (List.pairwise_cons.mp h)
  | case4 k b rest hlt hne ih =>
    obtain ⟨hfirst, hrest⟩ := List.pairwise_cons.mp h
    refine List.pairwise_cons.mpr ⟨fun e he => ?_, ih hrest⟩
    rcases mem_put he with rfl | he
    · exact TextSet.lt_of_not_lt_of_ne hlt hne
    · exact hfirst e he

theorem ascending_erase {key : String} {entries : List (String × β)} (h : Ascending entries) :
    Ascending (erase key entries) :=
  List.Pairwise.filter _ h

theorem mem_of_find?_eq_some {key : String} {value : β} {entries : List (String × β)}
    (h : find? key entries = some value) : (key, value) ∈ entries := by
  fun_induction find? key entries with
  | case1 => cases h
  | case2 b rest =>
    cases h
    exact List.mem_cons_self
  | case3 k b rest hne ih => exact List.mem_cons_of_mem _ (ih h)

/-- In ascending order, the value of a key is the one it is listed with. -/
theorem find?_eq_some_iff {key : String} {value : β} {entries : List (String × β)}
    (h : Ascending entries) : find? key entries = some value ↔ (key, value) ∈ entries := by
  refine ⟨mem_of_find?_eq_some, fun hmem => ?_⟩
  induction entries with
  | nil => exact absurd hmem List.not_mem_nil
  | cons entry entries ih =>
    obtain ⟨hfirst, hrest⟩ := List.pairwise_cons.mp h
    obtain ⟨k, b⟩ := entry
    rcases List.mem_cons.mp hmem with heq | hlater
    · cases heq
      rw [find?, if_pos rfl]
    · have hne : key ≠ k := by
        rintro rfl
        exact String.lt_irrefl key (hfirst (key, value) hlater)
      rw [find?, if_neg hne, ih hrest hlater]

/-- A key above all others comes to the end. -/
theorem put_of_lt {key : String} {value : β} {entries : List (String × β)}
    (h : ∀ entry ∈ entries, entry.1 < key) :
    put key value entries = entries ++ [(key, value)] := by
  induction entries with
  | nil => rfl
  | cons entry entries ih =>
    obtain ⟨k, b⟩ := entry
    have hlt : k < key := h _ List.mem_cons_self
    have hne : key ≠ k := by
      rintro rfl
      exact absurd hlt (String.lt_irrefl key)
    rw [put, if_neg (String.lt_asymm hlt), if_neg hne,
      ih fun e he => h e (List.mem_cons_of_mem _ he), List.cons_append]

end Keyed

namespace TextSet

theorem ne_empty_of_mem {s : TextSet} {t : String} (h : t ∈ s) : s ≠ empty := by
  rintro rfl
  exact not_mem_empty t h

theorem isEmpty_iff {s : TextSet} : s.isEmpty = true ↔ s = empty := by
  constructor
  · intro h
    refine ext fun u => ?_
    rw [mem_def, List.isEmpty_iff.mp h]
    exact Iff.rfl
  · rintro rfl
    rfl

theorem exists_mem {s : TextSet} (h : s ≠ empty) : ∃ t, t ∈ s := by
  by_contra hnone
  refine h (ext fun u => ⟨fun hu => absurd ⟨u, hu⟩ hnone, fun hu => absurd hu (not_mem_empty u)⟩)

end TextSet

/-! ## The invariant -/

namespace CardIndex

/-- Names are ascending and normal, and every card has a cube. -/
structure IsNormal (index : CardIndex) : Prop where
  ascending : Keyed.Ascending index.entries
  normal : ∀ entry ∈ index.entries, normalName entry.1 = entry.1
  nonempty : ∀ entry ∈ index.entries, entry.2 ≠ .empty

theorem isNormal_empty : IsNormal empty :=
  ⟨List.Pairwise.nil, fun _ h => absurd h List.not_mem_nil, fun _ h => absurd h List.not_mem_nil⟩

/-- Giving a card some cubes keeps the invariant. -/
theorem IsNormal.put {index : CardIndex} (h : index.IsNormal) (card : String) {cubes : TextSet}
    (hcubes : cubes ≠ .empty) :
    IsNormal ⟨Keyed.put (normalName card) cubes index.entries⟩ := by
  refine ⟨Keyed.ascending_put h.ascending, fun entry hentry => ?_, fun entry hentry => ?_⟩
  · rcases Keyed.mem_put hentry with rfl | hentry
    · exact normalName_normalName card
    · exact h.normal entry hentry
  · rcases Keyed.mem_put hentry with rfl | hentry
    · exact hcubes
    · exact h.nonempty entry hentry

/-- Taking a card away keeps the invariant. -/
theorem IsNormal.erase {index : CardIndex} (h : index.IsNormal) (card : String) :
    IsNormal ⟨Keyed.erase (normalName card) index.entries⟩ :=
  ⟨Keyed.ascending_erase h.ascending,
    fun entry hentry => h.normal entry (List.mem_of_mem_filter hentry),
    fun entry hentry => h.nonempty entry (List.mem_of_mem_filter hentry)⟩

theorem IsNormal.insert {index : CardIndex} (h : index.IsNormal) (card cube : String) :
    (index.insert card cube).2.IsNormal :=
  h.put card (TextSet.ne_empty_of_mem (TextSet.mem_insert.mpr (.inl rfl)))

theorem IsNormal.remove {index : CardIndex} (h : index.IsNormal) (card cube : String) :
    (index.remove card cube).2.IsNormal := by
  rw [CardIndex.remove]
  split
  · exact h
  · next known _ =>
    show IsNormal (if _ then _ else _)
    split_ifs with hempty
    · exact h.erase card
    · exact h.put card fun hleft => hempty (TextSet.isEmpty_iff.mpr hleft)

theorem IsNormal.removeCard {index : CardIndex} (h : index.IsNormal) (card : String) :
    (index.removeCard card).2.IsNormal :=
  h.erase card

theorem IsNormal.absorb {index : CardIndex} (h : index.IsNormal) (name : String)
    (cubes : TextSet) : (index.absorb name cubes).IsNormal := by
  rw [CardIndex.absorb]
  split_ifs with hempty
  · exact h
  · obtain ⟨t, ht⟩ := TextSet.exists_mem fun hcubes => hempty (TextSet.isEmpty_iff.mpr hcubes)
    exact h.put name (TextSet.ne_empty_of_mem (TextSet.mem_union.mpr (.inl ht)))

/-! ## Several cubes and whole documents -/

/-- A fold keeps what each of its steps keeps. -/
theorem foldl_keeps {α σ : Type} {P : σ → Prop} {step : σ → α → σ}
    (hstep : ∀ state a, P state → P (step state a)) (items : List α) {start : σ} (h : P start) :
    P (items.foldl step start) := by
  induction items generalizing start with
  | nil => exact h
  | cons a items ih => exact ih (hstep start a h)

theorem IsNormal.insertAll {index : CardIndex} (h : index.IsNormal) (card : String)
    (cubes : List String) : (index.insertAll card cubes).2.IsNormal :=
  foldl_keeps (P := fun state : Nat × CardIndex => state.2.IsNormal)
    (fun _ cube hstate => hstate.insert card cube) cubes h

theorem IsNormal.removeAll {index : CardIndex} (h : index.IsNormal) (card : String)
    (cubes : List String) : (index.removeAll card cubes).2.IsNormal :=
  foldl_keeps (P := fun state : Nat × CardIndex => state.2.IsNormal)
    (fun _ cube hstate => hstate.remove card cube) cubes h

theorem isNormal_ofNamed (entries : List (String × TextSet)) : (ofNamed entries).IsNormal :=
  foldl_keeps (fun _ entry hstate => hstate.absorb entry.1 entry.2) entries isNormal_empty

theorem isNormal_of_read {text : String} {index : CardIndex} (h : read text = .ok index) :
    index.IsNormal := by
  rw [read] at h
  split at h
  · cases h
  · cases h
    exact isNormal_ofNamed _

/-- The indexes that come of the operations and of reading documents. -/
inductive Reachable : CardIndex → Prop
  | empty : Reachable empty
  | withCard {index : CardIndex} (card : String) (cubes : List String) :
    Reachable index → Reachable (index.withCard card cubes)
  | insert {index : CardIndex} (card cube : String) :
    Reachable index → Reachable (index.insert card cube).2
  | remove {index : CardIndex} (card cube : String) :
    Reachable index → Reachable (index.remove card cube).2
  | removeCard {index : CardIndex} (card : String) :
    Reachable index → Reachable (index.removeCard card).2
  | read {text : String} {index : CardIndex} : CardIndex.read text = .ok index → Reachable index

/-- Every reachable index has the invariant. -/
theorem Reachable.isNormal {index : CardIndex} (h : Reachable index) : index.IsNormal := by
  induction h with
  | empty => exact isNormal_empty
  | withCard card cubes _ ih => exact ih.insertAll card cubes
  | insert card cube _ ih => exact ih.insert card cube
  | remove card cube _ ih => exact ih.remove card cube
  | removeCard card _ ih => exact ih.removeCard card
  | read hread => exact isNormal_of_read hread

end CardIndex

end CubeQuery
