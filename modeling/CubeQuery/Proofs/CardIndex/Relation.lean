import CubeQuery.Proofs.CardIndex.Invariant
import Mathlib.Data.Finset.Prod
import Mathlib.Data.Finset.Card

/-!
# The relation of an index

An index stands for a finite relation between normal names and cubes. Every
operation on indexes is an operation on that relation, and the numbers that it
tells are numbers of pairs.

* `pairs`: the relation of an index. `eq_of_pairs_eq`: it determines the index.
* `pairs_insertAll`, `insertAll_fst`: adding cubes joins pairs to the relation, and
  tells how many of the cubes were new.
* `pairs_removeAll`, `removeAll_fst`, `pairs_removeCard`, `removeCard_fst`: taking cubes
  away deletes pairs, and tells how many.
-/

namespace CubeQuery.CardIndex

/-- The normal names of cards, each with each of its cubes. -/
def pairs (index : CardIndex) : Finset (String × String) :=
  (index.entries.flatMap fun entry => entry.2.toList.map fun cube => (entry.1, cube)).toFinset

variable {index : CardIndex} {name card cube : String}

theorem mem_pairs (h : index.IsNormal) :
    (name, cube) ∈ index.pairs ↔ cube ∈ (Keyed.find? name index.entries).getD .empty := by
  have hmem : (name, cube) ∈ index.pairs ↔
      ∃ cubes, (name, cubes) ∈ index.entries ∧ cube ∈ cubes := by
    simp [pairs, TextSet.mem_def]
  rw [hmem]
  constructor
  · rintro ⟨cubes, hentry, hcube⟩
    rw [(Keyed.find?_eq_some_iff h.ascending).mpr hentry]
    exact hcube
  · intro hcube
    cases hfind : Keyed.find? name index.entries with
    | none =>
      rw [hfind] at hcube
      exact absurd hcube (TextSet.not_mem_empty cube)
    | some cubes =>
      rw [hfind] at hcube
      exact ⟨cubes, Keyed.mem_of_find?_eq_some hfind, hcube⟩

/-- The cubes of a card are those that its normal name is paired with. -/
theorem mem_cubes (h : index.IsNormal) :
    cube ∈ index.cubes card ↔ (normalName card, cube) ∈ index.pairs :=
  (mem_pairs h).symm

/-- A name is indexed exactly if it has a cube. -/
theorem find?_eq_of_isNormal (h : index.IsNormal) (name : String) :
    Keyed.find? name index.entries =
      if (Keyed.find? name index.entries).getD .empty = .empty then none
      else some ((Keyed.find? name index.entries).getD .empty) := by
  cases hfind : Keyed.find? name index.entries with
  | none => rfl
  | some cubes =>
    have hcubes : cubes ≠ .empty := h.nonempty _ (Keyed.mem_of_find?_eq_some hfind)
    rw [Option.getD_some, if_neg hcubes]

theorem entries_nodup (h : index.IsNormal) : index.entries.Nodup := by
  refine List.Pairwise.imp ?_ h.ascending
  rintro a b hlt rfl
  exact String.lt_irrefl a.1 hlt

/-- An index with the invariant is determined by its relation. -/
theorem eq_of_pairs_eq {index' : CardIndex} (h : index.IsNormal) (h' : index'.IsNormal)
    (hpairs : index.pairs = index'.pairs) : index = index' := by
  have hfind : ∀ name, Keyed.find? name index.entries = Keyed.find? name index'.entries := by
    intro name
    have hcubes : (Keyed.find? name index.entries).getD .empty =
        (Keyed.find? name index'.entries).getD .empty := by
      refine TextSet.ext fun cube => ?_
      rw [← mem_pairs h, ← mem_pairs h', hpairs]
    rw [find?_eq_of_isNormal h, find?_eq_of_isNormal h', hcubes]
  have hperm : index.entries.Perm index'.entries := by
    rw [List.perm_ext_iff_of_nodup (entries_nodup h) (entries_nodup h')]
    rintro ⟨name, cubes⟩
    rw [← Keyed.find?_eq_some_iff h.ascending, hfind, Keyed.find?_eq_some_iff h'.ascending]
  have hentries : index.entries = index'.entries := by
    refine hperm.eq_of_pairwise (fun a b _ _ hab hba => ?_) h.ascending h'.ascending
    exact absurd (String.lt_trans hab hba) (String.lt_irrefl a.1)
  cases index
  cases index'
  exact congrArg CardIndex.mk hentries

/-! ## One cube -/

theorem pairs_insert (h : index.IsNormal) (card cube : String) :
    (index.insert card cube).2.pairs = Insert.insert (normalName card, cube) index.pairs := by
  ext ⟨name, other⟩
  rw [mem_pairs (h.insert card cube), Finset.mem_insert, mem_pairs h, CardIndex.insert,
    Keyed.find?_put]
  by_cases hname : name = normalName card
  · subst hname
    rw [if_pos rfl, Option.getD_some, TextSet.mem_insert, Prod.mk.injEq, cubes, cubes?]
    tauto
  · rw [if_neg hname, Prod.mk.injEq]
    tauto

theorem insert_fst (h : index.IsNormal) (card cube : String) :
    (index.insert card cube).1 = decide ((normalName card, cube) ∉ index.pairs) := by
  rw [Bool.eq_iff_iff, decide_eq_true_iff, ← mem_cubes h, ← TextSet.contains_iff_mem,
    CardIndex.insert, Bool.not_eq_true', Bool.not_eq_true]

/-- The cubes of a name after one was taken from a card. -/
theorem find?_remove (index : CardIndex) (card cube name : String) :
    (Keyed.find? name (index.remove card cube).2.entries).getD .empty =
      if name = normalName card then (index.cubes card).erase cube
      else (Keyed.find? name index.entries).getD .empty := by
  rw [remove, cubes]
  cases hknown : index.cubes? card with
  | none =>
    split_ifs with hname
    · subst hname
      show (index.cubes? card).getD .empty = _
      rw [hknown]
      rfl
    · rfl
  | some known =>
    dsimp only
    split_ifs with hempty hname hname
    · rw [Keyed.find?_erase, if_pos hname, Option.getD_none, Option.getD_some,
        TextSet.isEmpty_iff.mp hempty]
    · rw [Keyed.find?_erase, if_neg hname]
    · rw [Keyed.find?_put, if_pos hname, Option.getD_some, Option.getD_some]
    · rw [Keyed.find?_put, if_neg hname]

theorem pairs_remove (h : index.IsNormal) (card cube : String) :
    (index.remove card cube).2.pairs = index.pairs.erase (normalName card, cube) := by
  ext ⟨name, other⟩
  rw [mem_pairs (h.remove card cube), find?_remove, Finset.mem_erase, Ne, Prod.mk.injEq,
    mem_pairs h]
  split_ifs with hname
  · subst hname
    rw [TextSet.mem_erase, cubes, cubes?]
    tauto
  · tauto

theorem remove_fst (h : index.IsNormal) (card cube : String) :
    (index.remove card cube).1 = decide ((normalName card, cube) ∈ index.pairs) := by
  rw [Bool.eq_iff_iff, decide_eq_true_iff, ← mem_cubes h, ← TextSet.contains_iff_mem, remove,
    cubes]
  cases index.cubes? card <;> rfl

/-! ## Several cubes -/

/-- The pairs of a card with some cubes. -/
def pairsOf (card : String) (cubes : List String) : Finset (String × String) :=
  {normalName card} ×ˢ cubes.toFinset

theorem pairsOf_nil (card : String) : pairsOf card [] = ∅ := rfl

theorem pairsOf_cons (card cube : String) (cubes : List String) :
    pairsOf card (cube :: cubes) = Insert.insert (normalName card, cube) (pairsOf card cubes) := by
  ext ⟨name, other⟩
  simp only [pairsOf, List.toFinset_cons, Finset.mem_product, Finset.mem_singleton,
    Finset.mem_insert, Prod.mk.injEq]
  tauto

/-- A number that goes up with a measure of the index at every step is in the end the growth
    of the measure. -/
theorem foldl_count {op : CardIndex → String → Bool × CardIndex} (measure : CardIndex → ℤ)
    (hnormal : ∀ index cube, index.IsNormal → (op index cube).2.IsNormal)
    (hstep : ∀ index cube, index.IsNormal →
      measure (op index cube).2 = measure index + (op index cube).1.toNat)
    (cubes : List String) (count : Nat) (h : index.IsNormal) :
    let ending := cubes.foldl
      (fun state cube => (state.1 + (op state.2 cube).1.toNat, (op state.2 cube).2)) (count, index)
    (ending.1 : ℤ) = count + measure ending.2 - measure index := by
  induction cubes generalizing count index with
  | nil => simp
  | cons cube cubes ih =>
    have hrest := ih (count + (op index cube).1.toNat) (hnormal index cube h)
    rw [hstep index cube h] at hrest
    simp only [List.foldl_cons]
    push_cast at hrest
    omega

theorem pairs_foldl {op : CardIndex → String → Bool × CardIndex}
    {act : Finset (String × String) → String → Finset (String × String)}
    (hnormal : ∀ index cube, index.IsNormal → (op index cube).2.IsNormal)
    (hstep : ∀ index cube, index.IsNormal → (op index cube).2.pairs = act index.pairs cube)
    (cubes : List String) (count : Nat) (h : index.IsNormal) :
    (cubes.foldl (fun state cube => (state.1 + (op state.2 cube).1.toNat, (op state.2 cube).2))
      (count, index)).2.pairs = cubes.foldl act index.pairs := by
  induction cubes generalizing count index with
  | nil => rfl
  | cons cube cubes ih =>
    rw [List.foldl_cons, List.foldl_cons, ih _ (hnormal index cube h), hstep index cube h]

theorem foldl_insert (card : String) (cubes : List String) (pairs : Finset (String × String)) :
    cubes.foldl (fun pairs cube => Insert.insert (normalName card, cube) pairs) pairs =
      pairs ∪ pairsOf card cubes := by
  induction cubes generalizing pairs with
  | nil => rw [pairsOf_nil, Finset.union_empty, List.foldl_nil]
  | cons cube cubes ih =>
    rw [List.foldl_cons, ih, pairsOf_cons, Finset.insert_union, Finset.union_insert]

theorem foldl_erase (card : String) (cubes : List String) (pairs : Finset (String × String)) :
    cubes.foldl (fun pairs cube => pairs.erase (normalName card, cube)) pairs =
      pairs \ pairsOf card cubes := by
  induction cubes generalizing pairs with
  | nil => rw [pairsOf_nil, Finset.sdiff_empty, List.foldl_nil]
  | cons cube cubes ih =>
    rw [List.foldl_cons, ih, pairsOf_cons, Finset.sdiff_insert, Finset.erase_sdiff_comm]

/-- Adding cubes to a card joins their pairs to the relation. -/
theorem pairs_insertAll (h : index.IsNormal) (card : String) (cubes : List String) :
    (index.insertAll card cubes).2.pairs = index.pairs ∪ pairsOf card cubes := by
  rw [← foldl_insert]
  exact pairs_foldl (fun index cube hindex => hindex.insert card cube)
    (fun index cube hindex => pairs_insert hindex card cube) cubes 0 h

/-- The number told is that of the cubes that the card was not paired with. -/
theorem insertAll_fst (h : index.IsNormal) (card : String) (cubes : List String) :
    (index.insertAll card cubes).1 =
      (cubes.toFinset.filter fun cube => (normalName card, cube) ∉ index.pairs).card := by
  have hcount : ((index.insertAll card cubes).1 : ℤ) =
      0 + (index.insertAll card cubes).2.pairs.card - index.pairs.card := by
    refine foldl_count (fun index => index.pairs.card)
      (fun index cube hindex => hindex.insert card cube) (fun index cube hindex => ?_) cubes 0 h
    rw [pairs_insert hindex, insert_fst hindex]
    by_cases hmem : (normalName card, cube) ∈ index.pairs
    · simp [hmem]
    · simp [hmem]
  have hnew : pairsOf card cubes \ index.pairs =
      (cubes.toFinset.filter fun cube => (normalName card, cube) ∉ index.pairs).image
        (Prod.mk (normalName card)) := by
    ext ⟨name, cube⟩
    simp only [pairsOf, Finset.mem_sdiff, Finset.mem_product, Finset.mem_singleton,
      Finset.mem_image, Finset.mem_filter, Prod.mk.injEq]
    constructor
    · rintro ⟨⟨rfl, hcube⟩, hnot⟩
      exact ⟨cube, ⟨hcube, hnot⟩, rfl, rfl⟩
    · rintro ⟨_, ⟨hcube, hnot⟩, rfl, rfl⟩
      exact ⟨⟨rfl, hcube⟩, hnot⟩
  have hunion := Finset.card_sdiff_add_card (pairsOf card cubes) index.pairs
  rw [hnew, Finset.card_image_of_injective _ (Prod.mk_right_injective _)] at hunion
  rw [pairs_insertAll h, Finset.union_comm] at hcount
  omega

/-- Taking cubes from a card deletes their pairs. -/
theorem pairs_removeAll (h : index.IsNormal) (card : String) (cubes : List String) :
    (index.removeAll card cubes).2.pairs = index.pairs \ pairsOf card cubes := by
  rw [← foldl_erase]
  exact pairs_foldl (fun index cube hindex => hindex.remove card cube)
    (fun index cube hindex => pairs_remove hindex card cube) cubes 0 h

/-- The number told is that of the pairs that were deleted. -/
theorem removeAll_fst (h : index.IsNormal) (card : String) (cubes : List String) :
    (index.removeAll card cubes).1 =
      (index.pairs \ (index.removeAll card cubes).2.pairs).card := by
  have hcount : ((index.removeAll card cubes).1 : ℤ) =
      0 + -((index.removeAll card cubes).2.pairs.card : ℤ) - -(index.pairs.card : ℤ) := by
    refine foldl_count (fun index => -(index.pairs.card : ℤ))
      (fun index cube hindex => hindex.remove card cube) (fun index cube hindex => ?_) cubes 0 h
    rw [pairs_remove hindex, remove_fst hindex]
    by_cases hmem : (normalName card, cube) ∈ index.pairs
    · have := Finset.card_erase_add_one hmem
      simp only [hmem, decide_true, Bool.toNat_true]
      omega
    · simp [hmem]
  have hsub : (index.removeAll card cubes).2.pairs ⊆ index.pairs := by
    rw [pairs_removeAll h]
    exact Finset.sdiff_subset
  have hcard := Finset.card_sdiff_add_card_eq_card hsub
  omega

/-! ## Whole cards -/

/-- Taking a card away deletes the pairs of its name. -/
theorem pairs_removeCard (h : index.IsNormal) (card : String) :
    (index.removeCard card).2.pairs = index.pairs.filter fun pair => pair.1 ≠ normalName card := by
  ext ⟨name, cube⟩
  rw [mem_pairs (h.removeCard card), Finset.mem_filter, mem_pairs h, removeCard, Keyed.find?_erase]
  split_ifs with hname
  · constructor
    · exact fun hcube => absurd hcube (TextSet.not_mem_empty cube)
    · exact fun hcube => absurd hname hcube.2
  · exact ⟨fun hcube => ⟨hcube, hname⟩, fun hcube => hcube.1⟩

/-- The cubes that a card had are as many as the pairs that were deleted with it. -/
theorem removeCard_fst (h : index.IsNormal) (card : String) :
    ((index.removeCard card).1.map TextSet.size).getD 0 =
      (index.pairs \ (index.removeCard card).2.pairs).card := by
  have hdeleted : index.pairs \ (index.removeCard card).2.pairs =
      (index.cubes card).toList.toFinset.image (Prod.mk (normalName card)) := by
    ext ⟨name, cube⟩
    rw [pairs_removeCard h, Finset.mem_sdiff, Finset.mem_filter, Finset.mem_image]
    constructor
    · rintro ⟨hpair, hnot⟩
      have hname : name = normalName card := by
        by_contra hname
        exact hnot ⟨hpair, hname⟩
      subst hname
      exact ⟨cube, List.mem_toFinset.mpr ((mem_cubes h).mpr hpair), rfl⟩
    · rintro ⟨_, hcube, ⟨⟩⟩
      exact ⟨(mem_cubes h).mp (List.mem_toFinset.mp hcube), fun hpair => hpair.2 rfl⟩
  have hnodup : (index.cubes card).toList.Nodup := by
    refine List.Pairwise.imp ?_ (index.cubes card).ascending
    rintro a b hlt rfl
    exact String.lt_irrefl a hlt
  rw [hdeleted, Finset.card_image_of_injective _ (Prod.mk_right_injective _),
    List.toFinset_card_of_nodup hnodup, removeCard, cubes]
  cases index.cubes? card <;> rfl

end CubeQuery.CardIndex
