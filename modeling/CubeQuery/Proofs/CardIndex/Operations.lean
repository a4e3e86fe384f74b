import CubeQuery.Proofs.CardIndex.Relation

/-!
# Operations through the relation

Every reachable index keeps its names in the order of their bytes, and every
operation on it can be described by its relation alone: what it changes, what it
answers, and that the pairs of other cards stay as they are.

* `Text.bytes_lt`: the order of texts is the order of their bytes.
* `size_eq`, `isEmpty_iff`: the number of cards is that of the names in the relation.
* `lists_cubes?`: the cubes of a card are the ones that its name is paired with.
* `Operation.mem_pairs_run`: an operation on a card changes no pairs of other names.
* `operations_act_on_pairs`: all of it, for every reachable index.
-/

namespace CubeQuery

/-! ## The order of bytes -/

namespace Text

/-- The bytes of a text. -/
def bytes (text : String) : List UInt8 := text.toUTF8.data.toList

theorem bytes_eq (text : String) : bytes text = text.toList.flatMap String.utf8EncodeChar := by
  rw [bytes, String.toUTF8, ← String.utf8Encode_toList, List.utf8Encode, List.data_toByteArray]

/-- The bytes of a lower character come first, whatever follows. -/
theorem utf8EncodeChar_append_lt {c d : Char} (h : c < d) (l r : List UInt8) :
    String.utf8EncodeChar c ++ l < String.utf8EncodeChar d ++ r := by
  have hlt : c.val.toNat < d.val.toNat := h
  have hmax : d.val.toNat < 0x110000 := by
    rcases d.valid with hd | hd <;> omega
  have hdigits : ∀ n : Nat, n / 4096 = n / 64 / 64 ∧ n / 262144 = n / 64 / 64 / 64 := by omega
  unfold String.utf8EncodeChar
  dsimp only
  -- one case for each pair of lengths; the first byte tells characters of different lengths apart
  split_ifs <;>
    simp only [List.cons_append, List.nil_append, List.cons_lt_cons_iff, UInt8.lt_iff_toNat_lt,
      ← UInt8.toNat_inj, UInt8.toNat_ofNat', (hdigits _).1, (hdigits _).2]
  all_goals omega

/-- The order of texts is the order of their bytes. -/
theorem bytes_lt {a b : String} (h : a < b) : bytes a < bytes b := by
  rw [bytes_eq, bytes_eq]
  rw [String.lt_iff] at h
  generalize a.toList = l at h
  generalize b.toList = r at h
  replace h := List.lex_lt.mpr h
  induction h with
  | @nil c r =>
    cases hbytes : (c :: r).flatMap String.utf8EncodeChar with
    | nil =>
      have hlength := congrArg List.length hbytes
      simp only [List.flatMap_cons, List.length_append, List.length_nil,
        String.length_utf8EncodeChar] at hlength
      have := c.utf8Size_pos
      omega
    | cons byte rest => exact List.nil_lt_cons byte rest
  | @cons c l r _ ih =>
    rw [List.flatMap_cons, List.flatMap_cons]
    exact List.append_left_lt ih
  | rel hlt =>
    rw [List.flatMap_cons, List.flatMap_cons]
    exact utf8EncodeChar_append_lt hlt _ _

end Text

namespace CardIndex

variable {index : CardIndex}

/-! ## Numbers of cards -/

/-- The names of the entries are those of the relation, since every card has a cube. -/
theorem image_fst_pairs (h : index.IsNormal) :
    index.pairs.image Prod.fst = (index.entries.map Prod.fst).toFinset := by
  ext name
  simp only [Finset.mem_image, List.mem_toFinset, List.mem_map]
  constructor
  · rintro ⟨⟨name, cube⟩, hpair, rfl⟩
    rw [mem_pairs h] at hpair
    cases hfind : Keyed.find? name index.entries with
    | none =>
      rw [hfind] at hpair
      exact absurd hpair (TextSet.not_mem_empty cube)
    | some cubes => exact ⟨(name, cubes), Keyed.mem_of_find?_eq_some hfind, rfl⟩
  · rintro ⟨⟨name, cubes⟩, hentry, rfl⟩
    obtain ⟨cube, hcube⟩ := TextSet.exists_mem (h.nonempty _ hentry)
    refine ⟨(name, cube), ?_, rfl⟩
    rw [mem_pairs h, (Keyed.find?_eq_some_iff h.ascending).mpr hentry]
    exact hcube

/-- The number of cards is that of the names in the relation. -/
theorem size_eq (h : index.IsNormal) : index.size = (index.pairs.image Prod.fst).card := by
  have hnodup : (index.entries.map Prod.fst).Nodup := by
    refine List.Pairwise.map Prod.fst (fun a b hlt => ?_) h.ascending
    exact fun heq => String.lt_irrefl b.1 (heq ▸ hlt)
  rw [image_fst_pairs h, List.toFinset_card_of_nodup hnodup, List.length_map, size]

theorem isEmpty_iff (h : index.IsNormal) : index.isEmpty = true ↔ index.pairs = ∅ := by
  rw [isEmpty, List.isEmpty_iff, ← List.length_eq_zero_iff,
    ← Finset.image_eq_empty (f := Prod.fst), ← Finset.card_eq_zero, ← size_eq h, size]

/-! ## Cubes of a card -/

/-- An answer about a name: none if the relation has no pair of it, and else a set of exactly
    the cubes that it is paired with. -/
def Lists (pairs : Finset (String × String)) (name : String) (answer : Option TextSet) : Prop :=
  (answer = none ↔ ∀ cube, (name, cube) ∉ pairs) ∧
    ∀ cubes, answer = some cubes → ∀ cube, cube ∈ cubes ↔ (name, cube) ∈ pairs

theorem lists_cubes? (h : index.IsNormal) (card : String) :
    Lists index.pairs (normalName card) (index.cubes? card) := by
  have hmem : ∀ cube, cube ∈ (index.cubes? card).getD .empty ↔
      (normalName card, cube) ∈ index.pairs := fun cube => mem_cubes h
  cases hcubes : index.cubes? card with
  | none =>
    rw [hcubes] at hmem
    refine ⟨iff_of_true rfl fun cube hpair => ?_, nofun⟩
    exact TextSet.not_mem_empty cube ((hmem cube).mpr hpair)
  | some cubes =>
    rw [hcubes] at hmem
    obtain ⟨cube, hcube⟩ := TextSet.exists_mem
      (h.nonempty _ (Keyed.mem_of_find?_eq_some hcubes))
    refine ⟨iff_of_false nofun fun hnone => hnone cube ((hmem cube).mp hcube), ?_⟩
    rintro _ ⟨⟩
    exact hmem

/-! ## Other cards -/

/-- An operation that changes an index. -/
inductive Operation where
  | withCard (card : String) (cubes : List String)
  | insert (card cube : String)
  | remove (card cube : String)
  | removeCard (card : String)

namespace Operation

/-- The card that an operation is about. -/
def card : Operation → String
  | withCard card _ => card
  | insert card _ => card
  | remove card _ => card
  | removeCard card => card

/-- The index after an operation. -/
def run (index : CardIndex) : Operation → CardIndex
  | withCard card cubes => index.withCard card cubes
  | insert card cube => (index.insert card cube).2
  | remove card cube => (index.remove card cube).2
  | removeCard card => (index.removeCard card).2

/-- An operation on a card changes no pairs of other names. -/
theorem mem_pairs_run (h : index.IsNormal) (operation : Operation) {name : String}
    (hname : name ≠ normalName operation.card) (cube : String) :
    (name, cube) ∈ (operation.run index).pairs ↔ (name, cube) ∈ index.pairs := by
  have hother : ∀ other, (name, cube) ≠ (normalName operation.card, other) := by
    intro other heq
    exact hname (congrArg Prod.fst heq)
  cases operation with
  | withCard card cubes =>
    rw [run, CardIndex.withCard, pairs_insertAll h, Finset.mem_union, pairsOf, Finset.mem_product,
      Finset.mem_singleton]
    exact or_iff_left fun hnew => hname hnew.1
  | insert card other =>
    rw [run, pairs_insert h, Finset.mem_insert]
    exact or_iff_right (hother other)
  | remove card other =>
    rw [run, pairs_remove h, Finset.mem_erase]
    exact and_iff_right (hother other)
  | removeCard card =>
    rw [run, pairs_removeCard h, Finset.mem_filter]
    exact and_iff_left hname

end Operation

/-! ## All operations -/

/-- The operations on an index are described by a relation: what they change in it, and what
    they answer. -/
structure ActsOn (index : CardIndex) (pairs : Finset (String × String)) : Prop where
  /-- Inserting adds one pair, and tells whether it was absent. -/
  insert : ∀ card cube,
    (index.insert card cube).2.pairs = Insert.insert (normalName card, cube) pairs ∧
      ((index.insert card cube).1 = true ↔ (normalName card, cube) ∉ pairs)
  /-- Removing deletes one pair, and tells whether it was present. -/
  remove : ∀ card cube,
    (index.remove card cube).2.pairs = pairs.erase (normalName card, cube) ∧
      ((index.remove card cube).1 = true ↔ (normalName card, cube) ∈ pairs)
  /-- Taking a card away deletes the pairs of its name, and answers with their cubes. -/
  removeCard : ∀ card,
    (index.removeCard card).2.pairs = pairs.filter (fun pair => pair.1 ≠ normalName card) ∧
      Lists pairs (normalName card) (index.removeCard card).1
  withCard : ∀ card cubes,
    (index.withCard card cubes).pairs = pairs ∪ {normalName card} ×ˢ cubes.toFinset
  withCard_nil : ∀ card, index.withCard card [] = index
  cubes? : ∀ card, Lists pairs (normalName card) (index.cubes? card)
  size : index.size = (pairs.image Prod.fst).card
  isEmpty : index.isEmpty = true ↔ pairs = ∅
  /-- No operation changes the pairs of another name. -/
  others : ∀ (operation : Operation) (name cube : String), name ≠ normalName operation.card →
    ((name, cube) ∈ (operation.run index).pairs ↔ (name, cube) ∈ pairs)

theorem IsNormal.actsOn (h : index.IsNormal) : index.ActsOn index.pairs where
  insert card cube := ⟨pairs_insert h card cube, by rw [insert_fst h, decide_eq_true_iff]⟩
  remove card cube := ⟨pairs_remove h card cube, by rw [remove_fst h, decide_eq_true_iff]⟩
  removeCard card := ⟨pairs_removeCard h card, lists_cubes? h card⟩
  withCard card cubes := pairs_insertAll h card cubes
  withCard_nil _ := rfl
  cubes? card := lists_cubes? h card
  size := size_eq h
  isEmpty := isEmpty_iff h
  others operation _ cube hname := operation.mem_pairs_run h hname cube

/-- **Reachable indexes are relations.** In every index that the operations and documents lead
    to, the names are in strictly ascending order of their bytes, every name is normal, and
    every card has a cube; and the operations on it act on its relation. -/
theorem operations_act_on_pairs (h : index.Reachable) :
    index.entries.Pairwise (fun a b => Text.bytes a.1 < Text.bytes b.1) ∧
      (∀ entry ∈ index.entries, normalName entry.1 = entry.1) ∧
      (∀ entry ∈ index.entries, entry.2.toList ≠ []) ∧
      index.ActsOn index.pairs := by
  have hnormal := h.isNormal
  refine ⟨hnormal.ascending.imp Text.bytes_lt, hnormal.normal, fun entry hentry => ?_,
    hnormal.actsOn⟩
  obtain ⟨cube, hcube⟩ := TextSet.exists_mem (hnormal.nonempty entry hentry)
  exact List.ne_nil_of_mem hcube

/-- A document with two spellings of a card and a card without cubes. The index has one card,
    and loses it with the last of its cubes. -/
theorem operations_act_on_pairs_of_document :
    ∃ index, read "\x7b\"cards\":\x7b\" BOLT\":[\"b\"],\"bolt\":[\"a\"],\"x\":[]\x7d\x7d" =
        .ok index ∧
      index.size = (index.pairs.image Prod.fst).card ∧
      index.pairs = {("bolt", "a"), ("bolt", "b")} ∧
      (((index.remove "Bolt " "a").2.remove "bolt" "b").2.isEmpty = true) := by
  have hread : read "\x7b\"cards\":\x7b\" BOLT\":[\"b\"],\"bolt\":[\"a\"],\"x\":[]\x7d\x7d" =
      .ok ⟨[("bolt", TextSet.ofList ["a", "b"])]⟩ := by decide +kernel
  have hfirst := Reachable.read hread
  have hacts := (operations_act_on_pairs hfirst).2.2.2
  have hlast := (operations_act_on_pairs ((hfirst.remove "Bolt " "a").remove "bolt" "b")).2.2.2
  exact ⟨_, hread, hacts.size, by decide +kernel, hlast.isEmpty.mpr (by decide +kernel)⟩

end CardIndex

end CubeQuery
