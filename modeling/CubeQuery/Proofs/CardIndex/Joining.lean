import CubeQuery.Proofs.CardIndex.Relation
import CubeQuery.Proofs.Store.Saving
import Mathlib.Data.List.Dedup

/-!
# Entries under any spelling

A document may list a card under several spellings of its name, under one
spelling several times, and with no cubes at all. Of the entries with exactly
the same name the last one counts. What counts under the spellings of a card is
joined, and a card without cubes is left out.

* `lastCubes`: the cubes that count under exactly one name.
* `mem_pairs_ofListed`: the relation of an index that is made from entries.
* `Joins`: what an index has to do with the entries that it is made from.
* `read_joins_spellings`: every document that is accepted is read in this way, whatever the
  order of its entries with different names.
-/

namespace CubeQuery.CardIndex

/-- Entries as a document lists them. -/
abbrev Listing := List (String × List String)

variable {index : CardIndex} {entries entries' : Listing} {name card cube : String}

/-! ## The entry that counts -/

/-- The cubes of the last entry with exactly this name, if there is one. -/
def lastCubes? (entries : Listing) (name : String) : Option (List String) :=
  (entries.filter (·.1 = name)).getLast?.map Prod.snd

/-- The cubes of the last entry with exactly this name. Without an entry there are none. -/
def lastCubes (entries : Listing) (name : String) : List String :=
  (lastCubes? entries name).getD []

theorem lastCubes?_snoc (entry : String × List String) :
    lastCubes? (entries ++ [entry]) name =
      if name = entry.1 then some entry.2 else lastCubes? entries name := by
  unfold lastCubes?
  rw [List.filter_append]
  by_cases h : entry.1 = name
  · rw [if_pos h.symm, List.filter_singleton, decide_eq_true h]
    simp
  · rw [if_neg (Ne.symm h), List.filter_singleton, decide_eq_false h]
    simp

/-- A name with cubes that count is listed. -/
theorem mem_names_of_mem_lastCubes (h : cube ∈ lastCubes entries name) :
    name ∈ entries.map Prod.fst := by
  unfold lastCubes lastCubes? at h
  cases hlast : (entries.filter (·.1 = name)).getLast? with
  | none =>
    rw [hlast] at h
    exact absurd h List.not_mem_nil
  | some entry =>
    have hmem := List.mem_filter.mp (List.mem_of_getLast? hlast)
    exact List.mem_map.mpr ⟨entry, hmem.1, of_decide_eq_true hmem.2⟩

/-- The entries by their exact names, where a later one has replaced an earlier one. -/
def replaced (entries : Listing) : List (String × TextSet) :=
  entries.foldl (fun acc (name, cubes) => Keyed.put name (TextSet.ofList cubes) acc) []

theorem ascending_replaced (entries : Listing) : Keyed.Ascending (replaced entries) :=
  foldl_keeps (fun _ _ hstate => Keyed.ascending_put hstate) entries List.Pairwise.nil

/-- Under each name stands what is listed last. -/
theorem find?_replaced (entries : Listing) (name : String) :
    Keyed.find? name (replaced entries) = (lastCubes? entries name).map TextSet.ofList := by
  -- the last entry decides, so the induction adds entries at the end
  induction entries using List.reverseRecOn with
  | nil => rfl
  | append_singleton entries entry ih =>
    have hstep : replaced (entries ++ [entry]) =
        Keyed.put entry.1 (TextSet.ofList entry.2) (replaced entries) := by
      rw [replaced, List.foldl_append]
      rfl
    rw [hstep, Keyed.find?_put, lastCubes?_snoc, ih]
    split_ifs <;> rfl

theorem mem_lastCubes_iff :
    cube ∈ lastCubes entries name ↔ ∃ cubes, (name, cubes) ∈ replaced entries ∧ cube ∈ cubes := by
  have hfind : ∀ cubes, (name, cubes) ∈ replaced entries ↔
      (lastCubes? entries name).map TextSet.ofList = some cubes := fun cubes => by
    rw [← find?_replaced, Keyed.find?_eq_some_iff (ascending_replaced entries)]
  simp only [hfind, lastCubes]
  cases lastCubes? entries name with
  | none => simp
  | some cubes => simp [TextSet.mem_ofList]

/-! ## Joining under normal names -/

theorem mem_pairs_absorb (h : index.IsNormal) (listed : String) (cubes : TextSet) :
    (name, cube) ∈ (index.absorb listed cubes).pairs ↔
      (name, cube) ∈ index.pairs ∨ normalName listed = name ∧ cube ∈ cubes := by
  rw [mem_pairs (h.absorb listed cubes), mem_pairs h, absorb]
  split_ifs with hempty
  · rw [TextSet.isEmpty_iff.mp hempty]
    exact (or_iff_left fun hcube => TextSet.not_mem_empty cube hcube.2).symm
  · rw [Keyed.find?_put]
    by_cases hname : name = normalName listed
    · subst hname
      rw [if_pos rfl, Option.getD_some, TextSet.mem_union, or_comm]
      simp only [true_and]
      rfl
    · rw [if_neg hname]
      exact (or_iff_left fun hcube => hname hcube.1.symm).symm

/-- Entries that are joined one after the other add their cubes under normal names. -/
theorem mem_pairs_foldl_absorb (named : List (String × TextSet)) (h : index.IsNormal) :
    (name, cube) ∈
        (named.foldl (fun index (name, cubes) => index.absorb name cubes) index).pairs ↔
      (name, cube) ∈ index.pairs ∨
        ∃ entry ∈ named, normalName entry.1 = name ∧ cube ∈ entry.2 := by
  induction named generalizing index with
  | nil => simp
  | cons entry named ih =>
    rw [List.foldl_cons, ih (h.absorb entry.1 entry.2), mem_pairs_absorb h,
      List.exists_mem_cons_iff, or_assoc]

/-- A normal name is paired with the cubes that count under its spellings. -/
theorem mem_pairs_ofListed :
    (name, cube) ∈ (ofListed entries).pairs ↔
      ∃ listed, normalName listed = name ∧ cube ∈ lastCubes entries listed := by
  have hempty : (name, cube) ∉ empty.pairs := by simp [empty, pairs]
  have hjoin : (name, cube) ∈ (ofListed entries).pairs ↔
      ∃ entry ∈ replaced entries, normalName entry.1 = name ∧ cube ∈ entry.2 :=
    (mem_pairs_foldl_absorb (replaced entries) isNormal_empty).trans (or_iff_right hempty)
  rw [hjoin]
  simp only [mem_lastCubes_iff]
  constructor
  · rintro ⟨⟨listed, cubes⟩, hentry, hname, hcube⟩
    exact ⟨listed, hname, cubes, hentry, hcube⟩
  · rintro ⟨listed, hname, cubes, hentry, hcube⟩
    exact ⟨(listed, cubes), hentry, hname, hcube⟩

/-! ## The index of a listing -/

/-- The spellings of a card's name among the names that are listed, each once. -/
def spellings (entries : Listing) (card : String) : List String :=
  (entries.map Prod.fst).dedup.filter (normalName · = normalName card)

/-- The cubes that count under the spellings of a card's name, together. -/
def joinedCubes (entries : Listing) (card : String) : TextSet :=
  TextSet.ofList ((spellings entries card).flatMap (lastCubes entries))

theorem mem_joinedCubes :
    cube ∈ joinedCubes entries card ↔
      ∃ listed, normalName listed = normalName card ∧ cube ∈ lastCubes entries listed := by
  rw [joinedCubes, TextSet.mem_ofList, List.mem_flatMap]
  constructor
  · rintro ⟨listed, hlisted, hcube⟩
    exact ⟨listed, of_decide_eq_true (List.mem_filter.mp hlisted).2, hcube⟩
  · rintro ⟨listed, hname, hcube⟩
    refine ⟨listed, List.mem_filter.mpr ⟨?_, decide_eq_true hname⟩, hcube⟩
    exact List.mem_dedup.mpr (mem_names_of_mem_lastCubes hcube)

/-- What an index has to do with the entries that it is made from. -/
structure Joins (entries : Listing) (index : CardIndex) : Prop where
  /-- A card has the cubes that count under the spellings of its name, and it is not indexed if
      there are none. -/
  cubes? : ∀ card, index.cubes? card =
    if joinedCubes entries card = .empty then none else some (joinedCubes entries card)
  /-- Every name of the index has a spelling under which cubes are listed last. -/
  names : ∀ entry ∈ index.entries, ∃ listed ∈ entries.map Prod.fst,
    normalName listed = entry.1 ∧ lastCubes entries listed ≠ []
  /-- Joining the entries of the index once more changes nothing. -/
  settled : ofNamed index.entries = index

theorem joins_ofListed (entries : Listing) : Joins entries (ofListed entries) := by
  have hnormal : (ofListed entries).IsNormal := isNormal_ofNamed _
  constructor
  case cubes? =>
    intro card
    have hcubes : (ofListed entries).cubes card = joinedCubes entries card :=
      TextSet.ext fun cube => by rw [mem_cubes hnormal, mem_pairs_ofListed, mem_joinedCubes]
    rw [← hcubes]
    exact find?_eq_of_isNormal hnormal (normalName card)
  case names =>
    intro entry hentry
    obtain ⟨cube, hcube⟩ := TextSet.exists_mem (hnormal.nonempty entry hentry)
    have hpair : (entry.1, cube) ∈ (ofListed entries).pairs := by
      rw [mem_pairs hnormal, (Keyed.find?_eq_some_iff hnormal.ascending).mpr hentry]
      exact hcube
    obtain ⟨listed, hname, hcounts⟩ := mem_pairs_ofListed.mp hpair
    exact ⟨listed, mem_names_of_mem_lastCubes hcounts, hname, List.ne_nil_of_mem hcounts⟩
  case settled => exact foldl_absorb [] hnormal

/-- Two listings in which the entries of each single name are the same, in the same order.
    Entries with different names can be in any order. -/
def SameUnderNames (entries entries' : Listing) : Prop :=
  ∀ name, entries.filter (·.1 = name) = entries'.filter (·.1 = name)

theorem ofListed_eq_of_sameUnderNames (h : SameUnderNames entries entries') :
    ofListed entries = ofListed entries' := by
  have hlast : lastCubes entries = lastCubes entries' := by
    funext name
    rw [lastCubes, lastCubes?, h name, lastCubes, lastCubes?]
  refine eq_of_pairs_eq (isNormal_ofNamed _) (isNormal_ofNamed _) (Finset.ext fun pair => ?_)
  obtain ⟨name, cube⟩ := pair
  rw [mem_pairs_ofListed, mem_pairs_ofListed, hlast]

/-- **Loading loses no entry to normalisation.** A document that is accepted is read as an index
    in which each card has the cubes that are listed last under each spelling of its name, and
    every store whose file holds the document loads that index. A document with the same entries
    under each name is read as the same index, in whatever order it lists different names. -/
theorem read_joins_spellings {text : String} (h : listed text = .ok entries) :
    ∃ index, read text = .ok index ∧ Joins entries index ∧
      (∀ (store : Store) (world : World),
        world.files.readBytes store.path = .ok text.toUTF8 →
        ((store.load : Simulation _) world).1 = .ok index ∧
          ((store.loadOrEmpty : Simulation _) world).1 = .ok index) ∧
      ∀ text' entries', listed text' = .ok entries' → SameUnderNames entries entries' →
        read text' = .ok index := by
  have hread : ∀ {text entries}, listed text = .ok entries →
      read text = .ok (ofListed entries) := fun h => by rw [read, h]
  refine ⟨ofListed entries, hread h, joins_ofListed entries, fun store world hfile => ?_, ?_⟩
  · have hload := Store.yields_load_of_read hfile (hread h)
    exact ⟨hload.fst, (hload.bind (.pure _) : Simulation.Yields store.loadOrEmpty _ _ _).fst⟩
  · intro text' entries' h' hsame
    rw [hread h', ofListed_eq_of_sameUnderNames hsame]

/-- A card under two spellings, one of them twice, and a card without cubes. With the names in
    another order the document is read as the same index. -/
theorem read_joins_spellings_of_murder :
    ∃ index,
      read ("\x7b\"cards\":\x7b\"Murder\":[\"1\"],\"Opt\":[]," ++
        "\"murder \":[\"2\",\"2\"],\"Murder\":[\"3\"]\x7d\x7d") = .ok index ∧
      index.cubes? " MURDER" = some (TextSet.ofList ["2", "3"]) ∧ index.cubes? "opt" = none ∧
      read ("\x7b\"cards\":\x7b\"murder \":[\"2\",\"2\"],\"Murder\":[\"1\"]," ++
        "\"Murder\":[\"3\"],\"Opt\":[]\x7d\x7d") = .ok index := by
  have h : listed ("\x7b\"cards\":\x7b\"Murder\":[\"1\"],\"Opt\":[]," ++
      "\"murder \":[\"2\",\"2\"],\"Murder\":[\"3\"]\x7d\x7d") =
      .ok [("Murder", ["1"]), ("Opt", []), ("murder ", ["2", "2"]), ("Murder", ["3"])] := by
    decide +kernel
  have h' : listed ("\x7b\"cards\":\x7b\"murder \":[\"2\",\"2\"],\"Murder\":[\"1\"]," ++
      "\"Murder\":[\"3\"],\"Opt\":[]\x7d\x7d") =
      .ok [("murder ", ["2", "2"]), ("Murder", ["1"]), ("Murder", ["3"]), ("Opt", [])] := by
    decide +kernel
  obtain ⟨index, hread, hjoins, -, horder⟩ := read_joins_spellings h
  refine ⟨index, hread, ?_, ?_, horder _ _ h' fun name => ?_⟩
  · rw [hjoins.cubes?]
    decide +kernel
  · rw [hjoins.cubes?]
    decide +kernel
  · by_cases hplain : "Murder" = name
    · subst hplain
      decide
    · by_cases hblank : "murder " = name
      · subst hblank
        decide
      · simp [List.filter_cons, hplain, hblank]

end CubeQuery.CardIndex
