/-!
# Lists of pairs keyed by text

A finite map from texts is a list of pairs in ascending order of the keys, each
key once. The operations here keep that order.
-/

namespace CubeQuery.Keyed

variable {β : Type}

/-- The value of a key. -/
def find? (key : String) : List (String × β) → Option β
  | [] => none
  | (k, b) :: rest => if key = k then some b else find? key rest

/-- Gives a key a value, in place of any value that it had. -/
def put (key : String) (value : β) : List (String × β) → List (String × β)
  | [] => [(key, value)]
  | (k, b) :: rest =>
    if key < k then (key, value) :: (k, b) :: rest
    else if key = k then (key, value) :: rest
    else (k, b) :: put key value rest

/-- Takes a key and its value out. -/
def erase (key : String) (entries : List (String × β)) : List (String × β) :=
  entries.filter (·.1 ≠ key)

theorem find?_put (key k : String) (value : β) (entries : List (String × β)) :
    find? k (put key value entries) = if k = key then some value else find? k entries := by
  fun_induction put key value entries <;> grind [find?]

theorem find?_erase (key k : String) (entries : List (String × β)) :
    find? k (erase key entries) = if k = key then none else find? k entries := by
  induction entries with
  | nil => simp [erase, find?]
  | cons entry entries ih =>
    obtain ⟨k', b⟩ := entry
    have ih' : find? k (entries.filter (·.1 ≠ key)) =
        if k = key then none else find? k entries := ih
    by_cases hk : k' = key
    · subst hk
      by_cases h : k = k' <;> simp [erase, find?, h] <;> simpa [h] using ih'
    · by_cases h : k = k'
      · subst h
        simp [erase, find?, hk]
      · simp [erase, find?, hk, h]
        simpa using ih'

end CubeQuery.Keyed
