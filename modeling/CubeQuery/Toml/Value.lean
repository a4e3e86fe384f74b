/-!
# Values of TOML documents

The value of a document is a table. While a document is read, a table also
knows how it came about, because that decides who may add to it:

* a `sealed` table was written in one piece, and nothing is added to it;
* a `declared` table has a header of its own;
* an `implied` table is on the way of a header, and may get its own header later;
* a `dotted` table is on the way of a dotted key, and only dotted keys add to it.
-/

namespace CubeQuery

/-- How a table came about. -/
inductive TableKind where
  | sealed
  | declared
  | implied
  | dotted
deriving DecidableEq, Repr

/-- A value. Only what the program uses is kept of numbers with a fraction and of dates
    and times: that they are such. -/
inductive Toml where
  | text (s : String)
  | int (n : Int)
  | flag (b : Bool)
  | real
  | moment
  | list (items : List Toml)
  | table (kind : TableKind) (members : List (String × Toml))
  /-- Tables with a common header, one for each time that it is written. -/
  | tables (elements : List (List (String × Toml)))

namespace Toml

instance : Inhabited Toml := ⟨real⟩

/-- The members of a table, in the order in which they were written. -/
abbrev Members := List (String × Toml)

/-- Members with another value for a key that they have. -/
def replace (key : String) (value : Toml) (members : Members) : Members :=
  members.map fun (k, v) => if k = key then (k, value) else (k, v)

/-- Goes down a path of keys and changes the table at its end. Tables that are missing on
    the way are made, for a dotted key as dotted tables and else as implied ones. A list of
    tables is entered at its last element. -/
def descend (isDotted : Bool) (change : TableKind → Members → Option Members) :
    List String → TableKind → Members → Option Members
  | [], kind, members => change kind members
  | key :: path, _, members =>
    match members.lookup key with
    | none =>
      let kind := if isDotted then TableKind.dotted else .implied
      (descend isDotted change path kind []).map fun inner => members ++ [(key, table kind inner)]
    | some (table kind inner) =>
      if kind = .sealed ∨ (isDotted ∧ kind = .declared) then none
      else
        (descend isDotted change path kind inner).map fun inner' =>
          replace key (table kind inner') members
    | some (tables elements) =>
      match elements.getLast? with
      | none => none
      | some last =>
        (descend isDotted change path .declared last).map fun last' =>
          replace key (tables (elements.dropLast ++ [last'])) members
    | some _ => none

/-- Adds a value under a dotted key, the last part of which is `key`. A dotted table takes
    values from dotted keys only, and other tables from plain keys only. -/
def addPair (path : List String) (key : String) (value : Toml) (kind : TableKind)
    (members : Members) : Option Members :=
  descend true
    (fun kind members =>
      if decide (kind = .dotted) = path.isEmpty then none
      else if (members.lookup key).isSome then none
      else some (members ++ [(key, value)]))
    path kind members

/-- Starts the table of a header, the last part of which is `key`. -/
def declare (key : String) (members : Members) : Option Members :=
  match members.lookup key with
  | none => some (members ++ [(key, table .declared [])])
  | some (table .implied inner) => some (replace key (table .declared inner) members)
  | some _ => none

/-- Starts the next table of a repeated header, the last part of which is `key`. -/
def declareNext (key : String) (members : Members) : Option Members :=
  match members.lookup key with
  | none => some (members ++ [(key, tables [[]])])
  | some (tables elements) => some (replace key (tables (elements ++ [[]])) members)
  | some _ => none

end Toml

end CubeQuery
