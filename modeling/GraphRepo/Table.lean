/-!
# Tables and sets of names

A table keeps its entries in ascending order of their keys, one per key; a set of names is kept the
same way. The order of strings is that of their code points, which is also that of their bytes in
UTF-8.
-/

namespace GraphRepo

/-- Puts a name into an ascending list without repetition. -/
def insertName (name : String) : List String → List String
  | [] => [name]
  | n :: rest =>
    if name < n then name :: n :: rest
    else if name = n then n :: rest
    else n :: insertName name rest

/-- The names of a list in ascending order, each once. -/
def nameSet (names : List String) : List String := names.foldr insertName []

/-- Entries under names, ascending. -/
abbrev Table (α : Type) := List (String × α)

namespace Table

variable {α : Type}

/-- The entry under `key`. -/
def find? (key : String) : Table α → Option α
  | [] => none
  | (k, v) :: rest => if k = key then some v else find? key rest

/-- Writes an entry, in the place of the one the key had. -/
def set (key : String) (value : α) : Table α → Table α
  | [] => [(key, value)]
  | (k, v) :: rest =>
    if key < k then (key, value) :: (k, v) :: rest
    else if key = k then (key, value) :: rest
    else (k, v) :: set key value rest

/-- Writes every entry of a list in order, so that of several under one key the last stays. -/
def ofList (entries : List (String × α)) : Table α :=
  entries.foldl (fun table e => table.set e.1 e.2) []

/-- The keys, ascending. -/
def keys (table : Table α) : List String := table.map Prod.fst

def has (key : String) (table : Table α) : Bool := (table.find? key).isSome

end Table

end GraphRepo
