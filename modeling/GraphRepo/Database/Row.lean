import GraphRepo.Database.Error
import GraphRepo.Shape

/-!
# Rows and results

A row holds JSON values by column. The result of a statement is read item by item, and an item may
be an error in place of a row.
-/

namespace GraphRepo

abbrev Params := Table Json

/-- The values of a row by column. -/
structure Row where
  columns : Table Json

namespace Row

variable {α : Type}

def get (row : Row) (decode : Decoder α) (key : String) : Except RepositoryError α :=
  match row.columns.find? key with
  | none => .error (.decode ("column not found: " ++ key))
  | some value => (decode value).mapError fun reason =>
    .decode ("failed to deserialize '" ++ key ++ "': " ++ reason)

/-- The value that a whole row stands for: that of its only column, otherwise the object of all. -/
def value (row : Row) : Json :=
  match row.columns with
  | [(_, value)] => value
  | columns => .object columns

def decode (row : Row) (decode : Decoder α) : Except RepositoryError α :=
  (decode row.value).mapError fun reason => .decode ("failed to deserialize row: " ++ reason)

end Row

/-- What is still to be read of a result. -/
abbrev RowStream := List (Except RepositoryError Row)

namespace RowStream

/-- Reads rows up to the first error, and counts the items that were taken. -/
def all : RowStream → Except RepositoryError (List Row) × Nat
  | [] => (.ok [], 0)
  | .error e :: _ => (.error e, 1)
  | .ok row :: rest =>
    let (result, taken) := all rest
    (result.map (row :: ·), taken + 1)

/-- Reads no more than `limit` items: what comes after them is not looked at. -/
def upTo (limit : Nat) (stream : RowStream) : Except RepositoryError (List Row) × Nat :=
  all (stream.take limit)

end RowStream

end GraphRepo
