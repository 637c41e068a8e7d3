import GraphRepo.Database.Row

/-!
# Bolt values

What travels between a client and the server. A parameter crosses as a Bolt value and a returned
value comes back as JSON: nodes and relationships become their properties, and what JSON cannot hold
is refused.
-/

namespace GraphRepo

/-- A whole number of 64 bits with a sign. -/
structure SignedWord where
  val : Int
  fits : -9223372036854775808 ≤ val ∧ val < 9223372036854775808 := by omega
  deriving DecidableEq

def SignedWord.ofInt? (n : Int) : Option SignedWord :=
  if h : -9223372036854775808 ≤ n ∧ n < 9223372036854775808 then some ⟨n, h⟩ else none

/-- As a whole number of either kind. -/
def SignedWord.toWhole (n : SignedWord) : Whole :=
  ⟨n.val, n.fits.1, by have := n.fits; omega⟩

/-- A Bolt value. -/
inductive BoltValue
  | null
  | bool (b : Bool)
  | int (n : SignedWord)
  | float (x : Double)
  | string (s : String)
  | list (items : List BoltValue)
  | map (entries : List (String × BoltValue))
  | node (id : SignedWord) (labels : List BoltValue) (properties : List (String × BoltValue))
  | relation (id start finish : SignedWord) (type : String) (properties : List (String × BoltValue))
  /-- A relationship whose ends are not known. -/
  | unboundRelation (id : SignedWord) (type : String) (properties : List (String × BoltValue))
  | bytes (data : List UInt8)
  | point2d (srid : SignedWord) (x y : Double)
  | point3d (srid : SignedWord) (x y z : Double)
  | duration (months days seconds nanoseconds : SignedWord)
  /-- A day, counted from the first of 1970. -/
  | date (days : SignedWord)
  /-- A time of day at an offset in seconds. -/
  | time (nanoseconds offset : SignedWord)
  | localTime (nanoseconds : SignedWord)
  | dateTime (seconds nanoseconds offset : SignedWord)
  | localDateTime (seconds nanoseconds : SignedWord)
  | dateTimeZone (seconds nanoseconds : SignedWord) (zone : String)
  | path (nodes relations indices : List BoltValue)
  deriving Inhabited

end GraphRepo
