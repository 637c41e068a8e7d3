import GraphRepo.Table
import GraphRepo.Decimal.Double

/-!
# JSON values

The values that cross the border to the graph database. A number is either a whole number of 64
bits, signed or unsigned, or a finite double; the two are different values even where they are
equal as numbers. An object is a table: its keys ascend.
-/

namespace GraphRepo

/-- A whole number that fits 64 bits with or without a sign. -/
structure Whole where
  val : Int
  lower : -9223372036854775808 ≤ val := by omega
  upper : val < 18446744073709551616 := by omega
  deriving DecidableEq

/-- A double that is a number and not infinite. -/
structure FiniteDouble where
  val : Double
  finite : val.isFinite = true
  deriving DecidableEq

/-- A JSON value. -/
inductive Json
  | null
  | bool (b : Bool)
  | int (n : Whole)
  | float (x : FiniteDouble)
  | string (s : String)
  | array (items : List Json)
  | object (fields : List (String × Json))
  deriving Inhabited

def Whole.ofInt? (n : Int) : Option Whole :=
  if h : -9223372036854775808 ≤ n ∧ n < 18446744073709551616 then some ⟨n, h.1, h.2⟩ else none

namespace Json

/-- A double as JSON: `null` when it is not finite. -/
def ofDouble (x : Double) : Json :=
  if h : x.isFinite = true then .float ⟨x, h⟩ else .null

/-- A whole number as JSON: a double when it does not fit. -/
def ofInt (n : Int) : Json :=
  match Whole.ofInt? n with
  | some w => .int w
  | none => ofDouble (.ofInt n)

/-- An object with the given entries; of several under one key the last stays. -/
def ofEntries (entries : List (String × Json)) : Json := .object (Table.ofList entries)

def fields? : Json → Option (Table Json)
  | .object fields => some fields
  | _ => none

def field? (key : String) : Json → Option Json
  | .object fields => Table.find? key fields
  | _ => none

end Json

end GraphRepo
