import GraphRepo.Json

/-!
# Data offered as parameters

A program offers more kinds of data than JSON has: doubles that are no numbers, bytes, characters,
maps with keys that are not texts, and data that refuse to be written. Each of them becomes one JSON
value or a reason why it does not.
-/

namespace GraphRepo

/-- A value that a program offers as a parameter. -/
inductive Datum
  | json (j : Json)
  | double (x : Double)
  | char (c : Char)
  | unit
  | bytes (data : List UInt8)
  | some (inner : Datum)
  | list (items : List Datum)
  | map (entries : List (Datum × Datum))
  /-- Fails to be written, for a reason of its own. -/
  | refused (reason : String)

namespace Datum

/-- The text of a key. Texts, characters and whole numbers can be keys. -/
def keyText : Datum → Except String String
  | .json (.string s) => .ok s
  | .json (.int n) => .ok (toString n.val)
  | .char c => .ok (String.singleton c)
  | .some inner => inner.keyText
  | .refused reason => .error reason
  | _ => .error "key must be a string"

mutual

/-- The JSON value of a datum. Parts are written in order, and the first that fails ends it. -/
def toJson : Datum → Except String Json
  | .json j => .ok j
  | .double x => .ok (.ofDouble x)
  | .char c => .ok (.string (String.singleton c))
  | .unit => .ok .null
  | .bytes data => .ok (.array (data.map fun b => .ofInt b.toNat))
  | .some inner => inner.toJson
  | .list items => (listToJson items).map .array
  | .map entries => (mapToJson entries).map .ofEntries
  | .refused reason => .error reason

def listToJson : List Datum → Except String (List Json)
  | [] => .ok []
  | item :: rest => do
    let j ← item.toJson
    return j :: (← listToJson rest)

def mapToJson : List (Datum × Datum) → Except String (List (String × Json))
  | [] => .ok []
  | (key, value) :: rest => do
    let k ← key.keyText
    let j ← value.toJson
    return (k, j) :: (← mapToJson rest)

end

end Datum

end GraphRepo
