import GraphRepo.Bolt.Description

/-!
# JSON and Bolt

JSON becomes Bolt unless a whole number in it is above the greatest signed one. Bolt becomes JSON
unless a kind of value occurs in it that JSON has nothing for. The first fault in order is reported.
-/

namespace GraphRepo

mutual

/-- A JSON value as a Bolt value. -/
def Json.toBolt : Json → Except RepositoryError BoltValue
  | .null => .ok .null
  | .bool b => .ok (.bool b)
  | .int n =>
    match SignedWord.ofInt? n.val with
    | some w => .ok (.int w)
    | none => .error (.parameter (toString n.val ++ " does not fit a 64-bit signed integer"))
  | .float x => .ok (.float x.val)
  | .string s => .ok (.string s)
  | .array items => (Json.itemsToBolt items).map .list
  | .object fields => (Json.fieldsToBolt fields).map .map

def Json.itemsToBolt : List Json → Except RepositoryError (List BoltValue)
  | [] => .ok []
  | v :: rest => do
    let b ← v.toBolt
    return b :: (← Json.itemsToBolt rest)

def Json.fieldsToBolt : List (String × Json) → Except RepositoryError (List (String × BoltValue))
  | [] => .ok []
  | (key, v) :: rest => do
    let b ← v.toBolt
    return (key, b) :: (← Json.fieldsToBolt rest)

end

mutual

/-- A Bolt value as JSON. -/
def BoltValue.toJson : BoltValue → Except RepositoryError Json
  | .null => .ok .null
  | .bool b => .ok (.bool b)
  | .int n => .ok (.int n.toWhole)
  | .float x => .ok (.ofDouble x)
  | .string s => .ok (.string s)
  | .list items => (BoltValue.itemsToJson items).map .array
  | .map entries => (BoltValue.entriesToJson entries).map .object
  | .node _ _ properties => (BoltValue.entriesToJson properties).map .object
  | .relation _ _ _ _ properties => (BoltValue.entriesToJson properties).map .object
  | other => .error (.decode ("unsupported Bolt value: " ++ other.describe))

def BoltValue.itemsToJson : List BoltValue → Except RepositoryError (List Json)
  | [] => .ok []
  | v :: rest => do
    let j ← v.toJson
    return j :: (← BoltValue.itemsToJson rest)

def BoltValue.entriesToJson :
    List (String × BoltValue) → Except RepositoryError (List (String × Json))
  | [] => .ok []
  | (key, v) :: rest => do
    let j ← v.toJson
    return (key, j) :: (← BoltValue.entriesToJson rest)

end

end GraphRepo
