import GraphRepo.Database.Statement

/-!
# Entities and sessions

An entity is kept as a node: its label names the kind, one property identifies it, and every field
is a property. A session saves, deletes and loads entities and runs queries; the session over an
executor does so with three statements.
-/

namespace GraphRepo

/-- How the values of a type are kept as nodes. -/
structure Entity (α : Type) where
  label : String
  idProperty : String
  serialize : α → Except String Json
  deserialize : Decoder α
  /-- What is done to a value right before an update is saved, if anything. -/
  hook : Option (α → α)

/-- What an update makes of a value before it is saved. -/
def Entity.beforeUpdate {α : Type} (e : Entity α) (a : α) : α :=
  match e.hook with
  | some hook => hook a
  | none => a

/-- The operations that repositories are built on. -/
structure Session (σ : Type) where
  /-- Creates or replaces the node of a value. -/
  save : {α : Type} → Entity α → α → Action σ Unit
  /-- Removes the node of a value. -/
  delete : {α : Type} → Entity α → α → Action σ Unit
  /-- Loads the value with an identifier. -/
  load : {α : Type} → Entity α → Datum → Action σ (Option α)
  /-- Runs a query and reads every row. -/
  query : {α : Type} → Decoder α → String → Params → Action σ (List α)
  /-- Runs a query and reads its only row, if there is one. -/
  queryForObject : {α : Type} → Decoder α → String → Params → Action σ (Option α)

/-! ## Statements about nodes -/

/-- A name in backticks; a backtick inside it is written twice. -/
def escapeName (name : String) : String :=
  String.ofList ('\x60' :: name.toList.flatMap (fun c => if c = '\x60' then [c, c] else [c])
    ++ ['\x60'])

variable {α σ : Type}

/-- The pattern of the node that `$id` identifies. -/
def Entity.nodePattern (e : Entity α) : String :=
  "(n:" ++ escapeName e.label ++ " \x7b" ++ escapeName e.idProperty ++ ": $id\x7d)"

def Entity.saveText (e : Entity α) : String := "MERGE " ++ e.nodePattern ++ " SET n = $props"

def Entity.deleteText (e : Entity α) : String := "MATCH " ++ e.nodePattern ++ " DETACH DELETE n"

def Entity.loadText (e : Entity α) : String := "MATCH " ++ e.nodePattern ++ " RETURN n"

def Entity.properties (e : Entity α) (a : α) : Except RepositoryError (Json × Json) := do
  let properties ← (e.serialize a).mapError .unwritten
  match properties with
  | .object fields =>
    match Table.find? e.idProperty fields with
    | none | some .null => .error (.missingIdentifier e.label e.idProperty)
    | some id => .ok (properties, id)
  | _ => .error (.internal ("entity `" ++ e.label ++ "` must serialize to a map"))

/-- Reads the only row of at most one. -/
def singleRow (decode : Decoder α) (context : String) : List Row → Except RepositoryError (Option α)
  | [] => .ok none
  | [row] => (row.decode decode).map some
  | rows => .error (.tooManyRows context rows.length)

/-- The session that keeps entities as nodes. -/
def Session.ofExecutor (ex : Executor σ) : Session σ where
  save e a := do
    let (properties, id) ← Action.ofExcept (e.properties a)
    ((Statement.ofText e.saveText).param "id" (.json id)).param "props" (.json properties) |>.run ex
  delete e a := do
    let (_, id) ← Action.ofExcept (e.properties a)
    (Statement.ofText e.deleteText).param "id" (.json id) |>.run ex
  load e id := do
    let rows ← (Statement.ofText e.loadText).param "id" id |>.fetchUpTo 2 ex
    Action.ofExcept (singleRow e.deserialize e.label rows)
  query decode text params := do
    let rows ← (Statement.ofText text).bindAll params |>.fetchAll ex
    Action.ofExcept (rows.mapM (·.decode decode))
  queryForObject decode text params := do
    let rows ← (Statement.ofText text).bindAll params |>.fetchUpTo 2 ex
    Action.ofExcept (singleRow decode text rows)

end GraphRepo
