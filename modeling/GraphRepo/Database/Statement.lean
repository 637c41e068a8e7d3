import GraphRepo.Database.Row

/-!
# Statements

A statement with its parameters, built up step by step and sent to an executor at the end. A
parameter that cannot be written does not stop the building: the first such error is kept, and
nothing is sent.
-/

namespace GraphRepo

/-- What runs statements. `take` notes that items of a result were read. -/
structure Executor (σ : Type) where
  execute : (text : String) → Params → Action σ RowStream
  run : (text : String) → Params → Action σ Unit
  take : Nat → σ → σ

/-- A statement in the making. -/
structure Statement where
  text : String
  params : Params
  fault : Option RepositoryError

namespace Statement

variable {σ : Type}

def ofText (text : String) : Statement := ⟨text, [], none⟩

/-- Binds a variable, over what it was bound to before. -/
def param (s : Statement) (name : String) (value : Datum) : Statement :=
  match value.toParameter with
  | .ok j => { s with params := s.params.set name j }
  | .error e => { s with fault := s.fault <|> some e }

def bindAll (s : Statement) (params : Params) : Statement :=
  { s with params := params.foldl (fun all p => all.set p.1 p.2) s.params }

def execute (s : Statement) (ex : Executor σ) : Action σ RowStream :=
  match s.fault with
  | some e => throw e
  | none => ex.execute s.text s.params

def reading (ex : Executor σ) (read : Except RepositoryError (List Row) × Nat) :
    Action σ (List Row) := do
  modify (ex.take read.2)
  .ofExcept read.1

def fetchAll (s : Statement) (ex : Executor σ) : Action σ (List Row) := do
  reading ex (← s.execute ex).all

/-- Sends the statement and reads no more than `limit` rows. -/
def fetchUpTo (s : Statement) (limit : Nat) (ex : Executor σ) : Action σ (List Row) := do
  reading ex ((← s.execute ex).upTo limit)

def fetchOne (s : Statement) (ex : Executor σ) : Action σ (Option Row) := do
  return (← s.fetchUpTo 1 ex).getLast?

/-- Sends a statement whose rows are not needed. -/
def run (s : Statement) (ex : Executor σ) : Action σ Unit :=
  match s.fault with
  | some e => throw e
  | none => ex.run s.text s.params

end Statement

end GraphRepo
