import GraphRepo.Database.Session

/-!
# The base of every repository

Create, update, find and delete for the entities of one type.
-/

namespace GraphRepo

/-- The base repository of an entity type over a session. `onUpdate` is applied to a value right
before an update is saved. -/
structure BaseRepository (σ α : Type) where
  session : Session σ
  entity : Entity α
  onUpdate : α → α

namespace BaseRepository

variable {σ α : Type}

def plain (session : Session σ) (entity : Entity α) : BaseRepository σ α := ⟨session, entity, id⟩

def updatable (session : Session σ) (entity : Entity α) : BaseRepository σ α :=
  ⟨session, entity, entity.beforeUpdate⟩

def create (r : BaseRepository σ α) (a : α) : Action σ α := do
  r.session.save r.entity a
  return a

/-- Prepares a value, saves it and returns it. -/
def update (r : BaseRepository σ α) (a : α) : Action σ α := do
  let a := r.onUpdate a
  r.session.save r.entity a
  return a

def findById (r : BaseRepository σ α) (id : Datum) : Action σ (Option α) :=
  r.session.load r.entity id

def delete (r : BaseRepository σ α) (a : α) : Action σ Unit := r.session.delete r.entity a

/-- Deletes the value with an identifier, if there is one. -/
def deleteById (r : BaseRepository σ α) (id : Datum) : Action σ Unit := do
  match ← r.findById id with
  | some a => r.delete a
  | none => return ()

end BaseRepository

end GraphRepo
