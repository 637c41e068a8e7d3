import GraphRepo.Datum
import GraphRepo.Json.Reason

/-!
# What may go wrong with a repository

The causes of failure of sessions, repositories and generated methods, and their wording.
-/

namespace GraphRepo

/-- Why an operation of a session or a repository failed. -/
inductive RepositoryError
  /-- A query that must have a result had none. -/
  | notFound (context : String)
  /-- A query that may have one row had `count` at least. -/
  | tooManyRows (context : String) (count : Nat)
  /-- An entity has no identifier to find it by. -/
  | missingIdentifier (label property : String)
  /-- A value could not be written as JSON, or an entity could not be read. -/
  | serialization (reason : String)
  /-- The server could not be reached, or the connection broke. -/
  | connection (reason : String)
  /-- The server refused a statement. -/
  | query (reason : String) (statement : String)
  /-- A parameter does not fit what the server takes. -/
  | parameter (reason : String)
  /-- A row does not have the form that was asked for. -/
  | decode (reason : String)
  /-- A failure of another kind. -/
  | internal (reason : String)
  deriving DecidableEq, Repr

namespace RepositoryError

def message : RepositoryError → String
  | .notFound context => "no result for " ++ context
  | .tooManyRows context count =>
    "expected at most one row for " ++ context ++ ", got at least " ++ toString count
  | .missingIdentifier label property =>
    "entity `" ++ label ++ "` has no `" ++ property ++ "` property to identify it by"
  | .serialization reason => "serialization error: " ++ reason
  | .connection reason => "Neo4j connection error: " ++ reason
  | .query reason _ => "Neo4j query error: " ++ reason
  | .parameter reason => "unsupported parameter value: " ++ reason
  | .decode reason => "failed to decode row: " ++ reason
  | .internal reason => "internal error: " ++ reason

/-- Whether a query that must have a result had none. -/
def isNotFound : RepositoryError → Bool
  | .notFound _ => true
  | _ => false

/-- The error that something could not be written as JSON, for a reason. -/
def unwritten (reason : String) : RepositoryError := .serialization (Json.plainReason reason)

end RepositoryError

def Datum.toParameter (d : Datum) : Except RepositoryError Json :=
  d.toJson.mapError .unwritten

/-- An action on a state that may fail; what it did before that stays. -/
abbrev Action (σ : Type) : Type → Type := EStateM RepositoryError σ

/-- The action that only has a result. -/
def Action.ofExcept {σ α : Type} : Except RepositoryError α → Action σ α
  | .ok a => pure a
  | .error e => throw e

end GraphRepo
