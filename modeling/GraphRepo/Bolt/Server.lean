import GraphRepo.Bolt.Address
import GraphRepo.Bolt.Conversion
import GraphRepo.Database.Statement

/-!
# Clients of a Bolt server

A client opens its connection when the first statement is sent. Parameters become Bolt values before
that, so a parameter that does not fit never reaches the server. Rows come back one by one; the
first that cannot be had, or that cannot be shown as JSON, ends the result.
-/

namespace GraphRepo

/-- A statement that the server failed. -/
structure ServerFailure where
  code : String
  text : String
  deriving DecidableEq, Repr

def ServerFailure.message (f : ServerFailure) : String :=
  "Neo4j error `" ++ f.code ++ "`: " ++ f.text

/-- How a server answers a statement. -/
inductive ServerReply
  /-- The statement fails. -/
  | refused (failure : ServerFailure)
  /-- Records come, and after them the end or a failure. -/
  | records (fields : List String) (records : List (List BoltValue))
      (failure : Option ServerFailure)

/-- What a server sees. -/
inductive ServerEvent
  /-- A client opens a connection. -/
  | hello (user password : String)
  | statement (text : String) (params : List (String × BoltValue))

/-- What is at the other end of a connection. -/
inductive Network
  /-- No connection can be opened, for a reason. -/
  | unreachable (reason : String)
  /-- A server with its answers to the next statements; when there are no more, statements have no
  rows. -/
  | server (replies : List ServerReply)

/-- A client, the network that it is in, and what the server has seen of it. -/
structure BoltClient where
  address : Address
  user : String
  password : String
  network : Network
  connected : Bool
  seen : List ServerEvent

namespace BoltClient

/-- A client of the server at an address. It opens no connection yet. -/
def ofUri (uri user password : String) (network : Network) : Except AddressFault BoltClient :=
  (Address.ofText uri).map fun address => ⟨address, user, password, network, false, []⟩

def see (event : ServerEvent) (c : BoltClient) : BoltClient := { c with seen := c.seen ++ [event] }

/-- Opens the connection unless it is open. -/
def greet (c : BoltClient) : BoltClient :=
  if c.connected then c else { c.see (.hello c.user c.password) with connected := true }

def send (text : String) (params : Params) : Action BoltClient ServerReply := do
  let params ← Action.ofExcept (Json.fieldsToBolt params)
  match (← get).network with
  | .unreachable reason => throw (.query reason text)
  | .server replies =>
    modify fun c => { c.greet.see (.statement text params) with network := .server replies.tail }
    return replies.head?.getD (.records [] [] none)

/-- The row of a record: of fields with the same name the last counts. -/
def row (fields : List String) (record : List BoltValue) : Except RepositoryError Row :=
  (BoltValue.entriesToJson (Table.ofList (fields.zip record))).map Row.mk

/-- The rows of an answer. The first failure ends them. -/
def rows (fields : List String) (failure : Option ServerFailure) :
    List (List BoltValue) → RowStream
  | [] =>
    match failure with
    | some f => [.error (.connection f.message)]
    | none => []
  | record :: rest =>
    match row fields record with
    | .ok r => .ok r :: rows fields failure rest
    | .error e => [.error e]

def executor : Executor BoltClient where
  execute text params := do
    match ← send text params with
    | .refused failure => throw (.query failure.message text)
    | .records fields records failure => return rows fields failure records
  run text params := do
    match ← send text params with
    | .refused failure => throw (.query failure.message text)
    | .records _ _ (some failure) => throw (.query failure.message text)
    | .records _ _ none => return ()
  take _ c := c

end BoltClient

end GraphRepo
