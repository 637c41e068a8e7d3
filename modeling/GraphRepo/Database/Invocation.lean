import GraphRepo.Database.Session
import GraphRepo.Repository.MethodBody

/-!
# Calling generated methods

What a call of a generated method does to a session: the steps of its code one after the other, over
the values that the method's parameters and the body's own names stand for. The first failure ends
the call, and what was done before it stays done.
-/

namespace GraphRepo

open Source Declaration

variable {σ α β γ : Type}

/-- What a generated method returns: nothing, the entity it saved, or what it read. -/
inductive Returned (α β : Type)
  | nothing
  | entity (a : α)
  | value (b : β)
  | option (b : Option β)
  | collection (bs : List β)

/-! ## Containers -/

/-- How a container keeps its elements. -/
inductive Container
  /-- As they come. -/
  | sequence
  /-- Each once, in no order of its own. -/
  | distinct
  /-- Ascending, each once. -/
  | ascending
  deriving DecidableEq, Repr

def containerOf (output : Option Ty) : Container :=
  match output.bind okType? with
  | some (.path p) =>
    if canonicalName p = "BTreeSet" then .ascending
    else if canonicalName p = "HashSet" then .distinct
    else .sequence
  | _ => .sequence

/-- Puts an element into an ascending list without repetition. -/
def insertAscending (order : β → β → Ordering) (b : β) : List β → List β
  | [] => [b]
  | c :: rest =>
    match order b c with
    | .lt => b :: c :: rest
    | .eq => c :: rest
    | .gt => c :: insertAscending order b rest

/-- The elements that equal none before them. -/
def keepFirst (order : β → β → Ordering) : List β → List β
  | [] => []
  | b :: rest => b :: (keepFirst order rest).filter (order b · ≠ .eq)

/-- The elements as a container keeps them. -/
def Container.arrange (container : Container) (order : β → β → Ordering) (bs : List β) : List β :=
  match container with
  | .sequence => bs
  | .distinct => keepFirst order bs
  | .ascending => bs.foldr (insertAscending order) []

/-! ## Values in scope -/

/-- What a name stands for while a body runs. -/
inductive LocalValue (α β : Type)
  /-- An argument of a query. -/
  | datum (d : Datum)
  | text (text : String)
  | params (params : Params)
  /-- Rows that are not looked at. -/
  | ignored
  | rows (bs : List β)
  | found (b : Option β)
  | entity (a : α)

namespace LocalValue

/-- What a value is written as, if it is one that can be. -/
def datum? : LocalValue α β → Option Datum
  | .datum d => some d
  | .text s => some (.json (.string s))
  | .params p => some (.json (.object p))
  | _ => none

def text? : LocalValue α β → Option String
  | .text s => some s
  | _ => none

def params? : LocalValue α β → Option Params
  | .params p => some p
  | _ => none

def rows? : LocalValue α β → Option (List β)
  | .rows bs => some bs
  | _ => none

def found? : LocalValue α β → Option (Option β)
  | .found b => some b
  | _ => none

def entity? : LocalValue α β → Option α
  | .entity a => some a
  | _ => none

/-- A value as what a method returns. -/
def returned? : LocalValue α β → Option (Returned α β)
  | .found b => some (.option b)
  | .entity a => some (.entity a)
  | _ => none

end LocalValue

/-- Values under their identifiers. The first of one identifier hides the others. -/
abbrev Scope (α β : Type) := List (String × LocalValue α β)

/-- Gives the value that an identifier stands for another one. -/
def Scope.assign (name : String) (value : LocalValue α β) : Scope α β → Scope α β
  | [] => []
  | (n, v) :: rest => if n = name then (n, value) :: rest else (n, v) :: assign name value rest

/-! ## Running code -/

/-- What is around a body. -/
structure Surroundings (σ α β : Type) where
  session : Session σ
  entity : Entity α
  decoder : Ty → Decoder β
  /-- What the declared container keeps of rows. -/
  collect : List β → List β

/-- A body at work: the state of the session and the values in scope. -/
structure Frame (σ α β : Type) where
  world : σ
  scope : Scope α β

abbrev Work (σ α β : Type) : Type → Type := EStateM RepositoryError (Frame σ α β)

namespace Work

def ofAction (action : Action σ γ) : Work σ α β γ := fun frame =>
  match action.run frame.world with
  | .ok c world => .ok c { frame with world }
  | .error e world => .error e { frame with world }

/-- The value of a name, of the kind that a place takes. No program has none there. -/
def lookUp (part : LocalValue α β → Option γ) (name : String) : Work σ α β γ := fun frame =>
  match (frame.scope.lookup (plainName name)).bind part with
  | some c => .ok c frame
  | none => .error (.internal ("no value of its kind: " ++ name)) frame

/-- Declares a name, over what it stood for before. -/
def declare (name : String) (value : LocalValue α β) : Work σ α β Unit :=
  modify fun frame => { frame with scope := (plainName name, value) :: frame.scope }

def assign (name : String) (value : LocalValue α β) : Work σ α β Unit :=
  modify fun frame => { frame with scope := frame.scope.assign (plainName name) value }

/-- What the end of a run leaves of the session. -/
def left : EStateM.Result RepositoryError (Frame σ α β) γ → EStateM.Result RepositoryError σ γ
  | .ok c frame => .ok c frame.world
  | .error e frame => .error e frame.world

/-- What a whole run over some values does to the session. -/
def inScope (scope : Scope α β) (work : Work σ α β γ) : Action σ γ := fun world =>
  left (work.run ⟨world, scope⟩)

end Work

open Work

def Reading.send (around : Surroundings σ α β) (text : String) (params : Params) :
    Reading → Action σ (LocalValue α β)
  | .ignored => (fun _ => .ignored) <$> around.session.query .ignored text params
  | .every ty => .rows <$> around.session.query (around.decoder ty) text params
  | .single ty => .found <$> around.session.queryForObject (around.decoder ty) text params

def Reading.run (around : Surroundings σ α β) (reading : Reading) :
    Work σ α β (LocalValue α β) := do
  let text ← lookUp LocalValue.text? queryLocal
  let params ← lookUp LocalValue.params? paramsLocal
  ofAction (reading.send around text params)

def Binding.run (b : Binding) : Work σ α β Unit := do
  let datum ← lookUp LocalValue.datum? b.parameter
  let value ← ofAction (.ofExcept datum.toParameter)
  let params ← lookUp LocalValue.params? paramsLocal
  assign paramsLocal (.params (params.set b.key value))

/-- Runs a step. The hook looks for the type of the value: a reference has none. -/
def Step.run (around : Surroundings σ α β) : Step → Work σ α β Unit
  | .letText text => declare queryLocal (.text text)
  | .letParams _ => declare paramsLocal (.params [])
  | .insert b => b.run
  | .letRead name reading => do declare name (← reading.run around)
  | .read reading => do let _ ← reading.run around
  | .rebind entity => do declare entity (.entity (← lookUp LocalValue.entity? entity))
  | .hook entity passing => do
    let a ← lookUp LocalValue.entity? entity
    if passing = .shared then return ()
    assign entity (.entity (around.entity.beforeUpdate a))
  | .save entity _ => do
    let a ← lookUp LocalValue.entity? entity
    ofAction (around.session.save around.entity a)

def runSteps (around : Surroundings σ α β) : List Step → Work σ α β Unit
  | [] => return ()
  | step :: rest => do
    step.run around
    runSteps around rest

def Ending.run (around : Surroundings σ α β) : Ending → Work σ α β (Returned α β)
  | .unit => return .nothing
  | .named name => lookUp LocalValue.returned? name
  | .collected name => return .collection (around.collect (← lookUp LocalValue.rows? name))
  | .required reading context => do
    match ← reading.run around with
    | .found (some b) => return .value b
    | _ => throw (.notFound context)

def Code.run (around : Surroundings σ α β) (code : Code) : Work σ α β (Returned α β) := do
  runSteps around code.steps
  code.ending.run around

/-! ## Calls -/

def MethodBody.prepared (entity : Entity α) (given : α) : MethodBody → α
  | .save true _ passing _ => if passing = .shared then given else entity.beforeUpdate given
  | _ => given

/-- The parameters of a method with the values of a call: the data of a query, or the value to
save. -/
def Classified.scope (c : Classified) (arguments : String → Datum) (given : α) : Scope α β :=
  c.method.parameters.map fun p =>
    let name := plainName p.name
    (name, if c.behavior matches .query _ then .datum (arguments name) else .entity given)

/-- Calls a method of a trait. The values it reads are ordered by `order`. -/
def Classified.call (c : Classified) (interface : String) (session : Session σ)
    (entity : Entity α) (decoder : Ty → Decoder β) (order : β → β → Ordering)
    (arguments : String → Datum) (given : α) : Action σ (Returned α β) :=
  let collect := (containerOf c.method.signature.output).arrange order
  Work.inScope (c.scope arguments given)
    ((c.body interface).code.run ⟨session, entity, decoder, collect⟩)

end GraphRepo
