import GraphRepo.Cypher.Parameter
import GraphRepo.Repository.Diagnostic
import GraphRepo.Repository.Declaration

/-!
# Behaviors

What a method does is decided by its markers: a query before an insertion before an update. Then the
signature has to fit the behavior, and the parameters of a query have to fit its variables.
-/

namespace GraphRepo

/-- What a method does. -/
inductive Behavior
  | query (text : String)
  | insert
  | update
  deriving DecidableEq, Repr

/-- Why a method does nothing known. -/
inductive UnclassifiedFault
  /-- A saving method takes one parameter. -/
  | arity (marker : String) (count : Nat)
  | unmarked
  deriving DecidableEq, Repr

def UnclassifiedFault.message : UnclassifiedFault → String
  | .arity marker count =>
    "#[" ++ marker ++ "] methods take exactly one parameter, found " ++ toString count
  | .unmarked => "expected one of #[query(\"...\")], #[insert] or #[update]"

/-- What a method does, from its markers and the number of its parameters. -/
def classify (m : MethodDeclaration) : Except UnclassifiedFault Behavior :=
  match m.markers.query with
  | some text => .ok (.query text)
  | none =>
    if m.markers.insert ∧ m.arity = 1 then .ok .insert
    else if m.markers.update ∧ m.arity = 1 then .ok .update
    else if m.markers.insert then .error (.arity "insert" m.arity)
    else if m.markers.update then .error (.arity "update" m.arity)
    else .error .unmarked

/-! ## Queries -/

def isVariableName (key : String) : Bool :=
  match key.toList with
  | [] => false
  | c :: rest =>
    (Text.isAlphabetic c || c = '_') && rest.all fun d => Text.isAlphanumeric d || d = '_'

/-- The faults of one parameter of a query that names `bound`, when the parameters before it have
the keys `before`. -/
def keyFaults (bound before : List String) (p : Parameter) : List KeyFault :=
  (match p.bindingKey with
    | none => []
    | some key =>
      if !isVariableName key then [.invalid]
      else if !bound.contains key then [.unknown]
      else [])
    ++ if before.count p.key = 1 then [.repeated] else []

def bindingFaults (bound : List String) : List String → List Parameter → List (String × KeyFault)
  | _, [] => []
  | before, p :: rest =>
    (keyFaults bound before p).map (fun fault => (p.key, fault))
      ++ bindingFaults bound (before ++ [p.key]) rest

def validateBindings (interface : String) (m : MethodDeclaration) (text : String) :
    List Diagnostic :=
  (bindingFaults (Cypher.parameters text) [] m.parameters).map fun (key, fault) =>
    .danglingKey interface m.name key fault.message

/-! ## Saving -/

def saveFaults (marker : String) (returns : ReturnShape) (p : Parameter) : List SignatureFault :=
  (if p.bindingKey.isSome then [.keyOutsideQuery] else [])
    ++ (match returns with
      | .void => []
      | .nonNull _ => if p.passing = .owned then [] else [.echoByReference]
      | shape => [.savedShape marker shape])
    ++ if marker = "update" ∧ p.passing = .shared then [.sharedUpdate] else []

/-- The diagnostics for a method that saves its only parameter. -/
def validateSave (interface : String) (m : MethodDeclaration) (marker : String) :
    List Diagnostic :=
  match m.parameters with
  | [] => []
  | p :: _ =>
    (saveFaults marker m.returns p).map fun fault =>
      .invalidSignature interface m.name fault.message

def validate (interface : String) (m : MethodDeclaration) : Behavior → List Diagnostic
  | .query text => validateBindings interface m text
  | .insert => validateSave interface m "insert"
  | .update => validateSave interface m "update"

/-! ## All methods -/

/-- A method with its behavior. -/
structure Classified where
  method : MethodDeclaration
  behavior : Behavior

/-- One method with its behavior, or its diagnostics. -/
def check (interface : String) (m : MethodDeclaration) : Except (List Diagnostic) Classified :=
  match classify m with
  | .error fault => .error [.unclassified interface m.name fault.message]
  | .ok behavior =>
    match validate interface m behavior with
    | [] => .ok ⟨m, behavior⟩
    | faults => .error faults

/-- The methods of a declaration with their behaviors, or the diagnostics of all methods. -/
def classifyAll (d : Declaration) : Except (List Diagnostic) (List Classified) :=
  together (d.methods.map (check d.name))

end GraphRepo
