import GraphRepo.Repository.Declaration
import GraphRepo.Repository.Diagnostic

/-!
# Markers

The attributes by which a trait tells the generator what its methods do: `#[query("…")]`,
`#[insert]`, `#[update]` on methods and `#[param("…")]` on their parameters. They are read by the
generator and removed from what it leaves behind.
-/

namespace GraphRepo

open Source

def isMarker (a : Attribute) : Bool :=
  a.isNamed "query" || a.isNamed "insert" || a.isNamed "update"

def isParamMarker (a : Attribute) : Bool := a.isNamed "param"

/-- The value of a string literal that stands alone in brackets. -/
def soleString? : Payload → Option String
  | .list _ [.literal text] => stringValue? text
  | _ => none

def Markers.read (m : Markers) (a : Attribute) : Except AttributeFault Markers :=
  if a.isNamed "query" then
    if m.query.isSome then .error .repeatedQuery
    else match soleString? a.payload with
      | some text => .ok { m with query := some text }
      | none => .error .queryForm
  else if a.isNamed "insert" then
    if a.payload matches .nothing then .ok { m with insert := true } else .error .markerTokens
  else if a.isNamed "update" then
    if a.payload matches .nothing then .ok { m with update := true } else .error .markerTokens
  else .ok m

/-- The markers among the attributes of a method; the first malformed one ends the reading. -/
def readMarkers (attributes : List Attribute) : Except AttributeFault Markers :=
  attributes.foldlM Markers.read .empty

/-- The key in a `#[param]`. -/
def paramKey : Payload → Except AttributeFault String
  | .nothing => .error .paramBare
  | .value _ => .error .paramValue
  | .list _ [] => .error .paramEmpty
  | .list _ (.literal text :: rest) =>
    match stringValue? text with
    | some key => if rest.isEmpty then .ok key else .error .paramRest
    | none => .error .paramLiteral
  | .list _ _ => .error .paramLiteral

def readParamMarker (key : Option String) (a : Attribute) : Except AttributeFault (Option String) :=
  if isParamMarker a then
    if key.isSome then .error .repeatedParam else some <$> paramKey a.payload
  else .ok key

def bindingKey (attributes : List Attribute) : Except AttributeFault (Option String) :=
  attributes.foldlM readParamMarker none

/-! ## Removing them -/

/-- An input without the generator's attribute. `self` keeps its attributes. -/
def stripInput : Input → Input
  | .typed attributes pattern type => .typed (attributes.filter (!isParamMarker ·)) pattern type
  | input => input

/-- A signature without the generator's attributes. -/
def stripSignature (s : Signature) : Signature := { s with inputs := s.inputs.map stripInput }

/-- A method without the generator's attributes. -/
def stripMethod (m : Method) : Method :=
  { m with
    attributes := m.attributes.filter (!isMarker ·)
    signature := stripSignature m.signature }

/-- A member without the generator's attributes; only methods have them. -/
def stripMember : Member → Member
  | .method m => .method (stripMethod m)
  | member => member

/-- Whether an attribute is the one that makes a trait a repository, wherever it is imported
from. -/
def isRepositoryAttribute (a : Attribute) : Bool := a.endsIn "repository"

/-- A trait without the generator's attributes. -/
def stripTrait (t : Trait) : Trait :=
  { t with
    attributes := t.attributes.filter (!isRepositoryAttribute ·)
    members := t.members.map stripMember }

end GraphRepo
