import GraphRepo.Source.Item
import GraphRepo.Text.Blank
import GraphRepo.Text.Escape
import GraphRepo.Text.IdentifierChar
import GraphRepo.Text.Words
import GraphRepo.Repository.ReturnShape

/-!
# Declarations of repositories

What is known of a repository trait once its syntax has been read, and the names that are made from
its name.
-/

namespace GraphRepo

open Source

/-- A parameter of a method. -/
structure Parameter where
  name : String
  type : ResolvedType
  passing : Passing
  /-- The variable of the query that `#[param("…")]` binds it to. -/
  bindingKey : Option String

def Parameter.key (p : Parameter) : String := p.bindingKey.getD p.name

/-- The markers on a method. -/
structure Markers where
  query : Option String
  insert : Bool
  update : Bool
  deriving DecidableEq, Repr

def Markers.empty : Markers := ⟨none, false, false⟩

/-- Whether a method has no marker. -/
def Markers.isEmpty (m : Markers) : Bool := m.query.isNone && !m.insert && !m.update

/-- A method without a body. -/
structure MethodDeclaration where
  name : String
  /-- The signature without the attributes of the generator. -/
  signature : Signature
  parameters : List Parameter
  returns : ReturnShape
  markers : Markers

/-- How many parameters a method has besides `self`. -/
def MethodDeclaration.arity (m : MethodDeclaration) : Nat := m.parameters.length

/-- A repository trait. -/
structure Declaration where
  name : String
  /-- The module the trait stands in, if it is known. -/
  modulePath : Option String
  visibility : Tokens
  entity : Ty
  id : Ty
  methods : List MethodDeclaration
  /-- The methods with a body of their own. -/
  passthrough : List String

/-! ## Names -/

def qualified (modulePath : Option String) (name : String) : String :=
  match modulePath with
  | some module => module ++ "::" ++ name
  | none => name

/-- A name in lower case with underscores between its words. -/
def snake (name : String) : String := String.ofList (Text.snakeCase name.toList)

/-- Why a text cannot be an identifier. -/
inductive IdentifierFault
  | empty
  | number
  | invalid (text : String)
  deriving DecidableEq, Repr

def IdentifierFault.message : IdentifierFault → String
  | .empty => "Ident is not allowed to be empty; use Option<Ident>"
  | .number => "Ident cannot be a number; use Literal instead"
  | .invalid text => Text.quoted text ++ " is not a valid Ident"

def hasIdentifierForm : List Char → Bool
  | [] => false
  | c :: rest => Text.isIdentStart c && rest.all Text.isIdentContinue

/-- A text as an identifier. -/
def identifier (text : String) : Except IdentifierFault String :=
  if text.isEmpty then .error .empty
  else if text.all Char.isDigit then .error .number
  else if hasIdentifierForm text.toList then .ok text
  else .error (.invalid text)

/-- The pieces of a text between doubled marks; of more than two in a row the first two are one. -/
def piecesBetween (mark : Char) : List Char → List (List Char)
  | [] => [[]]
  | [c] => [[c]]
  | c :: d :: rest =>
    if c = mark ∧ d = mark then [] :: piecesBetween mark rest
    else match piecesBetween mark (d :: rest) with
      | [] => [[c]]
      | piece :: pieces => (c :: piece) :: pieces

/-- The parts of a module path that count in a file name. -/
def moduleSegments (module : String) : List (List Char) :=
  ((piecesBetween ':' module.toList).map Text.trim).filter fun segment =>
    !(["", "crate", "self"].contains (String.ofList segment))

namespace Declaration

def qualifiedName (d : Declaration) : String := qualified d.modulePath d.name

/-- A name without the mark of a raw identifier. -/
def plainName (name : String) : String :=
  match name.toList with
  | 'r' :: '#' :: rest => String.ofList rest
  | _ => name

def implName (d : Declaration) : String := plainName d.name ++ "Impl"

def factoryName (d : Declaration) : Except IdentifierFault String := identifier (snake d.name)

/-- The name of the file an implementation is written to: the modules below the root of the crate
and the name of the trait, with two underscores between them. -/
def fileName (d : Declaration) : String :=
  let modules := (d.modulePath.elim [] moduleSegments).map fun s => String.ofList (Text.snakeCase s)
  "__".intercalate (modules ++ [snake d.name ++ "_impl"]) ++ ".rs"

end Declaration

end GraphRepo
