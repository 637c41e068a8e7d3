import GraphRepo.Source.Token

/-!
# Attributes

`#[path]`, `#[path(…)]` and `#[path = …]`, in front of what they are about, or with `!` inside it.
-/

namespace GraphRepo.Source

/-- The path of an attribute: names with `::` between them. -/
structure AttributePath where
  leading : Bool
  names : List String
  deriving BEq, Repr

/-- What follows the path of an attribute. -/
inductive Payload
  | nothing
  /-- Tokens in brackets of any kind. -/
  | list (delimiter : Delimiter) (tokens : Tokens)
  /-- `= …`. -/
  | value (tokens : Tokens)
  deriving BEq, Repr

/-- An attribute. -/
structure Attribute where
  inner : Bool
  path : AttributePath
  payload : Payload
  deriving BEq, Repr

/-- Names with `::` between them. -/
def joinNames : List String → Tokens
  | [] => []
  | [name] => word name
  | name :: rest => word name ++ op "::" ++ joinNames rest

/-- The tokens of an attribute's path. -/
def AttributePath.tokens (p : AttributePath) : Tokens :=
  (if p.leading then op "::" else []) ++ joinNames p.names

def Payload.tokens : Payload → Tokens
  | .nothing => []
  | .list d tokens => [.group d tokens]
  | .value tokens => op "=" ++ tokens

namespace Attribute

def tokens (a : Attribute) : Tokens :=
  op "#" ++ (if a.inner then op "!" else []) ++ brackets (a.path.tokens ++ a.payload.tokens)

/-- Whether the path is exactly one name. A leading `::` makes it another path, and `r#` another
name. -/
def isNamed (name : String) (a : Attribute) : Bool := a.path == ⟨false, [name]⟩

def endsIn (name : String) (a : Attribute) : Bool := a.path.names.getLast? == some name

def outerTokens (attributes : List Attribute) : Tokens :=
  (attributes.filter (!·.inner)).flatMap tokens

def innerTokens (attributes : List Attribute) : Tokens :=
  (attributes.filter (·.inner)).flatMap tokens

end Attribute

end GraphRepo.Source
