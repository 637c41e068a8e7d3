import GraphRepo.Source.Attribute
import GraphRepo.Source.Type

/-!
# Items

The syntax of traits, their methods and the modules they stand in. Items of other kinds keep their
tokens, and their name where they have one.
-/

namespace GraphRepo.Source

/-- The parameters of a declaration, lifetimes marked, and the `where` clause, which is written at
another place. -/
structure Generics where
  entries : List (Bool × Tokens)
  trailing : Bool
  whereClause : Tokens

/-- The pattern a parameter is bound to. -/
inductive Pattern
  /-- A plain identifier. -/
  | name (ident : String)
  /-- A range; `isOpen` if one of its ends is missing. -/
  | range (isOpen : Bool) (tokens : Tokens)
  /-- A constant block: the attributes inside it and its statements. -/
  | constant (inner statements : Tokens)
  /-- A form that is kept as it was written. -/
  | asWritten (tokens : Tokens)
  | other (tokens : Tokens)

/-- An input of a function. -/
inductive Input
  /-- `self` in one of its forms: by reference, with a lifetime or not; `mut`; with a type. -/
  | receiver (attributes : List Attribute) (reference : Option (Option String)) (mutable : Bool)
    (type : Option Ty)
  | typed (attributes : List Attribute) (pattern : Pattern) (type : Ty)

/-- The signature of a function. -/
structure Signature where
  isConst : Bool
  isAsync : Bool
  /-- `unsafe` and `extern "C"`. -/
  qualifiers : Tokens
  name : String
  generics : Generics
  inputs : List Input
  trailing : Bool
  /-- `...` at the end of the inputs. -/
  variadic : Tokens
  output : Option Ty

/-- A method of a trait; the body, if there is one, without its brackets and inner attributes. -/
structure Method where
  attributes : List Attribute
  signature : Signature
  body : Option Tokens

/-- A member of a trait. -/
inductive Member
  | method (m : Method)
  | constant (hasDefault : Bool) (tokens : Tokens)
  | other (tokens : Tokens)

/-- A bound on a trait. -/
inductive Bound
  /-- A trait, in parentheses or not; `modifiers` stands before its path. -/
  | trait (parenthesized : Bool) (modifiers : Tokens) (path : Path)
  /-- A trait whose implementation is constant; kept as it was written. -/
  | constant (tokens : Tokens)
  /-- A lifetime, or the parameters that are captured. -/
  | other (tokens : Tokens)

/-- A trait. -/
structure Trait where
  attributes : List Attribute
  visibility : Tokens
  /-- `unsafe` and `auto`. -/
  qualifiers : Tokens
  name : String
  generics : Generics
  bounds : List Bound
  /-- Whether a `+` follows the last bound. -/
  trailing : Bool
  members : List Member

/-- An item. -/
inductive Item
  | trait (t : Trait)
  /-- A module with a body: what stands before the bracket, the name, the inner attributes and the
  items. -/
  | module (header : Tokens) (name : String) (inner : Tokens) (items : List Item)
  /-- Any other item that has a name. -/
  | named (name : String) (tokens : Tokens)
  | implementation (tokens : Tokens)
  | other (tokens : Tokens)

/-! ## Tokens -/

/-- The parameters in angle brackets; nothing if there are none. -/
def Generics.tokens (g : Generics) : Tokens :=
  if g.entries.isEmpty then [] else op "<" ++ genericEntries g.entries g.trailing ++ op ">"

def Pattern.tokens : Pattern → Tokens
  | .name ident => word ident
  | .range _ tokens => tokens
  | .constant inner statements => word "const" ++ braces (inner ++ statements)
  | .asWritten tokens => tokens
  | .other tokens => tokens

def Input.tokens : Input → Tokens
  | .receiver attributes reference mutable type =>
    Attribute.outerTokens attributes
      ++ (match reference with
        | some lifetime => referenceTokens lifetime false
        | none => [])
      ++ wordIf mutable "mut" ++ word "self"
      ++ (match type with
        | some ty => op ":" ++ ty.tokens
        | none => [])
  | .typed attributes pattern type =>
    Attribute.outerTokens attributes ++ pattern.tokens ++ op ":" ++ type.tokens

def Signature.tokens (s : Signature) : Tokens :=
  wordIf s.isConst "const" ++ wordIf s.isAsync "async" ++ s.qualifiers ++ word "fn" ++ word s.name
    ++ s.generics.tokens
    ++ parens (commaSeparated s.trailing (s.inputs.map Input.tokens) ++ s.variadic)
    ++ (match s.output with
      | some ty => op "->" ++ ty.tokens
      | none => [])
    ++ s.generics.whereClause

def Method.tokens (m : Method) : Tokens :=
  Attribute.outerTokens m.attributes ++ m.signature.tokens
    ++ match m.body with
      | some body => braces (Attribute.innerTokens m.attributes ++ body)
      | none => op ";"

def Member.tokens : Member → Tokens
  | .method m => m.tokens
  | .constant _ tokens => tokens
  | .other tokens => tokens

def Bound.tokens : Bound → Tokens
  | .trait parenthesized modifiers path =>
    if parenthesized then parens (modifiers ++ path.tokens) else modifiers ++ path.tokens
  | .constant tokens => tokens
  | .other tokens => tokens

def Trait.tokens (t : Trait) : Tokens :=
  Attribute.outerTokens t.attributes ++ t.visibility ++ t.qualifiers ++ word "trait" ++ word t.name
    ++ t.generics.tokens
    ++ (if t.bounds.isEmpty then []
      else op ":" ++ separated "+" t.trailing (t.bounds.map Bound.tokens))
    ++ t.generics.whereClause
    ++ braces (Attribute.innerTokens t.attributes ++ t.members.flatMap Member.tokens)

mutual

def Item.tokens : Item → Tokens
  | .trait t => t.tokens
  | .module header name inner items =>
    header ++ word name ++ braces (inner ++ Item.tokensOfAll items)
  | .named _ tokens => tokens
  | .implementation tokens => tokens
  | .other tokens => tokens

def Item.tokensOfAll : List Item → Tokens
  | [] => []
  | item :: rest => item.tokens ++ Item.tokensOfAll rest

end

end GraphRepo.Source
