import GraphRepo.Source.StringLiteral
import GraphRepo.Repository.ReturnShape

/-!
# Diagnostics

Why no implementation is generated for a trait, and the `compile_error!` calls that report it where
the trait stands.
-/

namespace GraphRepo

open Source

/-- A diagnostic of the generator. -/
inductive Diagnostic
  /-- The item is no repository trait. -/
  | unavailable (item reason : String)
  /-- The method's behavior is not given. -/
  | unclassified (interface method reason : String)
  /-- The key of a parameter does not fit the query. -/
  | danglingKey (interface method key reason : String)
  /-- The method's signature does not fit its behavior. -/
  | invalidSignature (interface method reason : String)
  /-- An attribute is malformed. -/
  | attribute (message : String)
  /-- The configured path of the runtime crate is no path. -/
  | invalidRuntime (path : String)
  deriving DecidableEq, Repr

def Diagnostic.message : Diagnostic → String
  | .unavailable item reason => "`" ++ item ++ "` cannot be used as a repository: " ++ reason
  | .unclassified interface method reason =>
    "method `" ++ interface ++ "::" ++ method ++ "` is not a repository method: " ++ reason
  | .danglingKey interface method key reason =>
    "binding key \"" ++ key ++ "\" on `" ++ interface ++ "::" ++ method ++ "` " ++ reason
  | .invalidSignature interface method reason =>
    "unsupported signature for `" ++ interface ++ "::" ++ method ++ "`: " ++ reason
  | .attribute message => message
  | .invalidRuntime path => "invalid runtime crate path `" ++ path ++ "`"

def compileError (message : String) : Tokens :=
  op "::" ++ word "core" ++ op "::" ++ word "compile_error" ++ op "!"
    ++ braces [stringLiteral message]

def compileErrors (diagnostics : List Diagnostic) : Tokens :=
  diagnostics.flatMap fun d => compileError d.message

/-- Splits answers into the good ones and the errors, each in order. -/
def partition {ε α : Type} : List (Except ε α) → List ε × List α
  | [] => ([], [])
  | .error e :: rest => let (errors, values) := partition rest; (e :: errors, values)
  | .ok a :: rest => let (errors, values) := partition rest; (errors, a :: values)

/-- What all answers are, or the diagnostics of those that are none. -/
def together {α : Type} (answers : List (Except (List Diagnostic) α)) :
    Except (List Diagnostic) (List α) :=
  let (errors, values) := partition answers
  if errors.isEmpty then .ok values else .error errors.flatten

/-! ## Reasons -/

/-- Why an item is no repository trait. -/
inductive TraitFault
  | notTrait
  | generic
  | noBase (interface : String)
  | baseArguments (count : Nat)
  | member
  deriving DecidableEq, Repr

def baseTrait : String := "NeoRepository"

def TraitFault.message : TraitFault → String
  | .notTrait => "`#[repository]` only applies to traits"
  | .generic => "generic repository traits are not supported"
  | .noBase interface => "`" ++ interface ++ "` must extend `" ++ baseTrait ++ "<Entity, Id>`"
  | .baseArguments count =>
    "`" ++ baseTrait ++ "` takes exactly two type arguments, found " ++ toString count
  | .member => "only methods and associated consts with a default are supported"

/-- Why a signature does not fit. -/
inductive SignatureFault
  | markedDefault
  | receiver
  | notAsync
  | pattern
  | reserved
  | returns (fault : ReturnFault)
  | keyOutsideQuery
  | echoByReference
  | savedShape (marker : String) (shape : ReturnShape)
  | sharedUpdate

def SignatureFault.message : SignatureFault → String
  | .markedDefault => "methods with a default body cannot carry #[query], #[insert] or #[update]"
  | .receiver => "repository methods take `&self`"
  | .notAsync => "repository methods must be `async fn`"
  | .pattern => "parameters must be plain identifiers"
  | .reserved => "parameter names starting with `__` are reserved for generated locals"
  | .returns fault => fault.message
  | .keyOutsideQuery => "#[param] only applies to #[query] methods"
  | .echoByReference => "returning the saved entity requires taking it by value"
  | .savedShape marker shape =>
    "#[" ++ marker ++ "] methods return `()` or the saved entity, not " ++ shape.describe
  | .sharedUpdate => "#[update] takes the entity by value or `&mut` so its update hook can run"

/-- Why the key of a parameter does not fit the query. -/
inductive KeyFault
  | invalid
  | unknown
  | repeated
  deriving DecidableEq, Repr

def KeyFault.message : KeyFault → String
  | .invalid => "is not a valid query variable name"
  | .unknown => "does not match any `$` variable in the query"
  | .repeated => "is bound by more than one parameter"

/-- Why an attribute is malformed. -/
inductive AttributeFault
  | queryForm
  | repeatedQuery
  | markerTokens
  | repeatedParam
  | paramBare
  | paramValue
  | paramEmpty
  | paramLiteral
  | paramRest
  deriving DecidableEq, Repr

def AttributeFault.message : AttributeFault → String
  | .queryForm => "expected #[query(\"<cypher>\")]"
  | .repeatedQuery => "duplicate #[query] attribute"
  | .markerTokens => "unexpected token in attribute"
  | .repeatedParam => "duplicate #[param] attribute"
  | .paramBare => "expected attribute arguments in parentheses: #[param(...)]"
  | .paramValue => "expected parentheses: #[param(...)]"
  | .paramEmpty => "unexpected end of input, expected string literal"
  | .paramLiteral => "expected string literal"
  | .paramRest => "unexpected token"

end GraphRepo
