import GraphRepo.Repository.ResolvedType

/-!
# Return shapes

A method of a repository returns a `Result`. The type on its good side decides how many rows the
query behind the method may have, and what becomes of them.
-/

namespace GraphRepo

open Source

/-- The shape of the good side of a result. -/
inductive ReturnShape
  /-- `()`. -/
  | void
  /-- At most one value. -/
  | nullable (ty : ResolvedType)
  /-- Exactly one value. -/
  | nonNull (ty : ResolvedType)
  /-- Any number of values, in a container. -/
  | collection (element : ResolvedType)

def ReturnShape.describe : ReturnShape → String
  | .void => "()"
  | .nullable _ => "Option<T>"
  | .nonNull _ => "T"
  | .collection _ => "a collection"

/-- The type of a shape; `()` has none. -/
def ReturnShape.type? : ReturnShape → Option ResolvedType
  | .void => none
  | .nullable ty => some ty
  | .nonNull ty => some ty
  | .collection ty => some ty

/-- Why a return type has no shape. -/
inductive ReturnFault
  | missing
  | notResult (ty : Ty)

def ReturnFault.message : ReturnFault → String
  | .missing => "repository methods must return a `Result`"
  | .notResult ty =>
    "return type `" ++ ty.tokens.text ++ "` is not a `Result`; failures must reach the caller"

/-- Whether a type is `()`, in parentheses and groups or not. -/
def isUnit : Ty → Bool
  | .tuple elems _ => elems.isEmpty
  | .paren inner => isUnit inner
  | .group inner => isUnit inner
  | _ => false

/-- The good side of a result type: any path that ends in `Result` with one or two type
arguments. -/
def okType? : Ty → Option Ty
  | .paren inner => okType? inner
  | .group inner => okType? inner
  | .path p =>
    if p.last.name = "Result" then
      match p.last.typeArguments with
      | [ok] => some ok
      | [ok, _] => some ok
      | _ => none
    else none
  | _ => none

/-- The shape that a type on the good side has. Neither parentheses nor groups around an `Option` or
a container are looked through. -/
def shapeOf (ok : Ty) : ReturnShape :=
  if isUnit ok then .void
  else match ok with
    | .path p =>
      match p.last.typeArguments with
      | [arg] =>
        if canonicalName p = "Option" then .nullable { resolve arg with nullable := true }
        else if sequenceNames.contains (canonicalName p) then .collection (resolve arg)
        else .nonNull (resolve ok)
      | _ => .nonNull (resolve ok)
    | _ => .nonNull (resolve ok)

/-- The shape of a declared return type. -/
def returnShape : Option Ty → Except ReturnFault ReturnShape
  | none => .error .missing
  | some ty =>
    match okType? ty with
    | none => .error (.notResult ty)
    | some ok => .ok (shapeOf ok)

end GraphRepo
