import GraphRepo.Repository.Behavior
import GraphRepo.Repository.Code

/-!
# Bodies of generated methods

What a generated method does, as data: which query it sends with which bindings and what becomes of
the rows, or which entity it saves, after its hook or not. From that its code is made.
-/

namespace GraphRepo

open Source

/-- What becomes of the rows of a query. -/
inductive RowUse
  /-- They are dropped. -/
  | discard
  /-- They are collected. -/
  | collect (element : Ty)
  /-- There has to be one; `context` names the method in the error. -/
  | require (ty : Ty) (context : String)
  /-- There may be one. -/
  | optional (ty : Ty)

/-- What a generated method does. -/
inductive MethodBody
  | query (text : String) (bindings : List Binding) (use : RowUse)
  /-- Saves a parameter, after the hook for updates if `hook`, and returns it if `echo`. -/
  | save (hook : Bool) (entity : String) (passing : Passing) (echo : Bool)

def RowUse.ofShape (context : String) : ReturnShape → RowUse
  | .void => .discard
  | .collection element => .collect element.ty
  | .nonNull ty => .require ty.ty context
  | .nullable ty => .optional ty.ty

/-- The body of a method of a trait. -/
def Classified.body (interface : String) (c : Classified) : MethodBody :=
  let m := c.method
  let save (hook : Bool) : MethodBody :=
    match m.parameters with
    | p :: _ => .save hook p.name p.passing (m.returns matches .nonNull _)
    | [] => .save hook "" .owned false
  match c.behavior with
  | .query text =>
    .query text (m.parameters.map fun p => ⟨p.key, p.name⟩)
      (.ofShape (interface ++ "::" ++ m.name) m.returns)
  | .insert => save false
  | .update => save true

/-! ## Code -/

def bindingSteps (bindings : List Binding) : List Step :=
  .letParams (!bindings.isEmpty) :: bindings.map .insert

def RowUse.code : RowUse → Code
  | .discard => ⟨[.read .ignored], .unit⟩
  | .collect element => ⟨[.letRead rowsLocal (.every element)], .collected rowsLocal⟩
  | .require ty context => ⟨[], .required (.single ty) context⟩
  | .optional ty => ⟨[.letRead foundLocal (.single ty)], .named foundLocal⟩

/-- The steps that run the hook for updates on a parameter. One that is passed as a value is made
mutable first. -/
def hookSteps (entity : String) (passing : Passing) : List Step :=
  (if passing = .exclusive then [] else [.rebind entity]) ++ [.hook entity passing]

def MethodBody.code : MethodBody → Code
  | .query text bindings use =>
    ⟨.letText text :: bindingSteps bindings ++ use.code.steps, use.code.ending⟩
  | .save hook entity passing echo =>
    ⟨(if hook then hookSteps entity passing else []) ++ [.save entity passing],
      if echo then .named entity else .unit⟩

/-- A generated method: the declared signature and the body. -/
def Classified.tokens (runtime : Tokens) (interface : String) (c : Classified) : Tokens :=
  c.method.signature.tokens ++ braces ((c.body interface).code.tokens runtime)

end GraphRepo
