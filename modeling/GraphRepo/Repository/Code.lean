import GraphRepo.Source.StringLiteral
import GraphRepo.Repository.Declaration

/-!
# Code of generated methods

A generated body is a few steps and what it ends with. Everything in it is fixed but the names of
the method's own parameters, and its own names hide theirs. The code has its tokens here; what it
does is said where sessions are.
-/

namespace GraphRepo

open Source

/-- A variable of a query and the parameter whose value it gets. -/
structure Binding where
  key : String
  parameter : String
  deriving DecidableEq, Repr

def queryLocal : String := "__query"

def paramsLocal : String := "__params"

def rowsLocal : String := "__rows"

def foundLocal : String := "__found"

/-- How a query is sent. -/
inductive Reading
  /-- For its rows, which are dropped. -/
  | ignored
  /-- For all rows. -/
  | every (ty : Ty)
  /-- For one row, if there is one. -/
  | single (ty : Ty)

/-- A step of a body. -/
inductive Step
  /-- `let __query: &str = "…";` -/
  | letText (text : String)
  /-- `let __params = Params::new();`, with `mut` if entries follow. -/
  | letParams (growing : Bool)
  /-- `__params.insert("…", to_param(&parameter)?);` -/
  | insert (b : Binding)
  /-- Sends the query and names the answer. -/
  | letRead (name : String) (reading : Reading)
  /-- Sends the query. -/
  | read (reading : Reading)
  /-- `let mut entity = entity;` -/
  | rebind (entity : String)
  /-- Runs the hook for updates on an entity. -/
  | hook (entity : String) (passing : Passing)
  /-- Saves an entity. -/
  | save (entity : String) (passing : Passing)

/-- What a body ends with. -/
inductive Ending
  /-- `Ok(())`. -/
  | unit
  /-- `Ok(name)`. -/
  | named (name : String)
  /-- All rows under a name, in the declared container. -/
  | collected (name : String)
  /-- Sends the query and fails, naming the method, if nothing was found. -/
  | required (reading : Reading) (context : String)

/-- The code of a body. -/
structure Code where
  steps : List Step
  ending : Ending

/-! ## Names -/

def Step.locals : Step → List String
  | .letText _ => [queryLocal]
  | .letParams _ => [paramsLocal]
  | .letRead name _ => [name]
  | .rebind entity => [entity]
  | .insert _ | .read _ | .hook .. | .save .. => []

def Ending.locals : Ending → List String
  | .required .. => [foundLocal]
  | .unit | .named _ | .collected _ => []

def Code.locals (code : Code) : List String := code.steps.flatMap Step.locals ++ code.ending.locals

/-! ## Tokens -/

/-- A path of names with `::` before each. -/
def absolute (names : List String) : Tokens := names.flatMap fun name => op "::" ++ word name

def inRuntime (runtime : Tokens) (names : List String) : Tokens := runtime ++ absolute names

/-- `?`. -/
def tryOp : Tokens := op "?"

/-- `;`. -/
def semi : Tokens := op ";"

/-- `.await?`. -/
def awaited : Tokens := op "." ++ word "await" ++ tryOp

/-- `&*self.session`. -/
def sessionTokens : Tokens := op "&" ++ op "*" ++ word "self" ++ op "." ++ word "session"

/-- `Ok(…)`. -/
def okTokens (value : Tokens) : Tokens :=
  absolute ["core", "result", "Result", "Ok"] ++ parens value

/-- `let name = value;`. -/
def letTokens (name : Tokens) (value : Tokens) : Tokens :=
  word "let" ++ name ++ op "=" ++ value ++ semi

def sessionQuery (runtime : Tokens) (method : String) (ty : Tokens) : Tokens :=
  inRuntime runtime ["Session", method] ++ op "::" ++ op "<" ++ ty ++ op ">"
    ++ parens (sessionTokens ++ op "," ++ word queryLocal ++ op "," ++ word paramsLocal) ++ awaited

def Reading.tokens (runtime : Tokens) : Reading → Tokens
  | .ignored => sessionQuery runtime "query" (inRuntime runtime ["__private", "IgnoredAny"])
  | .every ty => sessionQuery runtime "query" ty.tokens
  | .single ty => sessionQuery runtime "query_for_object" ty.tokens

/-- The block that runs the hook for updates on `target`, if its type has one. -/
def hookTokens (runtime target : Tokens) : Tokens :=
  braces (op "#" ++ brackets (word "allow" ++ parens (word "unused_imports"))
    ++ word "use" ++ inRuntime runtime ["__private"] ++ op "::"
    ++ braces (word "ViaUpdatable" ++ word "as" ++ word "_" ++ op ","
      ++ word "WithoutHook" ++ word "as" ++ word "_") ++ semi
    ++ inRuntime runtime ["__private", "UpdateHook"] ++ parens target
    ++ op "." ++ word "run_update_hook" ++ parens [] ++ semi)

def borrowed (entity : String) : Passing → Tokens
  | .owned => op "&" ++ word entity
  | .shared => word entity
  | .exclusive => op "&" ++ op "*" ++ word entity

def exclusively (entity : String) : Passing → Tokens
  | .owned | .shared => op "&" ++ word "mut" ++ word entity
  | .exclusive => op "&" ++ word "mut" ++ op "*" ++ word entity

def Step.tokens (runtime : Tokens) : Step → Tokens
  | .letText text =>
    letTokens (word queryLocal ++ op ":" ++ op "&" ++ word "str") [stringLiteral text]
  | .letParams growing =>
    letTokens (wordIf growing "mut" ++ word paramsLocal)
      (inRuntime runtime ["Params", "new"] ++ parens [])
  | .insert b =>
    word paramsLocal ++ op "." ++ word "insert"
      ++ parens (absolute ["std", "string", "String", "from"] ++ parens [stringLiteral b.key]
        ++ op "," ++ inRuntime runtime ["to_param"] ++ parens (op "&" ++ word b.parameter) ++ tryOp
        ++ op ",")
      ++ semi
  | .letRead name reading => letTokens (word name) (reading.tokens runtime)
  | .read reading => reading.tokens runtime ++ semi
  | .rebind entity => letTokens (word "mut" ++ word entity) (word entity)
  | .hook entity passing => hookTokens runtime (exclusively entity passing)
  | .save entity passing =>
    inRuntime runtime ["Session", "save"]
      ++ parens (sessionTokens ++ op "," ++ borrowed entity passing) ++ awaited ++ semi

def Ending.tokens (runtime : Tokens) : Ending → Tokens
  | .unit => okTokens (parens [])
  | .named name => okTokens (word name)
  | .collected name =>
    okTokens (absolute ["core", "iter", "IntoIterator", "into_iter"]
      ++ parens (word name) ++ op "." ++ word "collect" ++ parens [])
  | .required reading context =>
    word "match" ++ reading.tokens runtime
      ++ braces (absolute ["core", "option", "Option", "Some"] ++ parens (word foundLocal)
        ++ op "=>" ++ okTokens (word foundLocal) ++ op ","
        ++ absolute ["core", "option", "Option", "None"] ++ op "=>"
        ++ absolute ["core", "result", "Result", "Err"]
        ++ parens (absolute ["core", "convert", "From", "from"]
          ++ parens (inRuntime runtime ["RepositoryError", "not_found"]
            ++ parens [stringLiteral context]) ++ op ",") ++ op ",")

/-- The tokens of a body without its brackets. -/
def Code.tokens (runtime : Tokens) (code : Code) : Tokens :=
  code.steps.flatMap (Step.tokens runtime) ++ code.ending.tokens runtime

end GraphRepo
