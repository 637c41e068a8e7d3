import GraphRepo.Repository.MethodBody

/-!
# Generated units

The code for one repository: the implementation type, its forwarding of the base capability, the
implementation of the trait and the factory function.
-/

namespace GraphRepo

open Source

/-- The code for one repository. -/
structure GeneratedUnit where
  moduleName : String
  /-- The trait, within its module. -/
  interface : String
  implName : String
  fileName : String
  /-- The methods of the trait, in the order of their declarations. -/
  methods : List Tokens
  factory : String
  /-- The trait that the factory makes. -/
  returns : String
  tokens : Tokens

def GeneratedUnit.render (u : GeneratedUnit) : String :=
  "// @generated by neorepo from `" ++ u.interface ++ "`. Do not edit.\n" ++ u.tokens.text ++ "\n"

/-- What an implementation is made from. -/
structure Assembly where
  runtime : Tokens
  declaration : Declaration
  factory : String
  methods : List Tokens

namespace Assembly

variable (a : Assembly)

/-- `#[name(…)]` or `#[name = …]`. -/
def attributeTokens (body : Tokens) : Tokens := op "#" ++ brackets body

def doc (text : String) : Tokens := attributeTokens (word "doc" ++ op "=" ++ [stringLiteral text])

def allowUnused : Tokens := attributeTokens (word "allow" ++ parens (word "dead_code"))

def asyncTrait : Tokens := attributeTokens (inRuntime a.runtime ["__private", "async_trait"])

/-- `<S: Session + 'static>`. -/
def sessionParameter : Tokens :=
  op "<" ++ word "S" ++ op ":" ++ inRuntime a.runtime ["Session"] ++ op "+"
    ++ lifetimeTokens "static" ++ op ">"

/-- `Arc<S>`. -/
def sharedSession : Tokens :=
  absolute ["std", "sync", "Arc"] ++ op "<" ++ word "S" ++ op ">"

def implType : Tokens := word a.declaration.implName

def implTypeOfSession : Tokens := a.implType ++ op "<" ++ word "S" ++ op ">"

def baseType : Tokens :=
  inRuntime a.runtime ["NeoRepositoryImpl"] ++ op "<" ++ a.declaration.entity.tokens ++ op ","
    ++ a.declaration.id.tokens ++ op "," ++ word "S" ++ op ">"

def base : Tokens :=
  inRuntime a.runtime ["NeoRepository"] ++ op "<" ++ a.declaration.entity.tokens ++ op ","
    ++ a.declaration.id.tokens ++ op ">"

/-- `impl<S: …> … {…}`, for a trait if one is given. -/
def impl (interface : Option Tokens) (body : Tokens) : Tokens :=
  word "impl" ++ a.sessionParameter
    ++ (interface.map (· ++ word "for")).getD []
    ++ a.implTypeOfSession ++ braces body

def implStruct : Tokens :=
  doc (" Generated implementation of [`" ++ a.declaration.name ++ "`].") ++ allowUnused
    ++ word "pub" ++ parens (word "crate") ++ word "struct" ++ a.implType ++ a.sessionParameter
    ++ braces (word "session" ++ op ":" ++ sharedSession ++ op ","
      ++ word "base" ++ op ":" ++ a.baseType ++ op ",")

def constructor : Tokens :=
  a.impl none (word "pub" ++ parens (word "crate") ++ word "fn" ++ word "new"
    ++ parens (word "session" ++ op ":" ++ sharedSession) ++ op "->" ++ word "Self"
    ++ braces (word "Self" ++ braces (
      word "base" ++ op ":" ++ inRuntime a.runtime ["NeoRepositoryImpl", "with_update_hook"]
        ++ parens (absolute ["std", "sync", "Arc", "clone"] ++ parens (op "&" ++ word "session")
          ++ op "," ++ op "|" ++ word "entity" ++ op ":" ++ op "&" ++ word "mut"
          ++ a.declaration.entity.tokens ++ op "|" ++ hookTokens a.runtime (word "entity")
          ++ op ",")
        ++ op "," ++ word "session" ++ op ",")))

/-- A method of the base capability, forwarded to the base implementation; `close` is what ends its
result type. -/
def forwarded (method argument : String) (type result : Tokens) : Tokens :=
  word "async" ++ word "fn" ++ word method
    ++ parens (op "&" ++ word "self" ++ op "," ++ word argument ++ op ":" ++ type)
    ++ op "->" ++ inRuntime a.runtime ["Result"] ++ op "<" ++ result
    ++ braces (op "<" ++ a.baseType ++ word "as" ++ a.base ++ op ">" ++ op "::" ++ word method
      ++ parens (op "&" ++ word "self" ++ op "." ++ word "base" ++ op "," ++ word argument)
      ++ op "." ++ word "await")

def delegation : Tokens :=
  let entity := a.declaration.entity.tokens
  let id := a.declaration.id.tokens
  let optional := absolute ["core", "option", "Option"] ++ op "<" ++ entity ++ op ">>"
  a.asyncTrait ++ a.impl (some a.base) (
    a.forwarded "create" "data" entity (entity ++ op ">")
      ++ a.forwarded "update" "data" entity (entity ++ op ">")
      ++ a.forwarded "find_by_id" "id" id optional
      ++ a.forwarded "delete_by_id" "id" id (parens [] ++ op ">")
      ++ a.forwarded "delete" "data" entity (parens [] ++ op ">"))

def implementation : Tokens :=
  a.asyncTrait ++ a.impl (some (word a.declaration.name)) a.methods.flatten

def factoryFunction : Tokens :=
  doc (" Creates a [`" ++ a.declaration.name ++ "`] backed by the given session.") ++ allowUnused
    ++ a.declaration.visibility ++ word "fn" ++ word a.factory ++ a.sessionParameter
    ++ parens (word "session" ++ op ":" ++ sharedSession ++ op ",")
    ++ op "->" ++ absolute ["std", "boxed", "Box"] ++ op "<" ++ word "dyn"
    ++ word a.declaration.name ++ op ">"
    ++ braces (absolute ["std", "boxed", "Box", "new"]
      ++ parens (a.implType ++ op "::" ++ word "new" ++ parens (word "session")))

def tokens : Tokens :=
  a.implStruct ++ a.constructor ++ a.delegation ++ a.implementation ++ a.factoryFunction

end Assembly

/-- The unit for a declaration whose methods have their behaviors. The trait's name has to have a
factory name. -/
def assemble (runtime : Tokens) (d : Declaration) (classified : List Classified) :
    Except IdentifierFault GeneratedUnit :=
  d.factoryName.map fun factory =>
    let methods := classified.map (Classified.tokens runtime d.name)
    { moduleName := d.modulePath.getD "self", interface := d.qualifiedName, implName := d.implName,
      fileName := d.fileName, methods, factory, returns := d.name,
      tokens := Assembly.tokens ⟨runtime, d, factory, methods⟩ }

end GraphRepo
