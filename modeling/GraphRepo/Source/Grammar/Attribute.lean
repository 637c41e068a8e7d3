import GraphRepo.Source.Grammar

/-!
# Attributes in source

Attributes in front of something and attributes inside its brackets.
-/

namespace GraphRepo.Source

open GraphRepo.Source.Parser

def Tokens.onPathWord (ts : Tokens) : Bool :=
  ts.onIdent || ts.onOneOf ["super", "self", "Self", "crate"]

/-- Names with `::` between them; keywords that name modules are names. -/
def plainPath : Parser AttributePath := do
  let leading := !(← signIf "::").isEmpty
  let names ← iterate (fun (found : List String) => do
    ensure (← sees Tokens.onPathWord)
    let name ← anyWord
    if !(← sees (Tokens.onOp "::")) then return (name :: found, false)
    let _ ← sign "::"
    return (name :: found, true)) []
  return ⟨leading, names.reverse⟩

namespace Grammar

variable (g : Grammar)

def anyExpression : Parser Expression := g.expression true .lowest

def attributeBody (inner : Bool) : Parser Attribute := do
  let path ← if ← takes "unsafe" then pure ⟨false, ["unsafe"]⟩ else plainPath
  if ← sees Tokens.onAnyGroup then
    let (d, body) ← anyGroup
    return ⟨inner, path, .list d body⟩
  if ← sees (Tokens.onOp "=") then
    let _ ← sign "="
    ensure !(← sees fun ts => ts.onOp "#" && ts.next.onGroup .bracket)
    return ⟨inner, path, .value (← g.anyExpression).tokens⟩
  return ⟨inner, path, .nothing⟩

def outerAttributes : Parser (List Attribute) :=
  manyUntil (fun ts => !ts.onOp "#") do
    let _ ← sign "#"
    group .bracket (g.attributeBody false)

/-- The attributes at the start of a body. -/
def innerAttributes : Parser (List Attribute) :=
  manyUntil (fun ts => !(ts.onOp "#" && ts.next.onOp "!")) do
    let _ ← sign "#"
    let _ ← sign "!"
    group .bracket (g.attributeBody true)

def outerTokens : Parser Tokens := return Attribute.outerTokens (← g.outerAttributes)

/-- A block in braces: attributes and statements. -/
def block : Parser Tokens := group .brace do
  let attributes ← g.innerAttributes
  return Attribute.innerTokens attributes ++ (← g.statements)

/-- A block whose attributes belong to what stands before it. -/
def bareBlock : Parser Tokens := return braces (← group .brace g.statements)

end Grammar

end GraphRepo.Source
