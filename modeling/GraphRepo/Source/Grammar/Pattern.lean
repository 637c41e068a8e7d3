import GraphRepo.Source.FieldNumber
import GraphRepo.Source.Grammar.Type

/-!
# Patterns in source

Only a plain identifier is looked into. Of the other forms it is known whether they are ranges, and
what attributes in front of them do.
-/

namespace GraphRepo.Source

open GraphRepo.Source.Parser

def pathTokens : Path ⊕ Tokens → Tokens
  | .inl p => p.tokens
  | .inr tokens => tokens

def isMacroPath : Path ⊕ Tokens → Bool
  | .inl p => p.isPlain
  | .inr _ => false

/-- Whether the `!` of a macro call comes next. -/
def Tokens.onBang (ts : Tokens) : Bool := ts.onOp "!" && !ts.onOp "!="

namespace Grammar

variable (g : Grammar)

/-- Patterns with `|` between them, and possibly one in front. -/
def alternatives : Parser Pattern := do
  let bar ← signIf "|"
  let first ← g.pattern
  let (tokens, several) ← iterate (fun ((done, several) : Tokens × Bool) => do
    if ← sees fun ts => ts.onOp "|" && !ts.onOp "||" && !ts.onOp "|=" then
      let bar ← sign "|"
      return ((done ++ bar ++ (← g.pattern).tokens, true), true)
    return ((done, several), false)) (bar ++ first.tokens, !bar.isEmpty)
  return if several then .other tokens else first

/-- The tokens of patterns with `|` between them. -/
def alternativesTokens : Parser Tokens := Pattern.tokens <$> g.alternatives

/-- Patterns with commas between them up to the end. -/
def patternList : Parser Tokens := listTokens "," (commas g.alternativesTokens)

/-- An element of a slice. A range without one of its ends needs parentheses there. -/
def sliceElement : Parser Tokens := do
  let element ← g.alternatives
  ensure !(element matches .range true _)
  return element.tokens

/-- `..` or `..=`; `...` is an old form of the second. -/
def rangeSign : Parser Tokens := do
  if ← sees (Tokens.onOp "..=") then sign "..="
  else if ← sees (Tokens.onOp "...") then
    let _ ← sign "..."
    return op "..="
  else sign ".."

/-- A literal, a path or a constant block, as a pattern or as an end of a range. -/
def value : Parser Pattern := do
  if ← sees Tokens.onLiteral then return .other (← literal)
  else if ← sees fun ts => ts.onPathWord || ts.onOp "::" || ts.onOp "<" then
    return .other (pathTokens (← g.qualifiedPath true))
  else
    let _ ← keyword "const"
    group .brace do
      let attributes ← g.innerAttributes
      return .constant (Attribute.innerTokens attributes) (← g.statements)

/-- An end of a range; nothing where none is written. -/
def rangeBound : Parser Tokens := do
  if ← sees fun ts => ts.isEmpty || ts.onAnyOp ["|", "=", ",", ";"] || ts.onOp ":" && !ts.onOp "::"
      || ts.onWord "if" then return []
  return (← g.value).tokens

/-- A range behind its start. Two dots alone stand for what is left out, and are no range. -/
def rangeFrom (start : Tokens) : Parser Pattern := do
  let limits ← rangeSign
  let bound ← g.rangeBound
  ensure !(bound.isEmpty && Tokens.onOp "..=" limits)
  let tokens := start ++ limits ++ bound
  return if start.isEmpty && bound.isEmpty then .other tokens
    else .range (start.isEmpty || bound.isEmpty) tokens

def member : Parser (Bool × Tokens) := do
  if ← sees Tokens.onIdent then return (true, word (← ident))
  match ← get with
  | .literal text :: rest =>
    match fieldNumber? text with
    | some n =>
      set rest
      return (false, [fieldNumberToken n])
    | none => failure
  | _ => failure

def fieldPattern : Parser Tokens := do
  let attributes ← g.outerTokens
  let boxed ← keywordIf "box"
  let byRef ← keywordIf "ref"
  let mutable ← keywordIf "mut"
  let modifiers := boxed ++ byRef ++ mutable
  let (named, name) ← member
  ensure (named || modifiers.isEmpty)
  if ← sees fun ts => modifiers.isEmpty && ts.onOp ":" || !named then
    let colon ← sign ":"
    return attributes ++ name ++ colon ++ (← g.alternativesTokens)
  return attributes ++ modifiers ++ name

/-- The fields of a struct pattern, with `..` at the end if it is there. -/
def fieldPatterns : Parser Tokens := iterate (fun (done : Tokens) => do
  if ← atEnd then return (done, false)
  let before ← get
  let attributes ← g.outerTokens
  if ← sees (Tokens.onOp "..") then
    return (done ++ attributes ++ (← sign ".."), false)
  set before
  let field ← g.fieldPattern
  if ← atEnd then return (done ++ field, false)
  return (done ++ field ++ (← sign ","), true)) []

def pathPattern : Parser Pattern := do
  let p ← g.qualifiedPath true
  let tokens := pathTokens p
  if ← sees fun ts => ts.onBang && isMacroPath p then
    let bang ← sign "!"
    let (d, body) ← anyGroup
    return .other (tokens ++ bang ++ [.group d body])
  else if ← sees (Tokens.onGroup .brace) then
    return .other (tokens ++ braces (← group .brace g.fieldPatterns))
  else if ← sees (Tokens.onGroup .paren) then
    return .other (tokens ++ parens (← group .paren g.patternList))
  else if ← sees (Tokens.onOp "..") then g.rangeFrom tokens
  else return .other tokens

def bindingPattern : Parser Pattern := do
  let byRef ← keywordIf "ref"
  let mutable ← keywordIf "mut"
  let name ← if ← sees (Tokens.onWord "self") then anyWord else ident
  let bind ← signIf "@"
  if bind.isEmpty then
    return if byRef.isEmpty && mutable.isEmpty then .name name
      else .other (byRef ++ mutable ++ word name)
  return .other (byRef ++ mutable ++ word name ++ bind ++ (← g.pattern).tokens)

def onPathPattern (ts : Tokens) : Bool :=
  ts.onIdent && (ts.next.onAnyOp ["::", "!", ".."] || ts.next.onGroup .brace
      || ts.next.onGroup .paren)
    || ts.onWord "self" && ts.next.onOp "::"
    || ts.onOp "::" || ts.onOp "<" || ts.onOneOf ["Self", "super", "crate"]

/-- A pattern without alternatives; the rule of the grammar. -/
def patternRule : Parser Pattern := do
  if ← sees onPathPattern then g.pathPattern
  else if ← sees (Tokens.onWord "_") then return .other (← keyword "_")
  else if ← sees (Tokens.onWord "box") then return .asWritten (← asWritten do
    let _ ← keyword "box"
    g.pattern)
  else if ← sees fun ts => ts.onOp "-" || ts.onLiteral || ts.onWord "const" then
    let start ← g.value
    if ← sees (Tokens.onOp "..") then g.rangeFrom start.tokens
    else return start
  else if ← sees fun ts => ts.onIdent || ts.onOneOf ["ref", "mut", "self"] then g.bindingPattern
  else if ← sees (Tokens.onOp "&") then
    let and ← sign "&"
    let mutable ← keywordIf "mut"
    return .other (and ++ mutable ++ (← g.pattern).tokens)
  else if ← sees (Tokens.onGroup .paren) then
    return .other (parens (← group .paren g.patternList))
  else if ← sees (Tokens.onGroup .bracket) then
    return .other (brackets (← group .bracket (listTokens "," (commas g.sliceElement))))
  else
    ensure (← sees fun ts => ts.onOp ".." && !ts.onOp "...")
    g.rangeFrom []

end Grammar

end GraphRepo.Source
