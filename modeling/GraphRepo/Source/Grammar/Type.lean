import GraphRepo.Source.Grammar.Attribute

/-!
# Types in source

Paths with their arguments, bounds, generic parameters and types. Where a rule needs itself inside
its own form, it goes through the grammar one level down.
-/

namespace GraphRepo.Source

open GraphRepo.Source.Parser

namespace Tokens

/-- Whether angle brackets that come next hold parameters, and not the type of a qualified path. -/
def onParameters (ts : Tokens) : Bool :=
  ts.onOp "<"
    && (ts.next.onOp ">" || ts.next.onOp "#"
      || (ts.next.onLifetime || ts.next.onIdent)
        && (ts.next.next.onAnyOp [">", ",", "="]
          || ts.next.next.onOp ":" && !ts.next.next.onOp "::")
      || ts.next.onWord "const")

/-- Whether a form that only the compiler's own library uses comes next, `builtin # name(…)`. -/
def onBuiltin (ts : Tokens) : Bool := ts.onWord "builtin" && ts.next.onOp "#"

end Tokens

/-- `builtin # name(…)`; what is in the parentheses is not looked into. -/
def builtinForm : Parser Unit := do
  let _ ← keyword "builtin"
  let _ ← sign "#"
  let _ ← ident
  group .paren (set ([] : Tokens))

namespace Grammar

variable (g : Grammar)

/-! ## Generic parameters -/

/-- A constant as an argument: a literal, a name or a block. -/
def constant : Parser Tokens := do
  if ← sees Tokens.onLiteral then literal
  else if ← sees Tokens.onIdent then return word (← ident)
  else return braces (← g.block)

/-- Whether a bound follows a `+`. -/
def onBound (allowConst : Bool) (ts : Tokens) : Bool :=
  ts.onAnyWord || ts.onOp "::" || ts.onOp "?" || ts.onLifetime || ts.onGroup .paren
    || allowConst && ts.onGroup .bracket

/-- Bounds with `+` between them, up to where a test holds; `constants` allows `const` ones. -/
def boundsUntil (stop : Tokens → Bool) (constants : Bool) : Parser (List Bound × Bool) :=
  separatedUntil stop "+" (g.bound false constants)

/-- Bounds with `+` between them; no bound stands where a test holds. -/
def boundsWhile (stop : Tokens → Bool) : Parser (List Bound × Bool) :=
  separatedWhile stop "+" (g.bound false true)

/-- The tokens of bounds behind a colon; without bounds the colon is not written either. -/
def boundsTokens : List Bound × Bool → Tokens
  | ([], _) => []
  | (bounds, trailing) => op ":" ++ separated "+" trailing (bounds.map Bound.tokens)

def lifetimeBounds (stop : Tokens → Bool) : Parser Tokens := do
  let (names, trailing) ← separatedWhile stop "+" lifetime
  return separated "+" trailing (names.map lifetimeTokens)

/-- A parameter of a declaration or a binder, and whether it is a lifetime; `_` is one if
allowed. -/
def parameter (allowUnnamed : Bool) : Parser (Bool × Tokens) := do
  let attributes ← g.outerTokens
  if ← sees Tokens.onLifetime then
    let name ← lifetime
    let colon ← signIf ":"
    if colon.isEmpty then return (true, attributes ++ lifetimeTokens name)
    let bounds ← lifetimeBounds fun ts => ts.isEmpty || ts.onAnyOp [",", ">"]
    return (true, attributes ++ lifetimeTokens name
      ++ (if bounds.isEmpty then [] else colon ++ bounds))
  else if ← sees Tokens.onIdent then
    let name ← ident
    let colon ← signIf ":"
    let bounds ← if colon.isEmpty then pure [] else
      boundsTokens <$> g.boundsWhile fun ts => ts.isEmpty || ts.onAnyOp [",", ">", "="]
    let eq ← signIf "="
    let default ← if eq.isEmpty then pure [] else Ty.tokens <$> g.type true
    return (false, attributes ++ word name ++ bounds ++ eq ++ default)
  else if ← sees (Tokens.onWord "const") then
    let const ← keyword "const"
    let name ← ident
    let colon ← sign ":"
    let ty ← g.type true
    let eq ← signIf "="
    let default ← if eq.isEmpty then pure [] else g.constant
    return (false, attributes ++ const ++ word name ++ colon ++ ty.tokens ++ eq ++ default)
  else
    ensure allowUnnamed
    return (false, attributes ++ (← keyword "_"))

def parameters (allowUnnamed : Bool) : Parser (List (Bool × Tokens) × Bool) := do
  let _ ← sign "<"
  let (entries, trailing) ← separatedUntil (Tokens.onOp ">") "," (g.parameter allowUnnamed)
  let _ ← sign ">"
  return (entries, trailing)

/-- `for<'a>`, if it comes next. -/
def binder : Parser Tokens := do
  if ← sees (Tokens.onWord "for") then
    let forWord ← keyword "for"
    let (entries, trailing) ← g.parameters false
    return forWord ++ op "<" ++ commaSeparated trailing (entries.map (·.2)) ++ op ">"
  else return []

/-! ## Paths -/

def argument : Parser Argument := do
  if ← sees fun ts => ts.onLifetime && !ts.next.onOp "+" then return .lifetime (← lifetime)
  if ← sees fun ts => ts.onLiteral || ts.onGroup .brace then return .other (← g.constant)
  let ty ← g.type true
  match ty with
  | .path (.segments false [] (.called _ _)) => return .type ty
  | .path (.segments false [] _) =>
    if ← sees (Tokens.onOp "=") then
      let eq ← sign "="
      if ← sees fun ts => ts.onLiteral || ts.onGroup .brace then
        return .other (ty.tokens ++ eq ++ (← g.constant))
      return .other (ty.tokens ++ eq ++ (← g.type true).tokens)
    if ← sees (Tokens.onOp ":") then
      let colon ← sign ":"
      let (bounds, trailing) ← g.boundsWhile fun ts => ts.onAnyOp [",", ">"]
      return .other (ty.tokens ++ colon ++ separated "+" trailing (bounds.map Bound.tokens))
    return .type ty
  | _ => return .type ty

/-- A segment of a path. In an expression the arguments need `::` before them. -/
def segment (inExpression : Bool) : Parser Segment := do
  if ← sees (Tokens.onOneOf ["super", "self", "crate", "try"]) then return .plain (← anyWord)
  let name ← if ← sees (Tokens.onWord "Self") then anyWord else ident
  if ← sees fun ts => !inExpression && ts.onOp "<" && !ts.onAnyOp ["<=", "<<="]
      || ts.onOp "::" && ts.next.next.onOp "<" then
    let turbofish := !(← signIf "::").isEmpty
    let _ ← sign "<"
    let (args, trailing) ← separatedUntil (Tokens.onOp ">") "," g.argument
    let _ ← sign ">"
    return .angled name turbofish args trailing
  return .plain name

def path (inExpression : Bool) : Parser Path := do
  let leading := !(← signIf "::").isEmpty
  let first ← g.segment inExpression
  iterate (fun (p : Path) => do
    if ← sees fun ts => ts.onOp "::" && !ts.next.next.onGroup .paren then
      let _ ← sign "::"
      return (p.extend (← g.segment inExpression), true)
    return (p, false)) (.segments leading [] first)

/-- A path, or the tokens of one that starts from a type, `<T as A>::B`. -/
def qualifiedPath (inExpression : Bool) : Parser (Path ⊕ Tokens) := do
  if ← sees (Tokens.onOp "<") then
    let opening ← sign "<"
    let ty ← g.type true
    let asWord ← keywordIf "as"
    let traitTokens ← if asWord.isEmpty then pure [] else Path.tokens <$> g.path false
    let close ← sign ">"
    let (rest, _) ← do
      let colons ← sign "::"
      let first ← g.segment inExpression
      iterate (fun (done : Tokens × Unit) => do
        if ← sees (Tokens.onOp "::") then
          let colons ← sign "::"
          return ((done.1 ++ colons ++ (← g.segment inExpression).tokens, ()), true)
        return (done, false)) (colons ++ first.tokens, ())
    return .inr (opening ++ ty.tokens ++ asWord ++ traitTokens ++ close ++ rest)
  else return .inl (← g.path inExpression)

/-! ## Bounds -/

def output (allowPlus : Bool) : Parser (Option Ty) := do
  if ← sees (Tokens.onOp "->") then
    let _ ← sign "->"
    return some (← g.type allowPlus)
  else return none

def outputTokens : Option Ty → Tokens
  | some ty => op "->" ++ ty.tokens
  | none => []

/-- A path that may end in types in parentheses, as `Fn(A) -> B` does. Angle brackets with nothing
in them are not written before the parentheses. -/
def traitPath : Parser Path := do
  let .segments leading qualifier last ← g.path false
  if ← sees fun ts => last.hasNoArguments
      && (ts.onGroup .paren || ts.onOp "::" && ts.next.next.onGroup .paren) then
    let _ ← signIf "::"
    let (inputs, trailing) ← group .paren (commas (g.type true))
    let result ← g.output false
    return .segments leading qualifier (.called last.name
      (parens (commaSeparated trailing (inputs.map Ty.tokens)) ++ outputTokens result))
  return .segments leading qualifier last

/-- A trait with what stands before it; no path for one whose implementation is constant. -/
def traitReference (allowConst : Bool) : Parser (Tokens × Option Path) := do
  let binder ← g.binder
  let isConst ← sees fun ts => ts.onGroup .bracket || ts.onWord "const"
  if isConst then
    ensure allowConst
    if ← sees (Tokens.onGroup .bracket) then
      let _ ← group .bracket (keyword "const")
    else
      let _ ← keyword "const"
  let maybe ← signIf "?"
  ensure (maybe.isEmpty || binder.isEmpty && !(← sees (Tokens.onWord "for")))
  let p ← g.traitPath
  return (binder ++ maybe, if isConst then none else some p)

def boundRule (allowCapture allowConst : Bool) : Parser Bound := do
  if ← sees Tokens.onLifetime then return .other (lifetimeTokens (← lifetime))
  if ← sees (Tokens.onWord "use") then
    ensure allowCapture
    let use ← keyword "use"
    let opening ← sign "<"
    let (entries, trailing) ← separatedUntil (Tokens.onOp ">") "," do
      if ← sees Tokens.onLifetime then return (true, lifetimeTokens (← lifetime))
      else if ← sees (Tokens.onWord "Self") then return (false, ← keyword "Self")
      else return (false, word (← ident))
    let close ← sign ">"
    return .other (use ++ opening ++ genericEntries entries trailing ++ close)
  let parenthesized ← sees (Tokens.onGroup .paren)
  let before ← get
  let (modifiers, p) ← if parenthesized then group .paren (g.traitReference allowConst)
    else g.traitReference allowConst
  match p with
  | some p => return .trait parenthesized modifiers p
  | none => return .constant (before.upTo (← get))

/-- Bounds with `+` between them, at least one of them a trait. -/
def objectBounds (allowPlus allowCapture allowConst : Bool) : Parser Tokens := do
  let ((backwards, trailing)) ← iterate (fun ((found, _) : List Bound × Bool) => do
    let b ← g.bound allowCapture allowConst
    if !(allowPlus && (← sees (Tokens.onOp "+"))) then return ((b :: found, false), false)
    let _ ← sign "+"
    return ((b :: found, true), ← sees (onBound allowConst))) ([], false)
  ensure (backwards.any fun b => b matches .trait .. | .constant _)
  return separated "+" trailing (backwards.reverse.map Bound.tokens)

/-! ## Clauses -/

/-- Whether the bounds of a `where` clause end here. -/
def onClauseEnd (ts : Tokens) : Bool :=
  ts.isEmpty || ts.onGroup .brace || ts.onAnyOp [",", ";", "="] || ts.onOp ":" && !ts.onOp "::"

/-- A condition of a `where` clause. -/
def condition : Parser Tokens := do
  if ← sees fun ts => ts.onLifetime && ts.next.onOp ":" then
    let name ← lifetime
    let colon ← sign ":"
    return lifetimeTokens name ++ colon ++ (← lifetimeBounds onClauseEnd)
  let binder ← g.binder
  let ty ← g.type true
  let colon ← sign ":"
  let (bounds, trailing) ← g.boundsWhile onClauseEnd
  return binder ++ ty.tokens ++ colon ++ separated "+" trailing (bounds.map Bound.tokens)

/-- A `where` clause, if one comes next. One without conditions is not written. Parameters of its
own are reserved. -/
def whereClause : Parser Tokens := do
  if ← sees (Tokens.onWord "where") then
    let whereWord ← keyword "where"
    ensure !(← sees Tokens.onParameters)
    let (conditions, trailing) ← separatedWhile onClauseEnd "," g.condition
    return if conditions.isEmpty then [] else whereWord ++ commaSeparated trailing conditions
  else return []

/-- Generic parameters, if they come next; the `where` clause comes later. -/
def generics : Parser Generics := do
  if ← sees (Tokens.onOp "<") then
    let (entries, trailing) ← g.parameters true
    return ⟨entries, trailing, []⟩
  else return ⟨[], false, []⟩

/-! ## Types -/

/-- What stands in the parentheses of a type. -/
inductive InParens
  | unit
  | object (tokens : Tokens)
  | optional (modifiers : Tokens) (p : Path)
  | tuple (elems : List Ty) (trailing : Bool)
  | single (ty : Ty)

def inParens : Parser InParens := do
  if ← atEnd then return .unit
  if ← sees Tokens.onLifetime then return .object (← g.objectBounds true false false)
  if ← sees (Tokens.onOp "?") then
    match ← g.traitReference false with
    | (modifiers, some p) => return .optional modifiers p
    | _ => failure
  let first ← g.type true
  if ← sees (Tokens.onOp ",") then
    let _ ← sign ","
    let (rest, trailing) ← commas (g.type true)
    return .tuple (first :: rest) (trailing || rest.isEmpty)
  return .single first

/-- A bound in parentheses with those behind it, each after a `+`. -/
def furtherBounds (modifiers : Tokens) (p : Path) : Parser Ty := do
  let first := Ty.bare true modifiers p
  if !(← sees (Tokens.onOp "+")) then return first
  let tokens ← iterate (fun (done : Tokens) => do
    if ← sees (Tokens.onOp "+") then
      let plus ← sign "+"
      return (done ++ plus ++ (← g.bound false false).tokens, true)
    return (done, false)) first.tokens
  return .other tokens

def linkage : Parser Tokens := do
  let linkageWord ← keywordIf "extern"
  if linkageWord.isEmpty then return []
  if ← sees fun ts => (quotedLiteral ts).isSome then return linkageWord ++ (← quotedLiteral)
  return linkageWord

def functionInput (allowSelf : Bool) : Parser Tokens := do
  let attributes ← g.outerTokens
  let before ← get
  let mutSelf ← sees fun ts => allowSelf && ts.onWord "mut" && ts.next.onWord "self"
  if mutSelf then
    let _ ← keyword "mut"
  if ← sees fun ts => (ts.onIdent || ts.onWord "_" || allowSelf && ts.onWord "self")
      && ts.next.onOp ":" && !ts.next.onOp "::" then
    let name ← anyWord
    let colon ← sign ":"
    let ty ← g.type true
    if mutSelf then return attributes ++ before.upTo (← get)
    return attributes ++ word name ++ colon ++ ty.tokens
  else if mutSelf then
    let _ ← keyword "self"
    return attributes ++ before.upTo (← get)
  else
    return attributes ++ (← g.type true).tokens

/-- Whether `...` comes next, with a name or not. -/
def onVariadic (ts : Tokens) : Bool :=
  ts.onOp "..."
    || (ts.onIdent || ts.onWord "_") && ts.next.onOp ":" && ts.next.next.onOp "..."

def functionInputs : Parser Tokens := do
  let (backwards, trailing, variadic) ←
    iterate (fun ((found, trailing, _) : List Tokens × Bool × Tokens) => do
      if ← atEnd then return ((found, trailing, []), false)
      let attributes ← g.outerTokens
      if ← sees onVariadic then
        let name ← if ← sees (Tokens.onOp "...") then pure [] else do
          let name ← anyWord
          pure (word name ++ (← sign ":"))
        let dots ← sign "..."
        return ((found, trailing, attributes ++ name ++ dots ++ (← signIf ",")), false)
      let input := attributes ++ (← g.functionInput found.isEmpty)
      if ← atEnd then return ((input :: found, false, []), false)
      let _ ← sign ","
      return ((input :: found, true, []), true)) ([], false, [])
  return commaSeparated trailing backwards.reverse ++ variadic

def parenthesizedType (allowPlus : Bool) : Parser Ty := do
  match ← group .paren g.inParens with
  | .unit => return .tuple [] false
  | .object tokens => return .paren (.other tokens)
  | .optional modifiers p => g.furtherBounds modifiers p
  | .tuple elems trailing => return .tuple elems trailing
  | .single first =>
    match first, allowPlus && (← sees (Tokens.onOp "+")) with
    | .path p, true => g.furtherBounds [] p
    | .bare _ modifiers p, true => g.furtherBounds modifiers p
    | _, _ => return .paren first

def functionType (binder : Tokens) : Parser Ty := do
  let unsafety ← keywordIf "unsafe"
  let abi ← linkage
  let fn ← keyword "fn"
  let inputs ← group .paren g.functionInputs
  let result ← g.output false
  return .other (binder ++ unsafety ++ abi ++ fn ++ parens inputs ++ outputTokens result)

/-- A type that starts with a path: the path, a macro call, or bounds that start with it. -/
def pathType (allowPlus : Bool) (binder : Tokens) : Parser Ty := do
  match ← g.qualifiedPath false with
  | .inr tokens => return .other tokens
  | .inl p =>
    if ← sees fun ts => ts.onOp "!" && !ts.onOp "!=" && p.isPlain then
      let bang ← sign "!"
      let (d, body) ← anyGroup
      return .other (p.tokens ++ bang ++ [.group d body])
    if !(allowPlus && (← sees (Tokens.onOp "+"))) then
      return if binder.isEmpty then .path p else .bare false binder p
    let tokens ← iterate (fun (done : Tokens) => do
      if ← sees fun ts => allowPlus && ts.onOp "+" then
        let plus ← sign "+"
        if ← sees (onBound false) then
          return (done ++ plus ++ (← g.bound false false).tokens, true)
        return (done ++ plus, false)
      return (done, false)) (binder ++ p.tokens)
    return .other tokens

/-- A trait object with `dyn`. -/
def dynType (allowPlus : Bool) : Parser Ty := do
  let before ← get
  let dyn ← keyword "dyn"
  let star ← signIf "*"
  let bounds ← g.objectBounds allowPlus false false
  let after ← get
  return .other (if star.isEmpty then dyn ++ bounds else before.upTo after)

def arrayType : Parser Ty := do
  let body ← group .bracket do
    let elem ← g.type true
    let semi ← signIf ";"
    if semi.isEmpty then return elem.tokens
    return elem.tokens ++ semi ++ (← g.anyExpression).tokens
  return .other (brackets body)

def pointerType : Parser Ty := do
  let star ← sign "*"
  let access ← if ← sees (Tokens.onWord "const") then keyword "const" else keyword "mut"
  return .other (star ++ access ++ (← g.type false).tokens)

def referenceType : Parser Ty := do
  let _ ← sign "&"
  let lifetime ← lifetimeIf
  let exclusive ← takes "mut"
  return .reference lifetime exclusive (← g.type false)

/-- `impl A + B`. -/
def implType (allowPlus : Bool) : Parser Ty := do
  let impl ← keyword "impl"
  return .other (impl ++ (← g.objectBounds allowPlus true true))

/-- A type; the rule of the grammar. -/
def typeRule (allowPlus : Bool) : Parser Ty := do
  let before ← get
  let binder ← g.binder
  if !binder.isEmpty then
    ensure (← sees fun ts => ts.onIdent || ts.onOneOf
      ["fn", "unsafe", "extern", "super", "self", "Self", "crate"])
  if ← sees (Tokens.onGroup .paren) then g.parenthesizedType allowPlus
  else if ← sees (Tokens.onOneOf ["fn", "unsafe", "extern"]) then g.functionType binder
  else if ← sees Tokens.onBuiltin then
    builtinForm
    return .other (before.upTo (← get))
  else if ← sees fun ts => ts.onPathWord || ts.onOp "::" || ts.onOp "<" then
    g.pathType allowPlus binder
  else if ← sees (Tokens.onWord "dyn") then g.dynType allowPlus
  else if ← sees (Tokens.onGroup .bracket) then g.arrayType
  else if ← sees (Tokens.onOp "*") then g.pointerType
  else if ← sees (Tokens.onOp "&") then g.referenceType
  else if ← sees fun ts => ts.onOp "!" && !ts.onOp "=" then return .other (← sign "!")
  else if ← sees (Tokens.onWord "impl") then g.implType allowPlus
  else if ← sees (Tokens.onWord "_") then return .other (← keyword "_")
  else
    ensure (← sees Tokens.onLifetime)
    return .other (← g.objectBounds true false false)

end Grammar

end GraphRepo.Source
