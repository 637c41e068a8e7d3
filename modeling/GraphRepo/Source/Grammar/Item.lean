import GraphRepo.Source.Grammar.Expression

/-!
# Items in source

Traits and their members, the other kinds of items, and statements, which may be items. Where a rule
answers nothing, what it takes is no item of a known kind and is kept as it was written.
-/

namespace GraphRepo.Source

open GraphRepo.Source.Parser

namespace Grammar

variable (g : Grammar)

/-! ## Functions -/

/-- `self` as the first input. -/
def receiver (attributes : List Attribute) : Parser Input := do
  let reference ← if ← sees (Tokens.onOp "&") then do
      let _ ← sign "&"
      pure (some (← lifetimeIf))
    else pure none
  let mutable ← takes "mut"
  let _ ← keyword "self"
  let colon ← if reference.isSome then pure [] else signIf ":"
  let ty ← if colon.isEmpty then pure none else some <$> g.type true
  return .receiver attributes reference mutable ty

/-- Whether `self` comes next as an input, and not as the start of a path. -/
def onReceiver (ts : Tokens) : Bool :=
  let skipIf (test : Tokens → Bool) (ts : Tokens) : Tokens := if test ts then ts.next else ts
  let ts := if ts.onOp "&" then skipIf Tokens.onLifetime ts.next else ts
  let ts := skipIf (Tokens.onWord "mut") ts
  ts.onWord "self" && !ts.next.onOp "::"

/-- An input, or the tokens of a last one that stands for any number of them, `...` with a pattern
or without. A type alone has the pattern `_`. -/
def input (attributes : List Attribute) : Parser (Input ⊕ Tokens) := do
  if ← sees (Tokens.onOp "...") then
    return .inr (Attribute.outerTokens attributes ++ (← sign "..."))
  else if ← sees onReceiver then return .inl (← g.receiver attributes)
  else if ← sees fun ts => ts.onIdent && ts.next.onOp "<" then
    return .inl (.typed attributes (.other (word "_")) (← g.type true))
  else
    let pattern ← g.pattern
    let colon ← sign ":"
    if ← sees (Tokens.onOp "...") then
      return .inr (Attribute.outerTokens attributes ++ pattern.tokens ++ colon ++ (← sign "..."))
    return .inl (.typed attributes pattern (← g.type true))

/-- The inputs of a function. Only the first may be `self`. -/
def inputs : Parser (List Input × Bool × Tokens) := do
  let (backwards, trailing, variadic) ←
    iterate (fun ((found, trailing, _) : List Input × Bool × Tokens) => do
      if ← atEnd then return ((found, trailing, []), false)
      match ← g.input (← g.outerAttributes) with
      | .inr variadic => return ((found, trailing, variadic ++ (← signIf ",")), false)
      | .inl input =>
        ensure (found.isEmpty || !(input matches .receiver ..))
        if ← atEnd then return ((input :: found, false, []), false)
        let _ ← sign ","
        return ((input :: found, true, []), true)) ([], false, [])
  return (backwards.reverse, trailing, variadic)

def signature : Parser Signature := do
  let isConst ← takes "const"
  let isAsync ← takes "async"
  let unsafety ← keywordIf "unsafe"
  let abi ← linkage
  let _ ← keyword "fn"
  let name ← ident
  let generics ← g.generics
  let (inputs, trailing, variadic) ← group .paren g.inputs
  let output ← g.output true
  let whereTokens ← g.whereClause
  return { isConst, isAsync, qualifiers := unsafety ++ abi, name,
           generics := { generics with whereClause := whereTokens }, inputs, trailing, variadic,
           output }

/-- Whether a signature starts here; `safe` counts as a qualifier if allowed. -/
def onSignature (allowSafe : Bool) (ts : Tokens) : Bool :=
  let skip (name : String) (ts : Tokens) : Tokens := if ts.onWord name then ts.next else ts
  let ts := skip "async" (skip "const" ts)
  let ts := if allowSafe && ts.onWord "safe" then ts.next else skip "unsafe" ts
  let ts := if ts.onWord "extern" then
      if (quotedLiteral ts.next).isSome then ts.next.next else ts.next
    else ts
  ts.onWord "fn"

/-! ## Parts that items share -/

def visibility : Parser Tokens := do
  if ← sees (Tokens.onWord "pub") then
    let pub ← keyword "pub"
    match ← get with
    | .group .paren body :: rest =>
      match body with
      | [.ident name] =>
        if ["crate", "self", "super"].contains name then
          set rest
          return pub ++ parens (word name)
        else return pub
      | .ident "in" :: path =>
        match parseAll plainPath path with
        | some p =>
          set rest
          return pub ++ parens (word "in" ++ p.tokens)
        | none => failure
      | _ => return pub
    | _ => return pub
  else return []

/-- `= value`, if it comes next. -/
def valueIf (value : Parser Tokens) : Parser Tokens := do
  let eq ← signIf "="
  if eq.isEmpty then return []
  return eq ++ (← value)

/-- What has to be known of an associated type or a type alias. -/
structure TypeDeclaration where
  name : String
  /-- Whether a colon, and possibly bounds, follow the name. -/
  bounded : Bool
  valued : Bool
  tokens : Tokens

/-- An associated type or a type alias: where its `where` clause may stand decides the form. -/
def typeDeclaration (whereFirst whereLast : Bool) : Parser TypeDeclaration := do
  let typeWord ← keyword "type"
  let name ← ident
  let generics ← g.generics
  let colon ← signIf ":"
  let bounds ← if colon.isEmpty then pure ([], false) else
    g.boundsUntil (fun ts => ts.onWord "where" || ts.onAnyOp ["=", ";"]) true
  let isFirst ← sees fun ts => whereFirst && ts.onWord "where"
  let first ← if whereFirst then g.whereClause else pure []
  let value ← valueIf (Ty.tokens <$> g.type true)
  let last ← if whereLast && !isFirst then g.whereClause else pure []
  let semi ← sign ";"
  return { name, bounded := !colon.isEmpty, valued := !value.isEmpty,
           tokens := typeWord ++ word name ++ generics.tokens ++ boundsTokens bounds ++ first
             ++ value ++ last ++ semi }

/-- A constant: whether it is generic, whether it has a value, and its tokens. -/
def constantDeclaration : Parser (Bool × Bool × Tokens) := do
  let constWord ← keyword "const"
  let name ← if ← sees (Tokens.onWord "_") then anyWord else ident
  let isGeneric ← sees (Tokens.onOp "<")
  let generics ← g.generics
  let colon ← sign ":"
  let ty ← g.type true
  let value ← valueIf g.expressionTokens
  let hasWhere ← sees (Tokens.onWord "where")
  let _ ← g.whereClause
  let semi ← sign ";"
  return (isGeneric || hasWhere, !value.isEmpty,
    constWord ++ word name ++ generics.tokens ++ colon ++ ty.tokens ++ value ++ semi)

/-- A macro call as an item; without braces it ends in a semicolon. -/
def macroItem (named : Bool) : Parser Tokens := do
  let path ← plainPath
  let bang ← sign "!"
  let name ← if ← sees fun ts => named && (ts.onIdent || ts.onWord "try") then
    word <$> anyWord else pure []
  let (d, body) ← anyGroup
  let semi ← if d = .brace then pure [] else sign ";"
  return path.tokens ++ bang ++ name ++ [.group d body] ++ semi

def onMacro (ts : Tokens) : Bool :=
  ts.onIdent || ts.onOneOf ["self", "super", "crate"] || ts.onOp "::"

def functionBody : Parser (List Attribute × Tokens) := group .brace do
  let attributes ← g.innerAttributes
  return (attributes, ← g.statements)

/-! ## Members of traits -/

def method (attributes : List Attribute) : Parser Method := do
  let signature ← g.signature
  if ← sees (Tokens.onGroup .brace) then
    let (inner, body) ← g.functionBody
    return ⟨attributes ++ inner, signature, some body⟩
  let _ ← sign ";"
  return ⟨attributes, signature, none⟩

/-- A member of a trait whose visibility and `default` have been read; a generic constant is not of
a known kind. -/
def plainMember (attributes : List Attribute) (qualified : Bool) : Parser (Option Member) := do
  let outer := Attribute.outerTokens attributes
  if ← sees fun ts => ts.onWord "fn" || onSignature false ts then
    return some (.method (← g.method attributes))
  else if ← sees (Tokens.onWord "const") then
    let (isGeneric, hasDefault, tokens) ← g.constantDeclaration
    return if isGeneric then none else some (.constant hasDefault (outer ++ tokens))
  else if ← sees (Tokens.onWord "type") then
    return some (.other (outer ++ (← g.typeDeclaration false true).tokens))
  else
    ensure (!qualified && (← sees onMacro))
    return some (.other (outer ++ (← macroItem false)))

/-- A member of a trait. One with a visibility or `default` is not of a known kind. -/
def traitMember : Parser Member := orAsWritten .other do
  let attributes ← g.outerAttributes
  let vis ← visibility
  let default ← keywordIf "default"
  let qualified := !vis.isEmpty || !default.isEmpty
  let member ← g.plainMember attributes qualified
  return if qualified then none else member

/-! ## Traits -/

def traitRest (attributes : List Attribute) (vis qualifiers : Tokens) (name : String)
    (generics : Generics) : Parser Trait := do
  let colon ← signIf ":"
  let (bounds, trailing) ← if colon.isEmpty then pure ([], false) else
    g.boundsUntil (fun ts => ts.onWord "where" || ts.onGroup .brace) true
  let whereTokens ← g.whereClause
  let (inner, members) ← group .brace do
    let inner ← g.innerAttributes
    return (inner, ← manyUntil List.isEmpty g.traitMember)
  return { attributes := attributes ++ inner, visibility := vis, qualifiers, name,
           generics := { generics with whereClause := whereTokens }, bounds, trailing, members }

def traitItem (attributes : List Attribute) (vis : Tokens) : Parser Item := do
  let unsafety ← keywordIf "unsafe"
  let auto ← keywordIf "auto"
  let qualifiers := unsafety ++ auto
  let traitWord ← keyword "trait"
  let name ← ident
  let generics ← g.generics
  if ← sees fun ts => qualifiers.isEmpty && ts.onOp "=" then
    let eq ← sign "="
    let (bounds, trailing) ← separatedUntil (fun ts => ts.onWord "where" || ts.onOp ";") "+"
      (g.bound false false)
    let whereTokens ← g.whereClause
    let semi ← sign ";"
    return .named name (Attribute.outerTokens attributes ++ vis ++ traitWord ++ word name
      ++ generics.tokens ++ eq ++ separated "+" trailing (bounds.map Bound.tokens) ++ whereTokens
      ++ semi)
  return .trait (← g.traitRest attributes vis qualifiers name generics)

/-! ## Other items -/

def withOuter (attributes : List Attribute) (tokens : Tokens) : Tokens :=
  Attribute.outerTokens attributes ++ tokens

/-- A field with a name. The type of one that is called `_` may be a struct or a union without a
name, which is kept as it was written. -/
def namedField : Parser Tokens := do
  let attributes ← g.outerTokens
  let vis ← visibility
  let unnamed ← sees (Tokens.onWord "_")
  let name ← if unnamed then anyWord else ident
  let colon ← sign ":"
  let ty ← if ← sees fun ts => unnamed
      && (ts.onWord "struct" || ts.onWord "union" && ts.next.onGroup .brace) then
      asWritten do
        let _ ← anyWord
        g.namedFields
    else Ty.tokens <$> g.type true
  return attributes ++ vis ++ word name ++ colon ++ ty

def unnamedField : Parser Tokens := do
  let attributes ← g.outerTokens
  let vis ← visibility
  return attributes ++ vis ++ (← g.type true).tokens

/-- Fields in braces; the rule of the grammar. -/
def namedFieldsRule : Parser Tokens :=
  return braces (← group .brace (listTokens "," (commas g.namedField)))

def unnamedFields : Parser Tokens :=
  return parens (← group .paren (listTokens "," (commas g.unnamedField)))

def structItem (vis : Tokens) : Parser (String × Tokens) := do
  let structWord ← keyword "struct"
  let name ← ident
  let generics ← g.generics
  let hasWhere ← sees (Tokens.onWord "where")
  let whereTokens ← g.whereClause
  let head := vis ++ structWord ++ word name ++ generics.tokens
  if ← sees fun ts => !hasWhere && ts.onGroup .paren then
    let fields ← g.unnamedFields
    let whereTokens ← g.whereClause
    return (name, head ++ fields ++ whereTokens ++ (← sign ";"))
  else if ← sees (Tokens.onGroup .brace) then
    return (name, head ++ whereTokens ++ (← g.namedFieldsRule))
  else return (name, head ++ whereTokens ++ (← sign ";"))

/-- A variant of an enumeration. Its visibility is not written again. -/
def variant : Parser Tokens := do
  let attributes ← g.outerTokens
  let _ ← visibility
  let name ← ident
  let fields ← if ← sees (Tokens.onGroup .brace) then g.namedFieldsRule
    else if ← sees (Tokens.onGroup .paren) then g.unnamedFields
    else pure []
  return attributes ++ word name ++ fields ++ (← valueIf g.expressionTokens)

def enumItem (vis : Tokens) : Parser (String × Tokens) := do
  let enumWord ← keyword "enum"
  let name ← ident
  let generics ← g.generics
  let whereTokens ← g.whereClause
  let body ← group .brace (listTokens "," (commas g.variant))
  return (name, vis ++ enumWord ++ word name ++ generics.tokens ++ whereTokens ++ braces body)

def unionItem (vis : Tokens) : Parser (String × Tokens) := do
  let unionWord ← keyword "union"
  let name ← ident
  let generics ← g.generics
  let whereTokens ← g.whereClause
  return (name, vis ++ unionWord ++ word name ++ generics.tokens ++ whereTokens
    ++ (← g.namedFieldsRule))

/-- A new name behind `as`. -/
def rename : Parser Tokens := do
  let asWord ← keywordIf "as"
  if asWord.isEmpty then return []
  if ← sees (Tokens.onWord "_") then return asWord ++ (← keyword "_")
  return asWord ++ word (← ident)

/-- What `use` brings in; the rule of the grammar. A tree in a group may start at the root of all
crates if nothing stands before the group. -/
def useTreeRule (fromRoot : Bool) : Parser (Option Tokens) := do
  if ← sees (Tokens.onOp "*") then return some (← sign "*")
  else if ← sees (Tokens.onGroup .brace) then
    let (trees, trailing) ← group .brace (commas do
      let root ← if fromRoot then signIf "::" else pure []
      let tree ← g.useTree (fromRoot && root.isEmpty)
      return if root.isEmpty then tree else none)
    return (trees.mapM id).map fun trees => braces (commaSeparated trailing trees)
  else
    let name ← if ← sees (Tokens.onOneOf ["self", "super", "crate", "try"]) then anyWord else ident
    if ← sees (Tokens.onOp "::") then
      let colons ← sign "::"
      return (← g.useTree false).map (word name ++ colons ++ ·)
    return some (word name ++ (← rename))

/-- `use`. A part that starts at the root of all crates makes it an item of no known kind. -/
def useItem (vis : Tokens) : Parser (Option Tokens) := do
  let useWord ← keyword "use"
  let root ← signIf "::"
  let tree ← g.useTree root.isEmpty
  let semi ← sign ";"
  return tree.map (vis ++ useWord ++ root ++ · ++ semi)

/-- `extern crate`. -/
def externCrate (vis : Tokens) : Parser Tokens := do
  let externWord ← keyword "extern"
  let crateWord ← keyword "crate"
  let name ← if ← sees (Tokens.onWord "self") then anyWord else ident
  let new ← rename
  return vis ++ externWord ++ crateWord ++ word name ++ new ++ (← sign ";")

/-- A function of foreign code; with a body or `safe` it is not of a known kind. -/
def foreignFunction (vis : Tokens) : Parser (Option Tokens) := do
  let safe ← sees fun ts => ts.onWord "safe"
    || (ts.onWord "const" || ts.onWord "async") && ts.next.onWord "safe"
  if safe then
    let _ ← keywordIf "const"
    let _ ← keywordIf "async"
    let _ ← keyword "safe"
  let signature ← g.signature
  if ← sees (Tokens.onGroup .brace) then
    let _ ← g.functionBody
    return none
  let semi ← sign ";"
  return if safe then none else some (vis ++ signature.tokens ++ semi)

/-- A static variable. Of this code's own it has a type and a value, of foreign code no value; any
other is not of a known kind. -/
def staticItem (vis : Tokens) (foreign : Bool) : Parser (Option Tokens) := do
  let qualifier ← if ← sees fun ts => foreign && ts.onOneOf ["unsafe", "safe"] then
    word <$> anyWord else pure []
  let staticWord ← keyword "static"
  let mutable ← keywordIf "mut"
  let name ← ident
  if ← sees fun ts => !foreign && ts.onOp "=" then
    let _ ← valueIf g.expressionTokens
    let _ ← sign ";"
    return none
  let colon ← sign ":"
  let ty ← g.type true
  let value ← valueIf g.expressionTokens
  let semi ← sign ";"
  if value.isEmpty != foreign || !qualifier.isEmpty then return none
  return some (vis ++ staticWord ++ mutable ++ word name ++ colon ++ ty.tokens ++ value ++ semi)

/-- A member of a block of foreign code. A type with bounds or a value is not of a known kind. -/
def foreignMember : Parser Tokens := orAsWritten id do
  let attributes ← g.outerTokens
  let vis ← visibility
  if ← sees fun ts => ts.onWord "fn" || onSignature true ts then
    return (← g.foreignFunction vis).map (attributes ++ ·)
  else if ← sees fun ts => ts.onWord "static"
      || ts.onOneOf ["unsafe", "safe"] && ts.next.onWord "static" then
    return (← g.staticItem vis true).map (attributes ++ ·)
  else if ← sees (Tokens.onWord "type") then
    let t ← g.typeDeclaration true true
    return if t.bounded || t.valued then none else some (attributes ++ vis ++ t.tokens)
  else
    ensure (vis.isEmpty && (← sees onMacro))
    return some (attributes ++ (← macroItem false))

def foreignBlock : Parser Tokens := do
  let unsafety ← keywordIf "unsafe"
  let externWord ← keyword "extern"
  let abi ← if ← sees fun ts => (quotedLiteral ts).isSome then quotedLiteral else pure []
  let body ← group .brace do
    let inner ← g.innerAttributes
    return Attribute.innerTokens inner ++ (← manyUntil List.isEmpty g.foreignMember).flatten
  return unsafety ++ externWord ++ abi ++ braces body

/-- A member of an implementation. A function without a body, a constant without a value or with
parameters, and a type with bounds or without a value are not of a known kind. -/
def implMember : Parser Tokens := orAsWritten id do
  let attributes ← g.outerTokens
  let vis ← visibility
  let default ← if ← sees fun ts => ts.onWord "default" && !ts.next.onOp "!" then
    keyword "default" else pure []
  let head := attributes ++ vis ++ default
  if ← sees fun ts => ts.onWord "fn" || onSignature false ts then
    let signature ← g.signature
    if !(← signIf ";").isEmpty then return none
    let (inner, body) ← g.functionBody
    return some (head ++ signature.tokens ++ braces (Attribute.innerTokens inner ++ body))
  else if ← sees (Tokens.onWord "const") then
    let (isGeneric, hasValue, tokens) ← g.constantDeclaration
    return if hasValue && !isGeneric then some (head ++ tokens) else none
  else if ← sees (Tokens.onWord "type") then
    let t ← g.typeDeclaration false true
    return if t.bounded || !t.valued then none else some (head ++ t.tokens)
  else
    ensure (vis.isEmpty && default.isEmpty && (← sees onMacro))
    return some (head ++ (← macroItem false))

/-- An implementation. One that is public, constant or of something that is no path is not of a
known kind; one without a trait cannot be negative. -/
def implItem (vis : Tokens) : Parser (Option Tokens) := do
  let default ← keywordIf "default"
  let unsafety ← keywordIf "unsafe"
  let implWord ← keyword "impl"
  let generics ← if ← sees Tokens.onParameters then g.generics else pure ⟨[], false, []⟩
  let _ ← if ← sees fun ts => ts.onOp "?" && ts.next.onWord "const" then sign "?" else pure []
  let constWord ← keywordIf "const"
  let polarity ← if ← sees fun ts => ts.onOp "!" && !ts.next.onGroup .brace then sign "!"
    else pure []
  let first ← g.type true
  let forWord ← keywordIf "for"
  ensure (polarity.isEmpty || !forWord.isEmpty)
  let self ← if forWord.isEmpty then pure [] else Ty.tokens <$> g.type true
  let whereTokens ← g.whereClause
  let body ← group .brace do
    let inner ← g.innerAttributes
    return Attribute.innerTokens inner ++ (← manyUntil List.isEmpty g.implMember).flatten
  let isKnown := vis.isEmpty && constWord.isEmpty && (forWord.isEmpty || (first matches .path _))
  if !isKnown then return none
  return some (default ++ unsafety ++ implWord ++ generics.tokens ++ polarity ++ first.tokens
    ++ forWord ++ self ++ whereTokens ++ braces body)

def moduleItem (attributes : List Attribute) (vis : Tokens) : Parser Item := do
  let unsafety ← keywordIf "unsafe"
  let modWord ← keyword "mod"
  let name ← if ← sees (Tokens.onWord "try") then anyWord else ident
  let head := withOuter attributes (vis ++ unsafety ++ modWord)
  if ← sees (Tokens.onOp ";") then
    return .named name (head ++ word name ++ (← sign ";"))
  let (inner, items) ← group .brace do
    let inner ← g.innerAttributes
    return (inner, ← manyUntil List.isEmpty g.item)
  return .module head name (Attribute.innerTokens (attributes ++ inner)) items

/-- A constant outside of traits. Without a value or with parameters it is not of a known kind. -/
def constItem (vis : Tokens) : Parser (Option Tokens) := do
  let (isGeneric, hasValue, tokens) ← g.constantDeclaration
  return if hasValue && !isGeneric then some (vis ++ tokens) else none

/-- A function outside of traits. Without a body it is not of a known kind. -/
def functionItem (vis : Tokens) : Parser (Option (String × Tokens)) := do
  let signature ← g.signature
  if !(← signIf ";").isEmpty then return none
  let (inner, body) ← g.functionBody
  return some (signature.name,
    vis ++ signature.tokens ++ braces (Attribute.innerTokens inner ++ body))

/-- A type alias. With bounds or without a value it is not of a known kind. -/
def aliasItem (vis : Tokens) : Parser (Option (String × Tokens)) := do
  let t ← g.typeDeclaration true false
  return if t.bounded || !t.valued then none else some (t.name, vis ++ t.tokens)

def macroDefinition : Parser Unit := do
  let _ ← keyword "macro"
  let _ ← ident
  if ← sees (Tokens.onGroup .paren) then
    let _ ← anyGroup
  ensure (← sees (Tokens.onGroup .brace))
  let _ ← anyGroup

/-- An item behind its attributes; nothing for one that is not of a known kind. -/
def itemRest (attributes : List Attribute) : Parser (Option Item) := do
  let vis ← visibility
  let unnamed (p : Parser (Option Tokens)) : Parser (Option Item) := do
    return (← p).map fun tokens => .other (withOuter attributes tokens)
  let named (p : Parser (Option (String × Tokens))) : Parser (Option Item) := do
    return (← p).map fun (name, tokens) => .named name (withOuter attributes tokens)
  if ← sees fun ts => ts.onWord "fn" || onSignature false ts then named (g.functionItem vis)
  else if ← sees fun ts => ts.onWord "extern" && ts.next.onWord "crate" then
    unnamed (some <$> externCrate vis)
  else if ← sees fun ts => ts.onWord "extern" || ts.onWord "unsafe" && ts.next.onWord "extern" then
    ensure vis.isEmpty
    unnamed (some <$> g.foreignBlock)
  else if ← sees (Tokens.onWord "use") then unnamed (g.useItem vis)
  else if ← sees (Tokens.onWord "static") then unnamed (g.staticItem vis false)
  else if ← sees (Tokens.onWord "const") then unnamed (g.constItem vis)
  else if ← sees fun ts => ts.onWord "mod" || ts.onWord "unsafe" && ts.next.onWord "mod" then
    return some (← g.moduleItem attributes vis)
  else if ← sees (Tokens.onWord "type") then named (g.aliasItem vis)
  else if ← sees (Tokens.onWord "struct") then named (some <$> g.structItem vis)
  else if ← sees (Tokens.onWord "enum") then named (some <$> g.enumItem vis)
  else if ← sees fun ts => ts.onWord "union" && ts.next.onIdent then
    named (some <$> g.unionItem vis)
  else if ← sees fun ts => ts.onWord "trait" || ts.onWord "auto" && ts.next.onWord "trait"
      || ts.onWord "unsafe"
        && (ts.next.onWord "trait" || ts.next.onWord "auto" && ts.next.next.onWord "trait") then
    return some (← g.traitItem attributes vis)
  else if ← sees fun ts => ts.onWord "impl" || ts.onWord "default" && !ts.next.onOp "!"
      || ts.onWord "unsafe" && ts.next.onWord "impl" then
    return (← g.implItem vis).map fun tokens => .implementation (withOuter attributes tokens)
  else if ← sees (Tokens.onWord "macro") then
    macroDefinition
    return none
  else
    ensure (vis.isEmpty && (← sees onMacro))
    unnamed (some <$> macroItem true)

/-- An item; the rule of the grammar. -/
def itemRule : Parser Item := orAsWritten .other do g.itemRest (← g.outerAttributes)

/-! ## Statements -/

/-- Whether a macro with a name of its own comes next, which is an item. -/
def onNamedMacro (ts : Tokens) : Bool :=
  match plainPath ts with
  | some (_, rest) => rest.onOp "!" && (rest.next.onIdent || rest.next.onWord "try")
  | none => false

/-- Whether a macro call in braces comes next that is a whole statement. -/
def onStatementMacro (ts : Tokens) : Bool :=
  match plainPath ts with
  | some (_, rest) => rest.onOp "!" && rest.next.onGroup .brace
      && !(rest.next.next.onDot || rest.next.next.onOp "?")
  | none => false

/-- Whether an item comes next, and not an expression. -/
def onItem (ts : Tokens) : Bool :=
  ts.onOneOf ["pub", "extern", "use", "fn", "mod", "type", "struct", "enum", "trait", "impl",
      "macro"]
    || ts.onWord "crate" && !ts.next.onOp "::"
    || ts.onWord "static" && (ts.next.onWord "mut" || ts.next.onIdent)
    || ts.onWord "const" && !(ts.next.onGroup .brace || ts.next.onOneOf ["static", "move"]
      || ts.next.onWord "async" && !ts.next.next.onOneOf ["unsafe", "extern", "fn"]
      || ts.next.onOp "|")
    || ts.onWord "unsafe" && !ts.next.onGroup .brace
    || ts.onWord "async" && ts.next.onOneOf ["unsafe", "extern", "fn"]
    || ts.onWord "union" && ts.next.onIdent
    || ts.onWord "auto" && ts.next.onWord "trait"
    || ts.onWord "default" && ts.next.onOneOf ["unsafe", "impl"]
    || onNamedMacro ts

def endsInBrace (tokens : Tokens) : Bool := tokens.getLast? matches some (.group .brace _)

/-- `let`. -/
def letStatement : Parser Tokens := do
  let letWord ← keyword "let"
  let pattern ← g.pattern
  let colon ← signIf ":"
  let ty ← if colon.isEmpty then pure [] else Ty.tokens <$> g.type true
  let eq ← signIf "="
  let value ← if eq.isEmpty then pure [] else g.expressionTokens
  let otherwise ← if ← sees fun ts => !eq.isEmpty && !endsInBrace value && ts.onWord "else" then do
      let elseWord ← keyword "else"
      pure (elseWord ++ (← g.bareBlock))
    else pure []
  return letWord ++ pattern.tokens ++ colon ++ ty ++ eq ++ value ++ otherwise ++ (← sign ";")

/-- A statement. The answer tells whether a semicolon has to follow where another statement does. -/
def statement : Parser (Tokens × Bool) := do
  let start ← get
  let attributes ← g.outerAttributes
  let outer := Attribute.outerTokens attributes
  if ← sees onStatementMacro then
    let path ← plainPath
    let bang ← sign "!"
    let (d, body) ← anyGroup
    return (outer ++ path.tokens ++ bang ++ [.group d body] ++ (← signIf ";"), false)
  else if ← sees (Tokens.onWord "let") then return (outer ++ (← g.letStatement), false)
  else if ← sees onItem then
    match ← g.itemRest attributes with
    | some item => return (item.tokens, false)
    | none => return (start.upTo (← get), false)
  else
    let e ← g.statementExpression
    let written := start.upTo (← get)
    let tokens := if e.form = .asWritten then written else withAttributes outer e
    let semi ← signIf ";"
    let isOpen := semi.isEmpty && !(e.form matches .blockLike | .macroCall true)
    return (tokens ++ semi, isOpen)

/-- Statements up to the end of a block; the rule of the grammar. -/
def statementsRule : Parser Tokens := iterate (fun (done : Tokens) => do
  if ← atEnd then return (done, false)
  if ← sees (Tokens.onOp ";") then return (done ++ (← sign ";"), true)
  let (tokens, needsSemi) ← g.statement
  if ← atEnd then return (done ++ tokens, false)
  ensure !needsSemi
  return (done ++ tokens, true)) []

/-! ## Levels -/

/-- The grammar whose rules nest what `g` reads. -/
def step : Grammar where
  type := g.typeRule
  bound := g.boundRule
  expression := g.expressionRule
  rightSide := g.rightSideRule
  statementExpression := g.statementExpressionRule
  pattern := g.patternRule
  statements := g.statementsRule
  useTree := g.useTreeRule
  namedFields := g.namedFieldsRule
  item := g.itemRule

/-- The grammar of syntax that nests at most `depth` times. -/
def level : Nat → Grammar
  | 0 => .empty
  | depth + 1 => (level depth).step

/-- The grammar that is deep enough for some tokens: no rule nests twice in front of one token
without another form around it. -/
def forTokens (ts : Tokens) : Grammar := level (4 * Tokens.size ts + 8)

end Grammar

end GraphRepo.Source
