import GraphRepo.Source.Grammar.Pattern

/-!
# Expressions in source

An expression is its tokens and its form. Operators are read by their precedence: what stands on
the right of one takes the operators that bind more tightly.
-/

namespace GraphRepo.Source

open GraphRepo.Source.Parser

/-- The operators between two operands and the precedence of each. One stands before those it
starts with. -/
def binaryOperators : List (String × Precedence) :=
  [("+=", .assign), ("-=", .assign), ("*=", .assign), ("/=", .assign), ("%=", .assign),
    ("^=", .assign), ("&=", .assign), ("|=", .assign), ("<<=", .assign), (">>=", .assign),
    ("&&", .and), ("||", .or), ("<<", .shift), (">>", .shift), ("==", .compare), ("<=", .compare),
    ("!=", .compare), (">=", .compare), ("+", .sum), ("-", .sum), ("*", .product), ("/", .product),
    ("%", .product), ("^", .bitXor), ("&", .bitAnd), ("|", .bitOr), ("<", .compare),
    (">", .compare)]

namespace Tokens

def operator? (ts : Tokens) : Option (String × Precedence) := binaryOperators.find? (ts.onOp ·.1)

def onAssign (ts : Tokens) : Bool := ts.onOp "=" && !ts.onOp "=>"

def precedence (ts : Tokens) : Precedence :=
  match ts.operator? with
  | some (_, p) => p
  | none =>
    if ts.onAssign then .assign else if ts.onOp ".." then .range
    else if ts.onWord "as" then .cast else .lowest

def onExpression (ts : Tokens) : Bool :=
  ts.onAnyWord && !ts.onWord "as" || ts.onAnyGroup || ts.onLiteral || ts.onBang
    || ts.onOp "-" && !ts.onOp "-=" && !ts.onOp "->"
    || ts.onOp "*" && !ts.onOp "*="
    || ts.onOp "|" && !ts.onOp "|="
    || ts.onOp "&" && !ts.onOp "&="
    || ts.onOp ".."
    || ts.onOp "<" && !ts.onOp "<=" && !ts.onOp "<<="
    || ts.onOp "::" || ts.onLifetime || ts.onOp "#"

def onDot (ts : Tokens) : Bool := ts.onOp "." && !ts.onOp ".."

/-- Whether `for<…>` starts a closure here, and not a loop over a path's values. -/
def onBinder (ts : Tokens) : Bool := ts.next.onParameters

/-- Whether a range whose sign is `..` ends here: nothing follows, or what can follow an operand but
starts none. -/
def onRangeEnd (allowStruct : Bool) (ts : Tokens) : Bool :=
  ts.isEmpty || ts.onDot || !allowStruct && ts.onGroup .brace || ts.onWord "as"
    || ts.onAnyOp [",", ";", "?", "=", "+", "/", "%", "^", ">", "<=", "!=", "-=", "*=", "&=", "|=",
      "<<="]

end Tokens

/-- The text before each `.` of a number and the text behind the last. -/
def numberParts (text : String) : List String := text.splitOn "."

namespace Grammar

variable (g : Grammar)

/-- An expression before a body: a `{` belongs to the body. -/
def headExpression : Parser Tokens := return (← g.expression false .lowest).tokens

def expressionTokens : Parser Tokens := return (← g.anyExpression).tokens

/-- Expressions with commas between them up to the end. -/
def expressionList : Parser Tokens := listTokens "," (commas g.expressionTokens)

/-- The end of a range whose sign is `..` or `..=`. -/
def rangeEnd (allowStruct : Bool) (limits : Tokens) : Parser Tokens := do
  if ← sees fun ts => !Tokens.onOp "..=" limits && ts.onRangeEnd allowStruct then return []
  return (← g.rightSide allowStruct .range).tokens

def limits : Parser Tokens := do
  ensure !(← sees fun ts => ts.onOp "..." && !ts.onOp "..=")
  if ← sees (Tokens.onOp "..=") then sign "..=" else sign ".."

/-! ## Forms with a body -/

/-- `if`, with every `else` behind it. -/
def ifExpression : Parser Tokens := iterate (fun (done : Tokens) => do
  let ifWord ← keyword "if"
  let condition ← g.headExpression
  let done := done ++ ifWord ++ condition ++ (← g.bareBlock)
  if ← sees (Tokens.onWord "else") then
    let elseWord ← keyword "else"
    if ← sees (Tokens.onWord "if") then return (done ++ elseWord, true)
    return (done ++ elseWord ++ (← g.bareBlock), false)
  return (done, false)) []

/-- An arm of `match`. -/
def arm : Parser Tokens := do
  let attributes ← g.outerTokens
  let pattern ← g.alternativesTokens
  let ifWord ← keywordIf "if"
  let condition ← if ifWord.isEmpty then pure [] else g.expressionTokens
  let arrow ← sign "=>"
  let body ← g.statementExpression
  let comma ← if body.form = .blockLike || (← atEnd) then signIf "," else sign ","
  return attributes ++ pattern ++ ifWord ++ condition ++ arrow ++ body.tokens ++ comma

/-- `match`. -/
def matchExpression : Parser Tokens := do
  let matchWord ← keyword "match"
  let scrutinee ← g.headExpression
  let body ← group .brace do
    let attributes ← g.innerAttributes
    let arms ← manyUntil List.isEmpty g.arm
    return Attribute.innerTokens attributes ++ arms.flatten
  return matchWord ++ scrutinee ++ braces body

def blockTokens : Parser Tokens := return braces (← g.block)

def loopExpression : Parser Tokens := do
  if ← sees (Tokens.onWord "while") then
    let whileWord ← keyword "while"
    let condition ← g.headExpression
    return whileWord ++ condition ++ (← g.blockTokens)
  else if ← sees (Tokens.onWord "for") then
    let forWord ← keyword "for"
    let pattern ← g.alternativesTokens
    let inWord ← keyword "in"
    let values ← g.headExpression
    return forWord ++ pattern ++ inWord ++ values ++ (← g.blockTokens)
  else
    return (← keyword "loop") ++ (← g.blockTokens)

def labelled : Parser Tokens := do
  let label ← lifetime
  let colon ← sign ":"
  let body ← if ← sees (Tokens.onGroup .brace) then g.blockTokens else g.loopExpression
  return lifetimeTokens label ++ colon ++ body

def blockForm : Parser (Option Tokens) := do
  if ← sees (Tokens.onWord "if") then return some (← g.ifExpression)
  else if ← sees fun ts => ts.onOneOf ["while", "loop"] || ts.onWord "for" && !ts.onBinder then
    return some (← g.loopExpression)
  else if ← sees (Tokens.onWord "match") then return some (← g.matchExpression)
  else if ← sees fun ts => ts.onWord "try" && ts.next.onGroup .brace then
    return some ((← keyword "try") ++ (← g.bareBlock))
  else if ← sees (Tokens.onWord "unsafe") then
    return some ((← keyword "unsafe") ++ (← g.blockTokens))
  else if ← sees fun ts => ts.onWord "const" && ts.next.onGroup .brace then
    return some ((← keyword "const") ++ (← g.blockTokens))
  else if ← sees (Tokens.onGroup .brace) then return some (← g.blockTokens)
  else if ← sees Tokens.onLifetime then return some (← g.labelled)
  else return none

/-! ## Atoms -/

def fieldValue : Parser Tokens := do
  let attributes ← g.outerTokens
  let (named, name) ← member
  if ← sees fun ts => ts.onOp ":" || !named then
    let colon ← sign ":"
    return attributes ++ name ++ colon ++ (← g.expressionTokens)
  return attributes ++ name

/-- The fields of a struct literal, with `..` and a base at the end if they are there. -/
def fieldValues : Parser Tokens := iterate (fun (done : Tokens) => do
  if ← atEnd then return (done, false)
  if ← sees (Tokens.onOp "..") then
    let dots ← sign ".."
    let base ← if ← atEnd then pure [] else g.expressionTokens
    return (done ++ dots ++ base, false)
  let field ← g.fieldValue
  if ← atEnd then return (done ++ field, false)
  return (done ++ field ++ (← sign ","), true)) []

/-- An expression that starts with a path: the path, a macro call or a struct literal. -/
def pathExpression (allowStruct : Bool) : Parser Expression := do
  let p ← g.qualifiedPath true
  let tokens := pathTokens p
  if ← sees fun ts => ts.onBang && isMacroPath p then
    let bang ← sign "!"
    let (d, body) ← anyGroup
    return ⟨.macroCall (d = .brace), tokens ++ bang ++ [.group d body]⟩
  else if ← sees fun ts => allowStruct && ts.onGroup .brace then
    return ⟨.other, tokens ++ braces (← group .brace g.fieldValues)⟩
  else return ⟨.other, tokens⟩

/-- An input of a closure. Attributes without a type behind the pattern belong to the pattern: a
range needs parentheses then, a constant block has no others, and what is kept as written has
none. -/
def closureInput : Parser Tokens := do
  let attributes ← g.outerTokens
  let pattern ← g.pattern
  let colon ← signIf ":"
  if !colon.isEmpty then return attributes ++ pattern.tokens ++ colon ++ (← g.type true).tokens
  match pattern with
  | .range _ tokens => return attributes ++ if attributes.isEmpty then tokens else parens tokens
  | .constant _ statements => return attributes ++ word "const" ++ braces statements
  | .asWritten tokens => return tokens
  | pattern => return attributes ++ pattern.tokens

def closure (allowStruct : Bool) : Parser Tokens := do
  let binder ← g.binder
  let const ← keywordIf "const"
  let static ← keywordIf "static"
  let async ← keywordIf "async"
  let move ← keywordIf "move"
  let opening ← sign "|"
  let inputs ← listTokens "," (separatedUntil (Tokens.onOp "|") "," g.closureInput)
  let close ← sign "|"
  let head := binder ++ const ++ static ++ async ++ move ++ opening ++ inputs ++ close
  if ← sees (Tokens.onOp "->") then
    let arrow ← sign "->"
    let ty ← g.type true
    return head ++ arrow ++ ty.tokens ++ (← g.bareBlock)
  return head ++ (← g.expression allowStruct .lowest).tokens

def arrayBody : Parser Tokens := do
  if ← atEnd then return []
  let first ← g.expressionTokens
  if ← sees (Tokens.onOp ";") then
    let semi ← sign ";"
    return first ++ semi ++ (← g.expressionTokens)
  if ← atEnd then return first
  let comma ← sign ","
  return first ++ comma ++ (← g.expressionList)

/-- `break`, with a label and a value if they are there. -/
def breakExpression (allowStruct : Bool) : Parser Tokens := do
  let breakWord ← keyword "break"
  let label ← lifetimeIf
  ensure (label.isNone || !(← sees (Tokens.onOp ":")))
  let value ← if ← sees fun ts => ts.onExpression && (allowStruct || !ts.onGroup .brace) then
    g.expressionTokens else pure []
  return breakWord ++ (label.map lifetimeTokens).getD [] ++ value

def withValue (name : String) : Parser Tokens := do
  let first ← keyword name
  let value ← if ← sees Tokens.onExpression then g.expressionTokens else pure []
  return first ++ value

def onClosure (ts : Tokens) : Bool :=
  ts.onOp "|" || ts.onOneOf ["move", "static"] || ts.onWord "for" && ts.onBinder
    || ts.onWord "const" && !ts.next.onGroup .brace
    || ts.onWord "async" && (ts.next.onOp "|" || ts.next.onWord "move")

def onAsyncBlock (ts : Tokens) : Bool :=
  ts.onWord "async"
    && (ts.next.onGroup .brace || ts.next.onWord "move" && ts.next.next.onGroup .brace)

/-- An expression without operators and without anything behind it. -/
def atom (allowStruct : Bool) : Parser Expression := do
  let other (p : Parser Tokens) : Parser Expression := return ⟨.other, ← p⟩
  if ← sees Tokens.onLiteral then other literal
  else if ← sees onAsyncBlock then other do
    let async ← keyword "async"
    let move ← keywordIf "move"
    return async ++ move ++ (← g.bareBlock)
  else if ← sees onClosure then other (g.closure allowStruct)
  else if ← sees Tokens.onBuiltin then return ⟨.asWritten, ← asWritten builtinForm⟩
  else if ← sees fun ts => ts.onPathWord || ts.onOp "::" || ts.onOp "<"
      || ts.onWord "try" && (ts.next.onOp "!" || ts.next.onOp "::") then
    g.pathExpression allowStruct
  else if ← sees (Tokens.onGroup .paren) then other do
    return parens (← group .paren g.expressionList)
  else if ← sees (Tokens.onWord "break") then other (g.breakExpression allowStruct)
  else if ← sees (Tokens.onWord "continue") then other do
    let continueWord ← keyword "continue"
    return continueWord ++ ((← lifetimeIf).map lifetimeTokens).getD []
  else if ← sees (Tokens.onWord "return") then other (g.withValue "return")
  else if ← sees (Tokens.onWord "become") then return ⟨.asWritten, ← asWritten do
    let _ ← keyword "become"
    g.anyExpression⟩
  else if ← sees (Tokens.onGroup .bracket) then other do
    return brackets (← group .bracket g.arrayBody)
  else if ← sees (Tokens.onWord "let") then other do
    let letWord ← keyword "let"
    let pattern ← g.alternativesTokens
    let eq ← sign "="
    return letWord ++ pattern ++ eq ++ (← g.expression allowStruct .compare).tokens
  else if ← sees (Tokens.onWord "yield") then other (g.withValue "yield")
  else if ← sees (Tokens.onOp "..") then
    let sign ← limits
    return ⟨.range, sign ++ (← g.rangeEnd allowStruct sign)⟩
  else if ← sees (Tokens.onWord "_") then other (keyword "_")
  else match ← g.blockForm with
    | some tokens => return ⟨.blockLike, tokens⟩
    | none => failure

/-! ## What follows an atom -/

/-- The number behind a dot if it is written as one with a fraction: `0.1` names a field of a field.
Answers the tokens and whether the number ended in a dot. -/
def nestedIndex : Parser (Option (Tokens × Bool)) := do
  match ← get with
  | .literal text :: rest =>
    if Tokens.isNumber text && text.contains '.' then
      let parts := numberParts text
      let pointed := parts.getLast? == some ""
      let parts := if pointed then parts.dropLast else parts
      match parts.mapM fieldNumber? with
      | some numbers =>
        set rest
        return some (separated "." pointed (numbers.map fun n => [fieldNumberToken n]), pointed)
      | none => failure
    else return none
  | _ => return none

def callArguments : Parser Tokens := return parens (← group .paren g.expressionList)

def memberAccess : Parser Tokens := do
  if ← sees (Tokens.onWord "await") then keyword "await"
  else
    let (named, name) ← member
    if ← sees fun ts => named && ts.onOp "::" then
      let colons ← sign "::"
      let opening ← sign "<"
      let (args, trailing) ← separatedUntil (Tokens.onOp ">") "," g.argument
      let close ← sign ">"
      return name ++ colons ++ opening ++ genericEntries (Argument.entriesOf args) trailing ++ close
        ++ (← g.callArguments)
    return name

/-- Calls, members, indices and `?` behind an expression. -/
def trailers (e : Expression) : Parser Expression := iterate (fun (e : Expression) => do
  if ← sees (Tokens.onGroup .paren) then
    return (⟨.other, e.tokens ++ (← g.callArguments)⟩, true)
  else if ← sees fun ts => ts.onDot && e.form != .range then
    let dot ← sign "."
    match ← nestedIndex with
    | some (index, false) => return (⟨.other, e.tokens ++ dot ++ index⟩, true)
    | some (index, true) => return (⟨.other, e.tokens ++ dot ++ index ++ (← g.memberAccess)⟩, true)
    | none => return (⟨.other, e.tokens ++ dot ++ (← g.memberAccess)⟩, true)
  else if ← sees (Tokens.onGroup .bracket) then
    let index ← group .bracket g.expressionTokens
    return (⟨.other, e.tokens ++ brackets index⟩, true)
  else if ← sees fun ts => ts.onOp "?" && e.form != .range then
    return (⟨.other, e.tokens ++ (← sign "?")⟩, true)
  else return (e, false)) e

/-! ## Operators -/

/-- A sign before an operand; nothing where none is written. -/
def operandSign : Parser Tokens := do
  if ← sees (Tokens.onOp "&") then
    let and ← sign "&"
    if ← sees fun ts => ts.onWord "raw" && ts.next.onOneOf ["mut", "const"] then
      let raw ← keyword "raw"
      return and ++ raw ++ word (← anyWord)
    return and ++ (← keywordIf "mut")
  else if ← sees (Tokens.onOp "*") then sign "*"
  else if ← sees (Tokens.onOp "!") then sign "!"
  else signIf "-"

/-- An atom and what follows it, with the attributes that were read at `start`. None may stand in
front of a range. -/
def attributedAtom (allowStruct : Bool) (start attributes : Tokens) : Parser Expression := do
  let e ← g.trailers (← g.atom allowStruct)
  ensure (attributes.isEmpty || e.form != .range)
  if e.form = .asWritten then return ⟨e.form, start.upTo (← get)⟩
  return ⟨e.form, attributes ++ e.tokens⟩

/-- An operand: signs, each with attributes in front, an atom and what follows it. -/
def operand (allowStruct : Bool) : Parser Expression := do
  let (signs, start, attributes) ← iterate (fun ((done, _, _) : Tokens × Tokens × Tokens) => do
    let start ← get
    let attributes ← g.outerTokens
    let s ← operandSign
    if s.isEmpty then return ((done, start, attributes), false)
    return ((done ++ attributes ++ s, [], []), true)) ([], [], [])
  let e ← g.attributedAtom allowStruct start attributes
  return ⟨if signs.isEmpty then e.form else .other, signs ++ e.tokens⟩

mutual

/-- The operators behind `lhs` that bind at least as tightly as `base`, in at most `rounds`
steps. -/
def operators (allowStruct : Bool) : Nat → Precedence → Expression → Parser Expression
  | 0, _, _ => failure
  | rounds + 1, base, lhs => do
    if lhs.form = .range then return lhs
    match (← get).operator? with
    | some (text, p) =>
      if p.rank < base.rank then return lhs
      ensure !(p = .compare && lhs.form = .comparison)
      let s ← sign text
      let rhs ← rightWithin allowStruct rounds p (← g.operand allowStruct)
      operators allowStruct rounds base
        ⟨if p = .compare then .comparison else .other, lhs.tokens ++ s ++ rhs.tokens⟩
    | none =>
      if ← sees fun ts => base.rank ≤ Precedence.assign.rank && ts.onAssign then
        let s ← sign "="
        let rhs ← rightWithin allowStruct rounds .assign (← g.operand allowStruct)
        operators allowStruct rounds base ⟨.other, lhs.tokens ++ s ++ rhs.tokens⟩
      else if ← sees fun ts => base.rank ≤ Precedence.range.rank && ts.onOp ".." then
        let s ← limits
        return ⟨.range, lhs.tokens ++ s ++ (← g.rangeEnd allowStruct s)⟩
      else if ← sees fun ts => ts.onWord "as" then
        let s ← keyword "as"
        let ty ← g.type false
        ensure !(← sees fun ts => ts.onDot || ts.onOp "?" || ts.onGroup .bracket
          || ts.onGroup .paren)
        operators allowStruct rounds base ⟨.other, lhs.tokens ++ s ++ ty.tokens⟩
      else return lhs

/-- The operators behind `rhs` that bind more tightly than the one of precedence `p` before it. -/
def rightWithin (allowStruct : Bool) : Nat → Precedence → Expression → Parser Expression
  | 0, _, _ => failure
  | rounds + 1, p, rhs => do
    let next := (← get).precedence
    if p.rank < next.rank || next = p && p = .assign then
      let before := (← get).length
      let rhs ← operators allowStruct rounds next rhs
      if (← get).length = before then return rhs
      rightWithin allowStruct rounds p rhs
    else return rhs

end

def operatorsFrom (allowStruct : Bool) (base : Precedence) (lhs : Expression) :
    Parser Expression := do
  g.operators allowStruct (2 * (← get).length + 2) base lhs

/-- An expression; the rule of the grammar. -/
def expressionRule (allowStruct : Bool) (base : Precedence) : Parser Expression := do
  g.operatorsFrom allowStruct base (← g.operand allowStruct)

/-- What stands on the right of an operator; the rule of the grammar. -/
def rightSideRule (allowStruct : Bool) (p : Precedence) : Parser Expression := do
  let first ← g.operand allowStruct
  g.rightWithin allowStruct (2 * (← get).length + 2) p first

/-- The tokens of an expression with attributes in front of it: a range is in parentheses then, and
what is kept as written has none. -/
def withAttributes (attributes : Tokens) (e : Expression) : Tokens :=
  if attributes.isEmpty then e.tokens
  else match e.form with
    | .range => attributes ++ parens e.tokens
    | .asWritten => e.tokens
    | _ => attributes ++ e.tokens

/-- An expression as a statement; the rule of the grammar. -/
def statementExpressionRule : Parser Expression := do
  let attributes ← g.outerTokens
  match ← g.blockForm with
  | some tokens =>
    let e : Expression := ⟨.blockLike, attributes ++ tokens⟩
    if ← sees fun ts => ts.onDot || ts.onOp "?" then
      g.operatorsFrom true .lowest (← g.trailers e)
    else return e
  | none =>
    let first ← g.operand true
    g.operatorsFrom true .lowest ⟨first.form, withAttributes attributes first⟩

end Grammar

end GraphRepo.Source
