import GraphRepo.Source.Token

/-!
# Parsing tokens

A parser takes tokens from the front of a sequence or fails; after a failed alternative the next one
starts where it did. A loop ends because every round takes a token: the number of rounds is bounded
by the number of tokens left.
-/

namespace GraphRepo.Source

/-! ## Looking ahead -/

/-- Whether the tokens start with an operator: its characters, joined up to the last one, whatever
that is joined to. -/
def startsWith : List Char → Tokens → Bool
  | [c], .punct d _ :: _ => c = d
  | c :: e :: more, .punct d spacing :: rest =>
    c = d && spacing = .joint && startsWith (e :: more) rest
  | _, _ => false

def reservedWords : List String :=
  ["_", "abstract", "as", "async", "await", "become", "box", "break", "const", "continue", "crate",
    "do", "dyn", "else", "enum", "extern", "false", "final", "fn", "for", "if", "impl", "in", "let",
    "loop", "macro", "match", "mod", "move", "mut", "override", "priv", "pub", "ref", "return",
    "Self", "self", "static", "struct", "super", "trait", "true", "try", "type", "typeof", "unsafe",
    "unsized", "use", "virtual", "where", "while", "yield"]

def isIdentifier (name : String) : Bool := !reservedWords.contains name

namespace Tokens

def onOp (text : String) (ts : Tokens) : Bool := startsWith text.toList ts

def onAnyOp (texts : List String) (ts : Tokens) : Bool := texts.any (onOp · ts)

def onWord (name : String) : Tokens → Bool
  | .ident n :: _ => n == name
  | _ => false

def onOneOf (names : List String) (ts : Tokens) : Bool := names.any (onWord · ts)

def onAnyWord : Tokens → Bool
  | .ident _ :: _ => true
  | _ => false

def onIdent : Tokens → Bool
  | .ident n :: _ => isIdentifier n
  | _ => false

def onLifetime : Tokens → Bool
  | .punct c .joint :: .ident _ :: _ => c = '\x27'
  | _ => false

def onGroup (d : Delimiter) : Tokens → Bool
  | .group e _ :: _ => d = e
  | _ => false

def onAnyGroup : Tokens → Bool
  | .group _ _ :: _ => true
  | _ => false

def isNumber (text : String) : Bool :=
  match text.toList with
  | c :: _ => c.isDigit
  | [] => false

/-- Whether a literal comes next: a literal token, a truth value or a negative number. -/
def onLiteral : Tokens → Bool
  | .literal _ :: _ => true
  | .ident n :: _ => n == "true" || n == "false"
  | .punct c _ :: .literal text :: _ => c = '-' && isNumber text
  | _ => false

/-- The tokens behind the first token tree; a lifetime counts as one. -/
def next : Tokens → Tokens
  | .punct c .joint :: .ident n :: rest => if c = '\x27' then rest else .ident n :: rest
  | _ :: rest => rest
  | [] => []

def upTo (before after : Tokens) : Tokens := before.take (before.length - after.length)

end Tokens

abbrev Parser := StateT Tokens Option

namespace Parser

variable {α β σ : Type}

def sees (test : Tokens → Bool) : Parser Bool := return test (← get)

def ensure (condition : Bool) : Parser Unit := if condition then pure () else failure

def atEnd : Parser Bool := sees List.isEmpty

def sign (text : String) : Parser Tokens := fun ts =>
  if ts.onOp text then some (op text, ts.drop text.length) else none

def signIf (text : String) : Parser Tokens := do
  if ← sees (Tokens.onOp text) then sign text else pure []

def keyword (name : String) : Parser Tokens := fun ts =>
  if ts.onWord name then some (word name, ts.drop 1) else none

def keywordIf (name : String) : Parser Tokens := do
  if ← sees (Tokens.onWord name) then keyword name else pure []

/-- Whether a given word comes next, which is then taken. -/
def takes (name : String) : Parser Bool := do
  if ← sees (Tokens.onWord name) then
    let _ ← keyword name
    return true
  else return false

def anyWord : Parser String
  | .ident name :: rest => some (name, rest)
  | _ => none

def ident : Parser String
  | .ident name :: rest => if isIdentifier name then some (name, rest) else none
  | _ => none

def lifetime : Parser String
  | .punct c .joint :: .ident name :: rest => if c = '\x27' then some (name, rest) else none
  | _ => none

def lifetimeIf : Parser (Option String) := do
  if ← sees Tokens.onLifetime then return some (← lifetime) else return none

def literal : Parser Tokens
  | .literal text :: rest => some ([.literal text], rest)
  | .ident n :: rest => if n == "true" || n == "false" then some ([.ident n], rest) else none
  | .punct c _ :: .literal text :: rest =>
    if c = '-' && Tokens.isNumber text then some (op "-" ++ [.literal text], rest) else none
  | _ => none

/-- Whether a literal is a string: plain or raw, with a suffix or not. -/
def isStringLiteral (text : String) : Bool :=
  match text.toList with
  | '\x22' :: _ => true
  | 'r' :: _ => true
  | _ => false

def quotedLiteral : Parser Tokens
  | .literal text :: rest => if isStringLiteral text then some ([.literal text], rest) else none
  | _ => none

def whole (p : Parser α) : Parser α := do
  let a ← p
  ensure (← atEnd)
  return a

/-- A group in the given brackets, whose body the parser takes as a whole. -/
def group (d : Delimiter) (p : Parser α) : Parser α
  | .group e body :: rest =>
    if d = e then (whole p body).map fun (a, _) => (a, rest) else none
  | _ => none

def anyGroup : Parser (Delimiter × Tokens)
  | .group d body :: rest => some ((d, body), rest)
  | _ => none

/-- The tokens a parser takes, as they were. -/
def asWritten (p : Parser α) : Parser Tokens := fun ts =>
  (p ts).map fun (_, rest) => (ts.upTo rest, rest)

/-- What a parser answers, or what is made of the tokens it takes, as they were, where it answers
nothing. -/
def orAsWritten (kept : Tokens → α) (p : Parser (Option α)) : Parser α := fun ts =>
  (p ts).map fun (a, rest) => (a.getD (kept (ts.upTo rest)), rest)

/-! ## Loops -/

/-- Repeats a step at most `rounds` times, as long as it answers `true`. -/
def iterateWithin (step : σ → Parser (σ × Bool)) : Nat → σ → Parser σ
  | 0, _ => failure
  | rounds + 1, s => do
    let (s, more) ← step s
    if more then iterateWithin step rounds s else pure s

/-- Repeats a step as long as it answers `true`. Every such round has to take a token. -/
def iterate (step : σ → Parser (σ × Bool)) (s : σ) : Parser σ := do
  iterateWithin step ((← get).length + 1) s

/-- Values up to where a test holds. -/
def manyUntil (stop : Tokens → Bool) (p : Parser α) : Parser (List α) := do
  let backwards ← iterate (fun (found : List α) => do
    if ← sees stop then return (found, false)
    return ((← p) :: found, true)) []
  return backwards.reverse

/-- Values with a separator behind each, up to where a test holds; the answer tells whether a
separator stands behind the last. -/
def separatedUntil (stop : Tokens → Bool) (separator : String) (p : Parser α) :
    Parser (List α × Bool) := do
  let (backwards, trailing) ← iterate (fun ((found, trailing) : List α × Bool) => do
    if ← sees stop then return ((found, trailing), false)
    let a ← p
    if ← sees stop then return ((a :: found, false), false)
    let _ ← sign separator
    return ((a :: found, true), true)) ([], false)
  return (backwards.reverse, trailing)

/-- Values with a separator behind each, as long as separators follow; none where a test holds. -/
def separatedWhile (stop : Tokens → Bool) (separator : String) (p : Parser α) :
    Parser (List α × Bool) := do
  let (backwards, trailing) ← iterate (fun ((found, trailing) : List α × Bool) => do
    if ← sees stop then return ((found, trailing), false)
    let a ← p
    if !(← sees (Tokens.onOp separator)) then return ((a :: found, false), false)
    let _ ← sign separator
    return ((a :: found, true), true)) ([], false)
  return (backwards.reverse, trailing)

def listTokens (separator : String) (p : Parser (List Tokens × Bool)) : Parser Tokens := do
  let (items, trailing) ← p
  return separated separator trailing items

/-- Comma-separated values up to the end. -/
def commas (p : Parser α) : Parser (List α × Bool) := separatedUntil List.isEmpty "," p

def parseAll (p : Parser α) (ts : Tokens) : Option α := (whole p ts).map (·.1)

end Parser

end GraphRepo.Source
