import GraphRepo.Source.Token

/-!
# Types and paths

The syntax of types as far as a repository looks into it: parentheses, groups, references, paths
with their arguments, and tuples. Every other form of type is kept as its tokens. Each form has its
tokens, in the order in which it is written.
-/

namespace GraphRepo.Source

mutual

/-- A type. -/
inductive Ty
  /-- A type in parentheses. -/
  | paren (inner : Ty)
  /-- A type that is kept together without brackets, as the expansion of a macro keeps a type that
  was handed to it. No text is read as one, and in a text only its contents are seen. -/
  | group (inner : Ty)
  /-- `&'a mut T`. -/
  | reference (lifetime : Option String) (exclusive : Bool) (target : Ty)
  | path (p : Path)
  | tuple (elems : List Ty) (trailing : Bool)
  /-- A trait object without `dyn` that has one bound: a path, what stands before it, and whether it
  is in parentheses. -/
  | bare (parenthesized : Bool) (modifiers : Tokens) (p : Path)
  /-- Any other form: a slice, a function, a trait object, a macro call and so on. -/
  | other (tokens : Tokens)

/-- Segments with `::` between them, and before them if `leading`. -/
inductive Path
  | segments (leading : Bool) (qualifier : List Segment) (last : Segment)

/-- A segment of a path. -/
inductive Segment
  | plain (name : String)
  /-- `Name<A, B>`, or `Name::<A, B>` when `turbofish`. -/
  | angled (name : String) (turbofish : Bool) (args : List Argument) (trailing : Bool)
  /-- `Name(A) -> B`; `tokens` is what follows the name. -/
  | called (name : String) (tokens : Tokens)

/-- An argument between angle brackets. -/
inductive Argument
  | lifetime (name : String)
  | type (ty : Ty)
  /-- A constant, a named argument or a bound on one. -/
  | other (tokens : Tokens)

end

/-- The list of a declaration's or a path's generic entries. Those that are lifetimes, marked
`true`, come before the others. Every entry keeps the comma behind it; one is put in where the last
lifetime had none and another entry follows. -/
def genericEntries (entries : List (Bool × Tokens)) (trailing : Bool) : Tokens :=
  let withComma := entries.zipIdx.map fun (e, i) =>
    (e.1, e.2, trailing || decide (i + 1 < entries.length))
  let lifetimes := withComma.filter (·.1)
  let others := withComma.filter (!·.1)
  let write (e : Bool × Tokens × Bool) : Tokens := e.2.1 ++ if e.2.2 then op "," else []
  lifetimes.flatMap write
    ++ (if !others.isEmpty && (lifetimes.getLast?.any (!·.2.2)) then op "," else [])
    ++ others.flatMap write

/-- The tokens of a list of segments, with `::` behind each. -/
def qualifierTokens : List Tokens → Tokens
  | [] => []
  | segment :: rest => segment ++ op "::" ++ qualifierTokens rest

/-- `::` before a path that starts with it. -/
def leadingTokens (leading : Bool) : Tokens := if leading then op "::" else []

/-- `&'a mut`. -/
def referenceTokens (lifetime : Option String) (exclusive : Bool) : Tokens :=
  op "&" ++ (lifetime.map lifetimeTokens).getD [] ++ wordIf exclusive "mut"

mutual

def Ty.tokens : Ty → Tokens
  | .paren inner => parens inner.tokens
  | .group inner => inner.tokens
  | .reference lifetime exclusive target => referenceTokens lifetime exclusive ++ target.tokens
  | .path p => p.tokens
  | .tuple elems trailing => parens (commaSeparated trailing (Ty.tokensOfEach elems))
  | .bare true modifiers p => parens (modifiers ++ p.tokens)
  | .bare false modifiers p => modifiers ++ p.tokens
  | .other tokens => tokens

def Ty.tokensOfEach : List Ty → List Tokens
  | [] => []
  | t :: rest => t.tokens :: Ty.tokensOfEach rest

def Path.tokens : Path → Tokens
  | .segments leading qualifier last =>
    leadingTokens leading ++ qualifierTokens (Segment.tokensOfEach qualifier) ++ last.tokens

def Segment.tokens : Segment → Tokens
  | .plain name => word name
  | .angled name turbofish args trailing =>
    word name ++ leadingTokens turbofish ++ op "<"
      ++ genericEntries (Argument.entriesOf args) trailing ++ op ">"
  | .called name tokens => word name ++ tokens

def Segment.tokensOfEach : List Segment → List Tokens
  | [] => []
  | s :: rest => s.tokens :: Segment.tokensOfEach rest

def Argument.tokens : Argument → Tokens
  | .lifetime name => lifetimeTokens name
  | .type ty => ty.tokens
  | .other tokens => tokens

/-- The tokens of each argument of a list, with a mark on the lifetimes. -/
def Argument.entriesOf : List Argument → List (Bool × Tokens)
  | [] => []
  | a :: rest => ((a matches .lifetime _), a.tokens) :: Argument.entriesOf rest

end

def Segment.name : Segment → String
  | .plain name => name
  | .angled name _ _ _ => name
  | .called name _ => name

def Argument.type? : Argument → Option Ty
  | .type ty => some ty
  | _ => none

/-- The types among the arguments between angle brackets of a segment; lifetimes, constants and
named arguments do not count. -/
def Segment.typeArguments : Segment → List Ty
  | .angled _ _ args _ => args.filterMap Argument.type?
  | _ => []

/-- Whether a segment has no arguments. -/
def Segment.isPlain : Segment → Bool
  | .plain _ => true
  | _ => false

/-- Whether a segment has no arguments; angle brackets with nothing in them give none. -/
def Segment.hasNoArguments : Segment → Bool
  | .plain _ => true
  | .angled _ _ args _ => args.isEmpty
  | .called _ _ => false

def Path.last : Path → Segment
  | .segments _ _ last => last

def Path.all : Path → List Segment
  | .segments _ qualifier last => qualifier ++ [last]

def Path.names (p : Path) : List String := p.all.map Segment.name

def Path.ofName (name : String) : Path := .segments false [] (.plain name)

/-- The path with a segment added at its end. -/
def Path.extend : Path → Segment → Path
  | .segments leading qualifier last, next => .segments leading (qualifier ++ [last]) next

def Path.isPlain (p : Path) : Bool := p.all.all Segment.isPlain

end GraphRepo.Source
