import GraphRepo.Source.Parser
import GraphRepo.Repository.Marker

/-!
# Arguments of the repository attribute

`#[repository(crate = "path", external)]`: where the runtime crate is found, and whether the
implementation comes from a file. The arguments are separated by commas, in any order; of several
paths the last counts.
-/

namespace GraphRepo

open Source

/-- The arguments of the attribute. -/
structure Arguments where
  runtime : Option String
  external : Bool
  deriving DecidableEq, Repr

def Arguments.empty : Arguments := ⟨none, false⟩

/-- Why arguments cannot be read. -/
inductive ArgumentFault
  /-- `crate` without `=` behind it. -/
  | equalsExpected
  /-- Nothing behind `crate =`. -/
  | literalMissing
  /-- Something else than a string behind `crate =`. -/
  | literalExpected
  | commaExpected
  /-- A literal where an argument starts. -/
  | literalAsName
  /-- Any other token where an argument starts. -/
  | tokenAsName
  /-- Nothing behind a leading `::`. -/
  | nameMissing
  /-- Nothing behind a `::` inside a path. -/
  | segmentMissing
  /-- Something else than a word behind a `::` inside a path. -/
  | segmentExpected
  | unsupported
  deriving DecidableEq, Repr

def ArgumentFault.message : ArgumentFault → String
  | .equalsExpected => "expected `=`"
  | .literalMissing => "unexpected end of input, expected string literal"
  | .literalExpected => "expected string literal"
  | .commaExpected => "expected `,`"
  | .literalAsName => "unexpected literal in nested attribute, expected ident"
  | .tokenAsName => "unexpected token in nested attribute, expected ident"
  | .nameMissing => "unexpected end of input, expected nested attribute"
  | .segmentMissing => "unexpected end of input, expected ident"
  | .segmentExpected => "expected ident"
  | .unsupported =>
    "unsupported repository argument, expected `crate = \"path\"` or `external`"

/-- The further segments of a path, and what follows them, in at most `fuel` steps. -/
def readSegments : Nat → List String → Tokens → Except ArgumentFault (List String × Tokens)
  | 0, names, ts => .ok (names, ts)
  | fuel + 1, names, ts =>
    if ts.onOp "::" then
      match ts.drop 2 with
      | .ident name :: rest => readSegments fuel (names ++ [name]) rest
      | [] => .error .segmentMissing
      | _ => .error .segmentExpected
    else .ok (names, ts)

/-- The path at the start of an argument, of words of any kind, and what follows it. -/
def readArgumentPath (ts : Tokens) : Except ArgumentFault (AttributePath × Tokens) :=
  let leading := ts.onOp "::"
  match if leading then ts.drop 2 else ts with
  | .ident name :: rest =>
    (readSegments rest.length [name] rest).map fun (names, rest) => (⟨leading, names⟩, rest)
  | [] => .error .nameMissing
  | rest => .error (if Tokens.onLiteral rest then .literalAsName else .tokenAsName)

/-- The path in `= "path"`, and what follows it. -/
def readRuntime (ts : Tokens) : Except ArgumentFault (String × Tokens) :=
  if ts.onOp "=" then
    match ts.drop 1 with
    | .literal text :: rest =>
      match stringValue? text with
      | some path => .ok (path, rest)
      | none => .error .literalExpected
    | [] => .error .literalMissing
    | _ => .error .literalExpected
  else .error .equalsExpected

/-- One argument, added to those before it, and what follows it. -/
def readArgument (args : Arguments) (ts : Tokens) : Except ArgumentFault (Arguments × Tokens) := do
  let (path, rest) ← readArgumentPath ts
  if path == ⟨false, ["crate"]⟩ then
    let (runtime, rest) ← readRuntime rest
    return ({ args with runtime := some runtime }, rest)
  else if path == ⟨false, ["external"]⟩ then return ({ args with external := true }, rest)
  else throw .unsupported

/-- Arguments with commas between them, added to those before them, in at most `fuel` steps. -/
def readArguments : Nat → Arguments → Tokens → Except ArgumentFault Arguments
  | _, args, [] => .ok args
  | 0, args, _ => .ok args
  | fuel + 1, args, ts => do
    let (args, rest) ← readArgument args ts
    match rest with
    | [] => return args
    | .punct ',' _ :: rest => readArguments fuel args rest
    | _ => throw .commaExpected

def Arguments.ofTokens (ts : Tokens) : Except ArgumentFault Arguments :=
  readArguments ts.length .empty ts

/-- The arguments of an attribute; without brackets behind its path there are none. -/
def Arguments.ofAttribute (a : Attribute) : Except ArgumentFault Arguments :=
  match a.payload with
  | .list _ tokens => Arguments.ofTokens tokens
  | _ => .ok .empty

end GraphRepo
