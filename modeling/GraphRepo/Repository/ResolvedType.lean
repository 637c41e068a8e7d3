import GraphRepo.Source.Type

/-!
# Resolved types

What a type of a method signature stands for: its canonical name, whether it may be absent, and how
a parameter of it is passed. Standard types count by their short names however their path is
written; references, parentheses and groups are looked through; `Option` becomes a mark.
-/

namespace GraphRepo

open Source

/-- Full paths of standard types and the names they are known by. -/
def canonicalPaths : List (String × String) :=
  [("std::option::Option", "Option"), ("core::option::Option", "Option"),
    ("std::result::Result", "Result"), ("core::result::Result", "Result"),
    ("std::string::String", "String"), ("alloc::string::String", "String"),
    ("std::vec::Vec", "Vec"), ("alloc::vec::Vec", "Vec"),
    ("std::collections::VecDeque", "VecDeque"),
    ("std::collections::vec_deque::VecDeque", "VecDeque"),
    ("alloc::collections::VecDeque", "VecDeque"),
    ("std::collections::LinkedList", "LinkedList"),
    ("std::collections::linked_list::LinkedList", "LinkedList"),
    ("std::collections::HashSet", "HashSet"), ("std::collections::hash_set::HashSet", "HashSet"),
    ("std::collections::BTreeSet", "BTreeSet"),
    ("std::collections::btree_set::BTreeSet", "BTreeSet"),
    ("alloc::collections::BTreeSet", "BTreeSet")]

def sequenceNames : List String := ["Vec", "VecDeque", "LinkedList", "HashSet", "BTreeSet"]

/-- The names of a path with `::` between them. A leading `::` and arguments do not count. -/
def writtenName (p : Path) : String := "::".intercalate p.names

/-- The canonical name of a path. -/
def canonicalName (p : Path) : String :=
  ((canonicalPaths.find? (·.1 == writtenName p)).map (·.2)).getD (writtenName p)

/-- A type with what it stands for. -/
structure ResolvedType where
  /-- The canonical name, without `Option` around it. -/
  name : String
  /-- The type as it was written, without `Option`, references, parentheses and groups around it. -/
  ty : Ty
  nullable : Bool
  args : List ResolvedType

/-- The name of an argument, with the `Option` around it. -/
def ResolvedType.displayName (r : ResolvedType) : String :=
  if r.nullable then "Option<" ++ r.name ++ ">" else r.name

/-- A type with its resolved arguments: the argument of `Option` itself, marked as nullable, and any
other type under its name with the names of its arguments. -/
def resolvePath (p : Path) (args : List ResolvedType) : ResolvedType :=
  let name := canonicalName p
  match name == "Option", args with
  | true, [inner] => { inner with nullable := true }
  | _, [] => { name, ty := .path p, nullable := false, args }
  | _, _ =>
    { name := name ++ "<" ++ ", ".intercalate (args.map ResolvedType.displayName) ++ ">",
      ty := .path p, nullable := false, args }

mutual

/-- What a type stands for. -/
def resolve : Ty → ResolvedType
  | .paren inner => resolve inner
  | .group inner => resolve inner
  | .reference _ _ target => resolve target
  | .path (.segments leading qualifier last) =>
    resolvePath (.segments leading qualifier last) (resolveSegment last)
  | .tuple elems trailing =>
    { name := (Ty.tuple elems trailing).tokens.text, ty := .tuple elems trailing, nullable := false,
      args := [] }
  | .bare parenthesized modifiers p =>
    { name := (Ty.bare parenthesized modifiers p).tokens.text,
      ty := .bare parenthesized modifiers p, nullable := false, args := [] }
  | .other tokens => { name := tokens.text, ty := .other tokens, nullable := false, args := [] }

def resolveSegment : Segment → List ResolvedType
  | .angled _ _ args _ => resolveArguments args
  | _ => []

def resolveArguments : List Argument → List ResolvedType
  | [] => []
  | .type ty :: rest => resolve ty :: resolveArguments rest
  | .lifetime _ :: rest => resolveArguments rest
  | .other _ :: rest => resolveArguments rest

end

/-- How a parameter is passed. -/
inductive Passing
  | owned
  | shared
  | exclusive
  deriving DecidableEq, Repr

/-- How a parameter of the given type is passed. -/
def passing : Ty → Passing
  | .reference _ exclusive _ => if exclusive then .exclusive else .shared
  | .paren inner => passing inner
  | .group inner => passing inner
  | _ => .owned

end GraphRepo
