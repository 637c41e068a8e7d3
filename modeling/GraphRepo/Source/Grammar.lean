import GraphRepo.Source.Item
import GraphRepo.Source.Parser

/-!
# The parts of the grammar that refer to each other

Types hold expressions, expressions hold items and items hold types. The rules for each part are
written over a `Grammar` that stands for all of them one level further down; `Grammar.empty` is the
level at which nothing can be read.
-/

namespace GraphRepo.Source

/-- What has to be known of an expression once it is read. -/
inductive ExpressionForm
  /-- `a..b`; no operator can follow it. -/
  | range
  /-- A comparison; it cannot be compared again. -/
  | comparison
  /-- A form that ends in a block and is a statement by itself, such as `if` or `match`. -/
  | blockLike
  /-- A macro call, in braces or not. -/
  | macroCall (braced : Bool)
  /-- A form that is kept as it was written, with the attributes in front of it. -/
  | asWritten
  | other
  deriving DecidableEq, Repr

/-- An expression. -/
structure Expression where
  form : ExpressionForm
  tokens : Tokens

/-- How tightly an operator binds. -/
inductive Precedence
  | lowest
  | assign
  | range
  | or
  | and
  | pattern
  | compare
  | bitOr
  | bitXor
  | bitAnd
  | shift
  | sum
  | product
  | cast
  deriving DecidableEq, Repr

def Precedence.rank (p : Precedence) : Nat := p.ctorIdx

/-- Parsers for the parts of the grammar that nest. -/
structure Grammar where
  /-- A type; `A + B` is one if the argument is true. -/
  type : Bool → Parser Ty
  /-- A bound; whether `use<…>` and whether `const` may stand in it. -/
  bound : Bool → Bool → Parser Bound
  /-- An expression up to the first operator that binds less tightly; struct literals are read if
  the argument is true. -/
  expression : Bool → Precedence → Parser Expression
  /-- What stands on the right of an operator. -/
  rightSide : Bool → Precedence → Parser Expression
  /-- An expression as a statement or the body of an arm, which ends with its block if it has
  one. -/
  statementExpression : Parser Expression
  /-- A pattern without alternatives. -/
  pattern : Parser Pattern
  /-- The statements up to the end of a block. -/
  statements : Parser Tokens
  /-- What `use` brings in; whether it may start at the root of all crates. Nothing for a tree that
  has a part which does. -/
  useTree : Bool → Parser (Option Tokens)
  /-- Fields with names, in braces. -/
  namedFields : Parser Tokens
  item : Parser Item

def Grammar.empty : Grammar where
  type _ := failure
  bound _ _ := failure
  expression _ _ := failure
  rightSide _ _ := failure
  statementExpression := failure
  pattern := failure
  statements := failure
  useTree _ := failure
  namedFields := failure
  item := failure

end GraphRepo.Source
