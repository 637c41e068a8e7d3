import GraphRepo.Source.Lexeme

/-!
# Source text as token trees

Brackets must match; then the lexemes between two of them are the body of a group.
-/

namespace GraphRepo.Source

/-- Puts lexemes into groups. `open?` holds the open groups, the innermost first, each with the
tokens before it; tokens are collected backwards. -/
def nest : List (Delimiter × Tokens) → Tokens → List Lexeme → Option Tokens
  | [], done, [] => some done.reverse
  | _ :: _, _, [] => none
  | opened, done, .tree t :: rest => nest opened (t :: done) rest
  | opened, done, .opening d :: rest => nest ((d, done) :: opened) [] rest
  | [], _, .closing _ :: _ => none
  | (d, outer) :: opened, done, .closing e :: rest =>
    if d = e then nest opened (.group d done.reverse :: outer) rest else none

/-- Drops a byte order mark at the start. -/
def dropMark : List Char → List Char
  | c :: rest => if c.toNat = 0xfeff then rest else c :: rest
  | [] => []

/-- The token trees of a source text; none if it cannot be cut into tokens or its brackets do not
match. -/
def tokenize (text : String) : Option Tokens :=
  (lexemes (dropMark text.toList)).bind (nest [] [])

end GraphRepo.Source
