import GraphRepo.Source.Token
import GraphRepo.Text.Escape

/-!
# String literals

Writing a text as a string literal, and the value of a literal that was written. The written form
escapes what would not stand for itself; NUL before an octal digit is written in hexadecimal, so
that the two do not look like one escape.
-/

namespace GraphRepo.Source

/-! ## Writing -/

def literalBody : List Char → List Char
  | [] => []
  | c :: rest =>
    (if c = '\x00' then
      match rest with
      | d :: _ => if '0' ≤ d ∧ d ≤ '7' then ['\\', 'x', '0', '0'] else ['\\', '0']
      | [] => ['\\', '0']
    else Text.escapeChar c) ++ literalBody rest

/-- The literal whose value is `text`. -/
def stringLiteral (text : String) : TokenTree :=
  .literal (String.ofList ('\x22' :: literalBody text.toList ++ ['\x22']))

/-! ## Reading -/

def hexDigit? (c : Char) : Option Nat :=
  if '0' ≤ c ∧ c ≤ '9' then some (c.toNat - 48)
  else if 'a' ≤ c ∧ c ≤ 'f' then some (c.toNat - 87)
  else if 'A' ≤ c ∧ c ≤ 'F' then some (c.toNat - 55)
  else none

/-- The code point of hexadecimal digits up to a brace, and what follows; underscores do not
count. -/
def bracedCodePoint : Nat → List Char → Option (Nat × List Char)
  | _, [] => none
  | n, c :: rest =>
    if c = '\x7d' then some (n, rest)
    else if c = '_' then bracedCodePoint n rest
    else match hexDigit? c with
      | some d => bracedCodePoint (n * 16 + d) rest
      | none => none

/-- White space that a backslash at the end of a line takes with it. -/
def isContinuationBlank (c : Char) : Bool := c = ' ' || c = '\t' || c = '\n' || c = '\r'

/-- One step of reading the inside of a cooked literal: the character read, if any, and the rest;
nothing at the closing quote or where no literal goes on. -/
def cookedStep : List Char → Option (Option Char × List Char)
  | [] => none
  | '\x22' :: _ => none
  | '\r' :: '\n' :: rest => some (some '\n', rest)
  | '\\' :: c :: rest =>
    if c = 'n' then some (some '\n', rest)
    else if c = 'r' then some (some '\r', rest)
    else if c = 't' then some (some '\t', rest)
    else if c = '\\' ∨ c = '\x27' ∨ c = '\x22' then some (some c, rest)
    else if c = '0' then some (some '\x00', rest)
    else if c = 'x' then
      match rest with
      | a :: b :: rest =>
        match hexDigit? a, hexDigit? b with
        | some m, some n => some (some (Char.ofNat (m * 16 + n)), rest)
        | _, _ => none
      | _ => none
    else if c = 'u' then
      match rest with
      | '\x7b' :: rest => (bracedCodePoint 0 rest).map fun (n, rest) => (some (Char.ofNat n), rest)
      | _ => none
    else if c = '\n' ∨ c = '\r' then some (none, rest.dropWhile isContinuationBlank)
    else none
  | c :: rest => some (some c, rest)

/-- The inside of a cooked literal up to its closing quote, in at most `fuel` steps. -/
def cookedBody : Nat → List Char → List Char
  | 0, _ => []
  | fuel + 1, cs =>
    match cookedStep cs with
    | none => []
    | some (read, rest) => read.toList ++ cookedBody fuel rest

/-- The inside of a raw literal with `pounds` signs: everything up to its last quote. -/
def rawBody (cs : List Char) : List Char := ((cs.reverse.dropWhile (· ≠ '\x22')).drop 1).reverse

/-- The value of a literal, if it is a string: plain, or raw with any number of `#`. A suffix has no
part in it. -/
def stringValue? (literal : String) : Option String :=
  match literal.toList with
  | '\x22' :: rest => some (String.ofList (cookedBody rest.length rest))
  | 'r' :: rest => some (String.ofList (rawBody ((rest.dropWhile (· = '#')).drop 1)))
  | _ => none

end GraphRepo.Source
