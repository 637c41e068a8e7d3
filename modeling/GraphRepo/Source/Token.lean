/-!
# Tokens of Rust source

Source text is a sequence of token trees: identifiers, punctuation characters, literals, and groups
between brackets. A punctuation character is joint when the next token is punctuation written right
behind it; the characters of one operator are joined, and so is the quote of a lifetime with its
name.

In the text of tokens one space stands between two of them, and none after a joint character.
-/

namespace GraphRepo.Source

/-- Whether a punctuation character is glued to the next token. -/
inductive Spacing
  | alone
  | joint
  deriving DecidableEq, Repr

/-- The brackets around a group. -/
inductive Delimiter
  | paren
  | bracket
  | brace
  deriving DecidableEq, Repr

/-- A token, or a group of them. -/
inductive TokenTree
  /-- An identifier or keyword, with `r#` if it was written so. -/
  | ident (name : String)
  | punct (c : Char) (spacing : Spacing)
  /-- A literal as it was written. -/
  | literal (text : String)
  | group (delimiter : Delimiter) (body : List TokenTree)
  deriving BEq, Repr

abbrev Tokens := List TokenTree

def Delimiter.opening : Delimiter → List Char
  | .paren => ['(']
  | .bracket => ['[']
  | .brace => ['\x7b', ' ']

/-- What closes a group whose body is empty or not. -/
def Delimiter.closing (empty : Bool) : Delimiter → List Char
  | .paren => [')']
  | .bracket => [']']
  | .brace => if empty then ['\x7d'] else [' ', '\x7d']

def TokenTree.gap : TokenTree → List Char
  | .punct _ .joint => []
  | _ => [' ']

mutual

def TokenTree.chars : TokenTree → List Char
  | .ident name => name.toList
  | .punct c _ => [c]
  | .literal text => text.toList
  | .group d body => d.opening ++ Tokens.chars body ++ d.closing body.isEmpty

def Tokens.chars : List TokenTree → List Char
  | [] => []
  | [t] => t.chars
  | t :: u :: rest => t.chars ++ (t.gap ++ Tokens.chars (u :: rest))

end

def TokenTree.text (t : TokenTree) : String := String.ofList t.chars

def Tokens.text (ts : Tokens) : String := String.ofList (Tokens.chars ts)

mutual

def TokenTree.size : TokenTree → Nat
  | .group _ body => Tokens.size body + 2
  | _ => 1

def Tokens.size : List TokenTree → Nat
  | [] => 0
  | t :: rest => t.size + Tokens.size rest

end

/-! ## Building tokens -/

def operator : List Char → Tokens
  | [] => []
  | [c] => [.punct c .alone]
  | c :: rest => .punct c .joint :: operator rest

def op (text : String) : Tokens := operator text.toList

def word (name : String) : Tokens := [.ident name]

def wordIf (condition : Bool) (name : String) : Tokens := if condition then [.ident name] else []

/-- A lifetime, from its name without the quote. -/
def lifetimeTokens (name : String) : Tokens := [.punct '\x27' .joint, .ident name]

def parens (body : Tokens) : Tokens := [.group .paren body]

def brackets (body : Tokens) : Tokens := [.group .bracket body]

def braces (body : Tokens) : Tokens := [.group .brace body]

/-- Items with an operator after each but the last, which has one if `trailing`. -/
def separated (separator : String) (trailing : Bool) : List Tokens → Tokens
  | [] => []
  | [item] => item ++ if trailing then op separator else []
  | item :: rest => item ++ op separator ++ separated separator trailing rest

/-- Items with a comma after each but the last, which has one if `trailing`. -/
def commaSeparated (trailing : Bool) (items : List Tokens) : Tokens := separated "," trailing items

end GraphRepo.Source
