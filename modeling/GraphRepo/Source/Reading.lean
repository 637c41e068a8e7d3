import GraphRepo.Source.Grammar.Item
import GraphRepo.Source.Lexer

/-!
# Syntax from text

A text is read as one part of the grammar that takes all of it.
-/

namespace GraphRepo.Source

/-- What a part of the grammar reads in some tokens, of which nothing may be left. -/
def read? {α : Type} (part : Grammar → Parser α) (ts : Tokens) : Option α :=
  Parser.parseAll (part (.forTokens ts)) ts

def readType? (text : String) : Option Ty := (tokenize text).bind (read? fun g => g.type true)

def readPath? (text : String) : Option Path := (tokenize text).bind (read? fun g => g.path false)

/-- The result type that a text stands for: nothing, or a type behind `->`. -/
def readOutput? (text : String) : Option (Option Ty) :=
  (tokenize text).bind (read? fun g => g.output true)

def itemOfTokens? (ts : Tokens) : Option Item := read? Grammar.item ts

def readItem? (text : String) : Option Item := (tokenize text).bind itemOfTokens?

/-- The text behind white space and comments that are no documentation, in at most `fuel` steps. -/
def skipBlanks : Nat → List Char → List Char
  | 0, cs => cs
  | fuel + 1, cs =>
    match cs with
    | c :: rest =>
      if isSpace c then skipBlanks fuel rest
      else match plainCommentEnd cs with
        | some rest => if (docComment? cs).isSome then cs else skipBlanks fuel rest
        | none => cs
    | [] => []

/-- A file without the line that names its interpreter. `#!` starts an attribute if a bracket
follows. -/
def dropInterpreter (cs : List Char) : List Char :=
  match cs with
  | '#' :: '!' :: rest =>
    match skipBlanks rest.length rest with
    | '[' :: _ => cs
    | _ => cs.dropWhile (· ≠ '\n')
  | _ => cs

def readItems? (text : String) : Option (List Item) :=
  (tokenize (String.ofList (dropInterpreter (dropMark text.toList)))).bind <| read? fun g => do
    let _ ← g.innerAttributes
    Parser.manyUntil List.isEmpty g.item

end GraphRepo.Source
