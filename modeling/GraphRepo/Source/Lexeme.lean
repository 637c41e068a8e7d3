import GraphRepo.Source.StringLiteral
import GraphRepo.Text.IdentifierChar
import GraphRepo.Text.Blank

/-!
# Lexemes

How the characters of source text are cut. Each kind of token is given by a function from a text
that may start with one to the text behind it; what lies between is the token. White space and
comments are no tokens, except documentation comments, which stand for attributes.
-/

namespace GraphRepo.Source

/-- A text that starts with the given characters, without them. -/
def dropText? (expected cs : List Char) : Option (List Char) :=
  if expected.isPrefixOf cs then some (cs.drop expected.length) else none

/-- The first part of `cs`, up to where `rest` begins. -/
def textBefore (cs rest : List Char) : String := String.ofList (cs.take (cs.length - rest.length))

/-! ## Identifiers -/

/-- The text behind an identifier without `r#`. -/
def plainIdentEnd : List Char → Option (List Char)
  | [] => none
  | c :: rest => if Text.isIdentStart c then some (rest.dropWhile Text.isIdentContinue) else none

/-- The words that `r#` cannot be put before. -/
def neverRaw : List String := ["_", "super", "self", "Self", "crate"]

def identEnd (cs : List Char) : Option (List Char) :=
  match cs with
  | 'r' :: '#' :: rest =>
    (plainIdentEnd rest).bind fun after =>
      if neverRaw.contains (textBefore rest after) then none else some after
  | _ => plainIdentEnd cs

/-- What a quoted literal with a mark starts with. A text that starts so and holds no such literal
holds no identifier either. -/
def markedQuotes : List (List Char) :=
  [['r', '\x22'], ['r', '#', '\x22'], ['r', '#', '#'], ['b', '\x22'], ['b', '\x27'],
    ['b', 'r', '\x22'], ['b', 'r', '#'], ['c', '\x22'], ['c', 'r', '\x22'], ['c', 'r', '#']]

/-- The text behind an identifier that is a token of its own. -/
def identTokenEnd (cs : List Char) : Option (List Char) :=
  if markedQuotes.any (·.isPrefixOf cs) then none else identEnd cs

def suffixEnd (cs : List Char) : List Char := (plainIdentEnd cs).getD cs

/-! ## Literals -/

/-- The three kinds of quoted literals. -/
inductive QuotedKind
  | text
  | bytes
  | cText
  deriving DecidableEq, Repr

/-- Whether the character may stand in the literal as it is. -/
def QuotedKind.holds (kind : QuotedKind) (c : Char) : Bool :=
  match kind with
  | .text => true
  | .bytes => c.toNat < 128
  | .cText => c ≠ '\x00'

/-- The text behind a `\x` escape's two digits. -/
def QuotedKind.hexEscapeEnd (kind : QuotedKind) : List Char → Option (List Char)
  | a :: b :: rest =>
    match hexDigit? a, hexDigit? b with
    | some m, some n =>
      match kind with
      | .text => if m ≤ 7 then some rest else none
      | .bytes => some rest
      | .cText => if m = 0 ∧ n = 0 then none else some rest
    | _, _ => none
  | _ => none

/-- The code point of a braced escape, with `count` digits read, and the text behind it. -/
def codePointEnd (count value : Nat) : List Char → Option (Nat × List Char)
  | [] => none
  | c :: rest =>
    match hexDigit? c with
    | some d => if count = 6 then none else codePointEnd (count + 1) (value * 16 + d) rest
    | none =>
      if count = 0 then none
      else if c = '_' then codePointEnd count value rest
      else if c = '\x7d' ∧ (value < 0xD800 ∨ 0xE000 ≤ value ∧ value < 0x110000) then
        some (value, rest)
      else none

/-- The text behind the white space after a backslash at the end of a line. A carriage return must
have its line feed, and something must follow. -/
def continuationEnd : Bool → List Char → Option (List Char)
  | true, '\n' :: rest => continuationEnd false rest
  | true, _ => none
  | false, [] => none
  | false, c :: rest =>
    if c = '\r' then continuationEnd true rest
    else if isContinuationBlank c then continuationEnd false rest
    else some (c :: rest)

def QuotedKind.escapeEnd (kind : QuotedKind) : List Char → Option (List Char)
  | [] => none
  | c :: rest =>
    if c = 'x' then kind.hexEscapeEnd rest
    else if c = 'n' ∨ c = 'r' ∨ c = 't' ∨ c = '\\' ∨ c = '\x27' ∨ c = '\x22' then some rest
    else if c = '0' then if kind = .cText then none else some rest
    else if c = 'u' ∧ kind ≠ .bytes then
      match rest with
      | '\x7b' :: digits =>
        (codePointEnd 0 0 digits).bind fun (n, after) =>
          if kind = .cText ∧ n = 0 then none else some after
      | _ => none
    else none

/-- The text behind a cooked literal whose opening quote has been read, in at most `fuel` steps. -/
def QuotedKind.cookedEnd (kind : QuotedKind) : Nat → List Char → Option (List Char)
  | 0, _ => none
  | _, [] => none
  | fuel + 1, c :: rest =>
    if c = '\x22' then some (suffixEnd rest)
    else if c = '\r' then
      match rest with
      | '\n' :: after => kind.cookedEnd fuel after
      | _ => none
    else if c = '\\' then
      match rest with
      | '\n' :: after => (continuationEnd false after).bind (kind.cookedEnd fuel)
      | '\r' :: after => (continuationEnd true after).bind (kind.cookedEnd fuel)
      | _ => (kind.escapeEnd rest).bind (kind.cookedEnd fuel)
    else if kind.holds c then kind.cookedEnd fuel rest
    else none

/-- The text behind a raw literal with `pounds` signs whose opening quote has been read. -/
def QuotedKind.rawEnd (kind : QuotedKind) (pounds : Nat) : List Char → Option (List Char)
  | [] => none
  | '\r' :: '\n' :: rest => kind.rawEnd pounds rest
  | c :: rest =>
    if c = '\x22' ∧ (List.replicate pounds '#').isPrefixOf rest then
      some (suffixEnd (rest.drop pounds))
    else if c = '\r' then none
    else if kind.holds c then kind.rawEnd pounds rest
    else none

/-- The text behind a raw literal after its `r`. -/
def QuotedKind.rawLiteralEnd (kind : QuotedKind) (cs : List Char) : Option (List Char) :=
  let pounds := (cs.takeWhile (· = '#')).length
  match cs.drop pounds with
  | '\x22' :: rest => if pounds ≤ 255 then kind.rawEnd pounds rest else none
  | _ => none

/-- The text behind a quoted literal that starts with `mark` before its quote or its `r`. -/
def QuotedKind.literalEnd (kind : QuotedKind) (mark cs : List Char) : Option (List Char) :=
  (dropText? (mark ++ ['\x22']) cs).bind (fun rest => kind.cookedEnd (rest.length + 1) rest) <|>
    (dropText? (mark ++ ['r']) cs).bind kind.rawLiteralEnd

/-- The text behind a character or byte whose opening quote has been read. -/
def QuotedKind.singleEnd (kind : QuotedKind) : List Char → Option (List Char)
  | [] => none
  | c :: rest =>
    let after := if c = '\\' then
        match rest with
        | '\n' :: _ => none
        | '\r' :: _ => none
        | _ => kind.escapeEnd rest
      else if kind.holds c then some rest else none
    match after with
    | some ('\x27' :: rest) => some (suffixEnd rest)
    | _ => none

/-- Whether a point before this text belongs to the number. -/
def endsAfterPoint : List Char → Bool
  | [] => true
  | c :: _ => c ≠ '.' && !Text.isIdentStart c

/-- The text behind the digits and the point of a float, and whether there is a point. -/
def floatMantissaEnd (pointed : Bool) : List Char → Option (Bool × List Char)
  | [] => some (pointed, [])
  | c :: rest =>
    if c.isDigit || c = '_' then floatMantissaEnd pointed rest
    else if c = '.' && !pointed then
      if endsAfterPoint rest then floatMantissaEnd true rest else none
    else some (pointed, c :: rest)

/-- The text behind the exponent of a float, if it has a digit. -/
def exponentEnd (signed valued : Bool) : List Char → Option (List Char)
  | [] => if valued then some [] else none
  | c :: rest =>
    if (c = '+' || c = '-') && !valued then
      if signed then none else exponentEnd true false rest
    else if c.isDigit then exponentEnd signed true rest
    else if c = '_' then exponentEnd signed valued rest
    else if valued then some (c :: rest)
    else none

def floatDigitsEnd (cs : List Char) : Option (List Char) :=
  match cs with
  | [] => none
  | first :: _ =>
    if !first.isDigit then none
    else match floatMantissaEnd false cs with
      | none => none
      | some (pointed, rest) =>
        let stop := if pointed then some rest else none
        match rest with
        | [] => stop
        | c :: tail =>
          if c = 'e' ∨ c = 'E' then (exponentEnd false false tail).or stop else stop

/-- The text behind the digits of a whole number; none have been read while `empty`. -/
def wholeDigitsEnd (base : Nat) (empty : Bool) : List Char → Option (List Char)
  | [] => if empty then none else some []
  | c :: rest =>
    let stop := if empty then none else some (c :: rest)
    if c = '_' then if empty ∧ base = 10 then none else wholeDigitsEnd base empty rest
    else match hexDigit? c with
      | some d =>
        if d < base then wholeDigitsEnd base false rest
        else if c.isDigit then none
        else stop
      | none => stop

/-- The text behind the digits of a whole number, its base included. -/
def wholeNumberEnd (cs : List Char) : Option (List Char) :=
  match cs with
  | '0' :: 'x' :: rest => wholeDigitsEnd 16 true rest
  | '0' :: 'o' :: rest => wholeDigitsEnd 8 true rest
  | '0' :: 'b' :: rest => wholeDigitsEnd 2 true rest
  | _ => wholeDigitsEnd 10 true cs

/-- The text behind a number's suffix. No character of a word may follow. -/
def numberEnd (cs : List Char) : Option (List Char) :=
  let rest := suffixEnd cs
  match rest with
  | c :: _ => if Text.isIdentContinue c then none else some rest
  | [] => some rest

def literalEnd (cs : List Char) : Option (List Char) :=
  QuotedKind.text.literalEnd [] cs <|>
  QuotedKind.bytes.literalEnd ['b'] cs <|>
  QuotedKind.cText.literalEnd ['c'] cs <|>
  (dropText? ['b', '\x27'] cs).bind QuotedKind.bytes.singleEnd <|>
  (dropText? ['\x27'] cs).bind QuotedKind.text.singleEnd <|>
  (floatDigitsEnd cs).bind numberEnd <|>
  (wholeNumberEnd cs).bind numberEnd

/-! ## Punctuation -/

def isPunctuation (c : Char) : Bool :=
  ['~', '!', '@', '#', '$', '%', '^', '&', '*', '-', '=', '+', '|', ';', ':', ',', '<', '.', '>',
    '/', '?', '\x27'].contains c

/-- Whether the text starts with punctuation; a comment is none. -/
def startsWithPunctuation : List Char → Bool
  | '/' :: '/' :: _ => false
  | '/' :: '*' :: _ => false
  | c :: _ => isPunctuation c
  | [] => false

/-- Whether a lifetime's name starts here: a word that no quote follows. -/
def startsLifetimeName (cs : List Char) : Bool :=
  match identEnd cs with
  | some ('\x27' :: _) => false
  | some ('#' :: _) => ['r', '#'].isPrefixOf cs
  | some _ => true
  | none => false

/-- The punctuation character at the start of a text. -/
def punctuation (cs : List Char) : Option (TokenTree × List Char) :=
  if startsWithPunctuation cs then
    match cs with
    | c :: rest =>
      if c = '\x27' then
        if startsLifetimeName rest then some (.punct c .joint, rest) else none
      else some (.punct c (if startsWithPunctuation rest then .joint else .alone), rest)
    | [] => none
  else none

/-! ## Comments -/

/-- The text of a line up to its end, and what follows; a carriage return before the line feed
belongs to neither. -/
def lineEnd : List Char → List Char × List Char
  | [] => ([], [])
  | '\n' :: rest => ([], '\n' :: rest)
  | '\r' :: '\n' :: rest => ([], '\n' :: rest)
  | c :: rest => let (line, after) := lineEnd rest; (c :: line, after)

/-- The text behind a block comment inside which `depth` comments are open. -/
def blockCommentEnd : Nat → List Char → Option (List Char)
  | depth, '/' :: '*' :: rest => blockCommentEnd (depth + 1) rest
  | depth, '*' :: '/' :: rest => if depth ≤ 1 then some rest else blockCommentEnd (depth - 1) rest
  | depth, _ :: rest => blockCommentEnd depth rest
  | _, [] => none

/-- Whether some carriage return has no line feed behind it. -/
def hasBareReturn : List Char → Bool
  | '\r' :: '\n' :: rest => hasBareReturn rest
  | '\r' :: _ => true
  | _ :: rest => hasBareReturn rest
  | [] => false

def blockCommentBody (cs rest : List Char) : List Char :=
  (cs.take (cs.length - rest.length - 2)).drop 3

/-- A documentation comment: its text, whether it documents what it stands in, and what follows. -/
def docComment? (cs : List Char) : Option (List Char × Bool × List Char) :=
  match cs with
  | '/' :: '/' :: '!' :: rest => let (line, after) := lineEnd rest; some (line, true, after)
  | '/' :: '*' :: '!' :: _ =>
    (blockCommentEnd 0 cs).map fun after => (blockCommentBody cs after, true, after)
  | '/' :: '/' :: '/' :: '/' :: _ => none
  | '/' :: '/' :: '/' :: rest => let (line, after) := lineEnd rest; some (line, false, after)
  | '/' :: '*' :: '*' :: '*' :: _ => none
  | '/' :: '*' :: '*' :: '/' :: _ => none
  | '/' :: '*' :: '*' :: _ =>
    (blockCommentEnd 0 cs).map fun after => (blockCommentBody cs after, false, after)
  | _ => none

/-- The text behind a comment that documents nothing. -/
def plainCommentEnd (cs : List Char) : Option (List Char) :=
  match cs with
  | '/' :: '/' :: rest => some (lineEnd rest).2
  | '/' :: '*' :: _ => blockCommentEnd 0 cs
  | _ => none

def docAttribute (text : List Char) (inner : Bool) : Tokens :=
  op "#" ++ (if inner then op "!" else []) ++
    brackets (word "doc" ++ op "=" ++ [stringLiteral (String.ofList text)])

/-! ## Cutting -/

/-- White space between tokens: blanks and the two direction marks. -/
def isSpace (c : Char) : Bool := Text.isBlank c || c.toNat = 0x200e || c.toNat = 0x200f

/-- What the lexer cuts the text into. -/
inductive Lexeme
  | tree (t : TokenTree)
  | opening (d : Delimiter)
  | closing (d : Delimiter)

def errorLiteral : List Char := ['(', '/', '*', 'E', 'R', 'R', 'O', 'R', '*', '/', ')']

def openingBracket? (c : Char) : Option Delimiter :=
  if c = '(' then some .paren
  else if c = '[' then some .bracket
  else if c = '\x7b' then some .brace
  else none

def closingBracket? (c : Char) : Option Delimiter :=
  if c = ')' then some .paren
  else if c = ']' then some .bracket
  else if c = '\x7d' then some .brace
  else none

/-- A token that is no bracket. -/
def leaf (cs : List Char) : Option (TokenTree × List Char) :=
  (literalEnd cs).map (fun rest => (.literal (textBefore cs rest), rest)) <|>
  punctuation cs <|>
  (identTokenEnd cs).map (fun rest => (.ident (textBefore cs rest), rest))

/-- One step: the lexemes at the start of a text, none for white space and comments, and the text
behind them. -/
def cut (cs : List Char) : Option (List Lexeme × List Char) :=
  match cs with
  | [] => none
  | c :: rest =>
    if isSpace c then some ([], rest)
    else match docComment? cs with
      | some (text, inner, after) =>
        if hasBareReturn text then none else some ((docAttribute text inner).map .tree, after)
      | none =>
        match plainCommentEnd cs with
        | some after => some ([], after)
        | none =>
          if errorLiteral.isPrefixOf cs then
            some ([.tree (.literal (String.ofList errorLiteral))], cs.drop errorLiteral.length)
          else match openingBracket? c, closingBracket? c with
            | some d, _ => some ([.opening d], rest)
            | none, some d => some ([.closing d], rest)
            | none, none => (leaf cs).map fun (t, after) => ([.tree t], after)

/-- The lexemes of a text, cut in at most `fuel` steps. -/
def lexemesWithin : Nat → List Char → Option (List Lexeme)
  | _, [] => some []
  | 0, _ => none
  | fuel + 1, cs => do
    let (found, rest) ← cut cs
    return found ++ (← lexemesWithin fuel rest)

def lexemes (cs : List Char) : Option (List Lexeme) := lexemesWithin cs.length cs

end GraphRepo.Source
