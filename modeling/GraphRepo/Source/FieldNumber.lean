import GraphRepo.Source.StringLiteral

/-!
# Numbers of fields

A field of a tuple is named by a whole number without a suffix. The number may be written in any
base and with underscores; what counts is its value, which has to fit in 32 bits.
-/

namespace GraphRepo.Source

/-- The value of digits in a base, behind those read before. Underscores do not count; without a
digit there is no value. -/
def digitsValue? (base : Nat) : Option Nat → List Char → Option Nat
  | value, [] => value
  | value, c :: rest =>
    if c = '_' then digitsValue? base value rest
    else match hexDigit? c with
      | some d => if d < base then digitsValue? base (some (value.getD 0 * base + d)) rest else none
      | none => none

/-- The value of a whole number without a suffix. -/
def wholeValue? (cs : List Char) : Option Nat :=
  match cs with
  | '0' :: 'x' :: rest => digitsValue? 16 none rest
  | '0' :: 'o' :: rest => digitsValue? 8 none rest
  | '0' :: 'b' :: rest => digitsValue? 2 none rest
  | c :: _ => if c.isDigit then digitsValue? 10 none cs else none
  | [] => none

/-- The number of a field, from the text of a literal. -/
def fieldNumber? (text : String) : Option Nat :=
  (wholeValue? text.toList).filter (· < 4294967296)

def fieldNumberToken (n : Nat) : TokenTree := .literal (toString n)

end GraphRepo.Source
