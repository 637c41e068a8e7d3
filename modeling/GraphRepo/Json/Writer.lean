import GraphRepo.Json
import GraphRepo.Decimal.Layout

/-!
# JSON text, written

Compact text with the keys in the order of the fields. Of the characters of a string only the quote,
the backslash and controls are escaped.
-/

namespace GraphRepo.Json

def hex4 (n : Nat) : List Char :=
  let ds := Nat.toDigits 16 n
  List.replicate (4 - ds.length) '0' ++ ds

def escapedChar (c : Char) : List Char :=
  if c = '\x22' then ['\\', '\x22']
  else if c = '\\' then ['\\', '\\']
  else if c = '\n' then ['\\', 'n']
  else if c = '\r' then ['\\', 'r']
  else if c = '\t' then ['\\', 't']
  else if c.toNat < 32 then '\\' :: 'u' :: hex4 c.toNat
  else [c]

def quotedText (s : String) : List Char := '\x22' :: s.toList.flatMap escapedChar ++ ['\x22']

mutual

/-- The text of a value, put before `rest`. -/
def write : Json → List Char → List Char
  | .null, rest => "null".toList ++ rest
  | .bool b, rest => (if b then "true" else "false").toList ++ rest
  | .int n, rest => (toString n.val).toList ++ rest
  | .float x, rest => DoubleLayout.json.chars x.val ++ rest
  | .string s, rest => quotedText s ++ rest
  | .array items, rest => '[' :: writeItems items (']' :: rest)
  | .object fields, rest => '\x7b' :: writeFields fields ('\x7d' :: rest)

def writeItems : List Json → List Char → List Char
  | [], rest => rest
  | [v], rest => write v rest
  | v :: w :: more, rest => write v (',' :: writeItems (w :: more) rest)

def writeFields : List (String × Json) → List Char → List Char
  | [], rest => rest
  | [(k, v)], rest => quotedText k ++ ':' :: write v rest
  | (k, v) :: e :: more, rest =>
    quotedText k ++ ':' :: write v (',' :: writeFields (e :: more) rest)

end

def text (v : Json) : String := String.ofList (write v [])

end GraphRepo.Json
