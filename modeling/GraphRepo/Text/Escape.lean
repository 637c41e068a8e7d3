import GraphRepo.Text.Printable

/-!
# Escaped characters

How a quoted text shows a character that would not stand for itself.
-/

namespace GraphRepo.Text

/-- A code point in hexadecimal between braces, `\u{301}`. -/
def unicodeEscape (c : Char) : List Char :=
  '\\' :: 'u' :: '\x7b' :: Nat.toDigits 16 c.toNat ++ ['\x7d']

/-- A character inside double quotes: a single quote stands for itself, and so does every printable
character that does not extend the one before it. -/
def escapeChar (c : Char) : List Char :=
  if c = '\x00' then ['\\', '0']
  else if c = '\t' then ['\\', 't']
  else if c = '\r' then ['\\', 'r']
  else if c = '\n' then ['\\', 'n']
  else if c = '\\' then ['\\', '\\']
  else if c = '\x22' then ['\\', '\x22']
  else if isGraphemeExtend c then unicodeEscape c
  else if isPrintable c then [c]
  else unicodeEscape c

def quotedChars (text : List Char) : List Char :=
  '\x22' :: text.flatMap escapeChar ++ ['\x22']

def quoted (text : String) : String := String.ofList (quotedChars text.toList)

end GraphRepo.Text
