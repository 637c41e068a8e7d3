import GraphRepo.Text.Escape

/-!
# Cuts

A text is cut after a number of bytes of its UTF-8 form. A cut inside a character is a fault.
-/

namespace GraphRepo.Text

/-- A cut that would fall inside a character. -/
structure CutFault where
  /-- How many bytes stand before the cut. -/
  offset : Nat
  /-- The character that the cut is inside of. -/
  char : Char
  /-- How many bytes stand before the character. -/
  start : Nat
  deriving DecidableEq, Repr

def quotedChar (c : Char) : String :=
  let body := if c = '\x27' then ['\\', c] else if c = '\x22' then [c] else escapeChar c
  String.ofList ('\x27' :: body ++ ['\x27'])

def CutFault.message (fault : CutFault) : String :=
  "end byte index " ++ toString fault.offset ++ " is not a char boundary; it is inside "
    ++ quotedChar fault.char ++ " (bytes " ++ toString fault.start ++ ".."
    ++ toString (fault.start + fault.char.utf8Size) ++ " of string)"

/-- The first `n` bytes of a text before which `start` bytes stand. -/
def cutAfter (n start : Nat) : List Char → Except CutFault (List Char)
  | [] => .ok []
  | c :: rest =>
    if n = 0 then .ok []
    else if c.utf8Size ≤ n then (cutAfter (n - c.utf8Size) (start + c.utf8Size) rest).map (c :: ·)
    else .error ⟨start + n, c, start⟩

end GraphRepo.Text
