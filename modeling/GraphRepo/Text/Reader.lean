/-!
# Readers

A reader takes characters from the front of a text or fails; after a failed alternative the next one
starts where it did.
-/

namespace GraphRepo.Text

abbrev Reader := StateT (List Char) Option

namespace Reader

/-- The next character, left where it is. -/
def peek : Reader (Option Char) := return (← get).head?

def char : Reader Char := do
  match ← get with
  | [] => failure
  | c :: rest => set rest; return c

/-- Takes the next character if it satisfies `p`. -/
def charThat (p : Char → Bool) : Reader Char := do
  let c ← char
  if p c then return c else failure

def exactly (expected : List Char) : Reader Unit := do
  let cs ← get
  if expected.isPrefixOf cs then set (cs.drop expected.length) else failure

/-- Takes the characters that satisfy `p`. -/
def takeWhile (p : Char → Bool) : Reader (List Char) := do
  let cs ← get
  set (cs.dropWhile p)
  return cs.takeWhile p

/-- Takes the characters that satisfy `p`, one at least. -/
def takeSome (p : Char → Bool) : Reader (List Char) := do
  let cs ← takeWhile p
  if cs.isEmpty then failure else return cs

/-- Takes the given text if it comes next, and says whether it did. -/
def takes (expected : List Char) : Reader Bool :=
  (do exactly expected; return true) <|> pure false

/-- How many characters are left. -/
def left : Reader Nat := return (← get).length

def isHexDigit (c : Char) : Bool :=
  c.isDigit || ('a' ≤ c && c ≤ 'f') || ('A' ≤ c && c ≤ 'F')

def hexValue (c : Char) : Nat :=
  if c.isDigit then c.toNat - 48 else if 'a' ≤ c then c.toNat - 87 else c.toNat - 55

def numeral (base : Nat) (ds : List Char) : Nat := ds.foldl (fun n c => n * base + hexValue c) 0

/-- Takes `n` hexadecimal digits and gives the number they make. -/
def hexNumeral (n : Nat) : Reader Nat := do
  let cs ← get
  let ds := cs.take n
  if ds.length = n ∧ ds.all isHexDigit then
    set (cs.drop n)
    return numeral 16 ds
  else failure

def scalar (n : Nat) : Reader Char :=
  if n < 0xD800 ∨ (0xDFFF < n ∧ n < 0x110000) then pure (Char.ofNat n) else failure

end Reader

def Reader.whole? {α : Type} (r : Reader α) (cs : List Char) : Option α := do
  let (a, rest) ← r.run cs
  if rest.isEmpty then some a else none

end GraphRepo.Text
