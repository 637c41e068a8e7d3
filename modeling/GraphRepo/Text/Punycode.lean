/-!
# Punycode

A text in letters, digits and hyphens that stands for one in all characters. What is before its last
hyphen is kept; behind it are numbers, each of which puts one more character in. A number says how
far to go from the last insertion, through the positions and then through the code points.
-/

namespace GraphRepo.Text.Punycode

/-- The value of a digit: small letters come before numerals. -/
def digit? (c : Char) : Option Nat :=
  if 'a' ≤ c ∧ c ≤ 'z' then some (c.toNat - 97)
  else if c.isDigit then some (c.toNat - 22)
  else none

/-- A digit below this value is the last of its number. -/
def threshold (bias place : Nat) : Nat := min 26 (max 1 (place - bias))

/-- The bias that a distance leaves: the larger the distance, the later its digits end. -/
def settle (distance bias : Nat) : Nat :=
  if 455 < distance then settle (distance / 35) (bias + 36)
  else bias + 36 * distance / (distance + 38)
termination_by distance

/-- The bias after a distance that leads to the `count`th character. -/
def nextBias (distance count : Nat) (isFirst : Bool) : Nat :=
  let distance := distance / (if isFirst then 700 else 2)
  settle (distance + distance / count) 0

/-- What is decoded, and as far as it is read the number that comes next. -/
structure Decoding where
  chars : List Char
  /-- The code point of the last insertion. -/
  code : Nat
  /-- The position behind the last insertion. -/
  position : Nat
  bias : Nat
  /-- The position and what the digits that are read add to it. -/
  sum : Nat
  weight : Nat
  place : Nat

def Decoding.start (chars : List Char) : Decoding := ⟨chars, 128, 0, 72, 0, 1, 36⟩

def Decoding.insert (d : Decoding) (sum : Nat) : Option Decoding :=
  let count := d.chars.length + 1
  let code := d.code + sum / count
  let position := sum % count
  if code < 0xD800 ∨ (0xDFFF < code ∧ code < 0x110000) then
    let bias := nextBias (sum - d.position) count (d.position = 0)
    let chars := d.chars.insertIdx position (Char.ofNat code)
    some ⟨chars, code, position + 1, bias, position + 1, 1, 36⟩
  else none

def Decoding.step (d : Decoding) (c : Char) : Option Decoding := do
  let value ← digit? c
  let sum := d.sum + value * d.weight
  let t := threshold d.bias d.place
  if value < t then d.insert sum
  else some { d with sum, weight := d.weight * (36 - t), place := d.place + 36 }

def decode? (text : List Char) : Option (List Char) := do
  let tail := (text.reverse.takeWhile (· ≠ '-')).reverse
  let kept := (text.take (text.length - tail.length)).dropLast
  let d ← (if kept.isEmpty then text else tail).foldlM Decoding.step (.start kept)
  if d.place = 36 then some d.chars else none

end GraphRepo.Text.Punycode
