import GraphRepo.Bolt.Host
import GraphRepo.Text.IdentifierChar
import GraphRepo.Text.LetterCase
import GraphRepo.Text.Numeric
import GraphRepo.Text.Printable
import GraphRepo.Text.Punycode

/-!
# Hosts on the web

Behind a scheme of the web a host is a domain name or an address of up to four numbers. Signs of
percent are decoded first. Then every character is read as another one, as none, or refused; and a
name whose last part is a number has to be an address.
-/

namespace GraphRepo.Host

open GraphRepo.Text

/-- The characters of a name that count for nothing. -/
def skippedRanges : List Nat := [
  173, 173, 847, 847, 4447, 4448, 6068, 6069, 6155, 6159, 8203, 8203, 8288, 8292, 8298, 8303,
  12644, 12644, 65024, 65039, 65279, 65279, 65440, 65440, 113824, 113827, 119155, 119162, 917760,
  917999]

/-- The printable characters that no name can have: those that are read as a text with a character
in it that separates, and those that describe others. -/
def refusedRanges : List Nat := [
  168, 168, 175, 175, 180, 180, 184, 184, 728, 733, 890, 890, 900, 901, 8125, 8125, 8127, 8129,
  8141, 8143, 8157, 8159, 8173, 8174, 8189, 8190, 8215, 8215, 8228, 8230, 8254, 8254, 8263, 8265,
  8448, 8449, 8453, 8454, 9352, 9371, 10868, 10868, 12272, 12287, 12443, 12444, 12783, 12783,
  13250, 13250, 13255, 13255, 13272, 13272, 64606, 64611, 65018, 65019, 65042, 65043, 65046,
  65046, 65049, 65049, 65072, 65072, 65095, 65100, 65106, 65106, 65109, 65110, 65119, 65119,
  65124, 65125, 65128, 65128, 65130, 65131, 65136, 65136, 65138, 65138, 65140, 65140, 65142,
  65142, 65144, 65144, 65146, 65146, 65148, 65148, 65150, 65150, 65507, 65507, 65532, 65533,
  127232, 127232]

/-- Whether a character of ASCII can be in no name. -/
def isSeparating (c : Char) : Bool :=
  c.toNat ≤ 32 || c.toNat = 127 || "%#/:<>?@[\\]^|".toList.contains c

def readAscii (c : Char) : Option (List Char) :=
  if isSeparating c then none else some [c.toLower]

/-- What a character of a name is read as: wide forms as the narrow ones, full stops as points,
capital letters as small ones. -/
def readAs (c : Char) : Option (List Char) :=
  let n := c.toNat
  if n < 128 then readAscii c
  else if n = 0x3002 ∨ n = 0xFF61 then some ['.']
  else if 0xFF01 ≤ n ∧ n ≤ 0xFF5E then readAscii (Char.ofNat (n - 0xFEE0))
  else if inRanges skippedRanges n then some []
  else if !isPrintable c ∨ inRanges refusedRanges n then none
  else some (lower c)

/-- Whether a character is a mark on the one before it. -/
def isMark (c : Char) : Bool :=
  128 ≤ c.toNat && (isGraphemeExtend c ||
    (isIdentContinue c && !isIdentStart c && !isNumeric c && c.toNat ≠ 0xB7 && c.toNat ≠ 0x30FB))

/-- Whether a text can be a part of a domain name: no mark comes first, and what is behind `xn--`
stands for a text that is not of ASCII alone and is read as itself. -/
def isLabel (label : List Char) : Bool :=
  match label with
  | 'x' :: 'n' :: '-' :: '-' :: code =>
    match Punycode.decode? code with
    | none => false
    | some cs =>
      cs.any (128 ≤ ·.toNat) && cs.all (fun c => readAs c = some [c]) && !cs.head?.any isMark
  | _ => !label.head?.any isMark

def percentDecoded : List UInt8 → List UInt8
  | 37 :: a :: b :: rest =>
    let (c, d) := (Char.ofNat a.toNat, Char.ofNat b.toNat)
    if Reader.isHexDigit c && Reader.isHexDigit d then
      UInt8.ofNat (Reader.numeral 16 [c, d]) :: percentDecoded rest
    else 37 :: percentDecoded (a :: b :: rest)
  | b :: rest => b :: percentDecoded rest
  | [] => []

def domain? (cs : List Char) : Option (List Char) := do
  let bytes := percentDecoded (String.ofList cs).toUTF8.toList
  let text ← String.fromUTF8? ⟨bytes.toArray⟩
  let domain := (← text.toList.mapM readAs).flatten
  if (domain.splitOn '.').all isLabel then some domain else none

/-- The number that a part of a name is: hexadecimal behind `0x`, octal behind `0`. -/
def number? (part : List Char) : Option Nat :=
  let digits (base : Nat) (p : Char → Bool) (ds : List Char) : Option Nat :=
    if ds.all p then some (Reader.numeral base ds) else none
  match part with
  | [] => none
  | '0' :: 'x' :: ds => digits 16 Reader.isHexDigit ds
  | '0' :: d :: ds => digits 8 (fun c => '0' ≤ c && c ≤ '7') (d :: ds)
  | ds => digits 10 Char.isDigit ds

/-- The parts of a name between its points; a point at the end counts for nothing. -/
def parts (domain : List Char) : List (List Char) :=
  let all := domain.splitOn '.'
  if all.getLast? = some [] then all.dropLast else all

/-- Whether the last part of a name is made of digits or is a number. -/
def endsInNumber (domain : List Char) : Bool :=
  match (parts domain).getLast? with
  | some (d :: ds) => (d :: ds).all Char.isDigit || (number? (d :: ds)).isSome
  | _ => false

/-- Whether numbers make an address: each is a byte, and the last one has the room of all the bytes
that are left. -/
def isAddress (room : Nat) : List Nat → Bool
  | [] => false
  | [n] => n < room
  | n :: rest => n < 256 && 256 < room && isAddress (room / 256) rest

def ofWeb (cs : List Char) : Except UriFault Host :=
  if cs.head? = some '[' then bracketed cs
  else match domain? cs with
    | none => .error .badDomain
    | some [] => .error .emptyHost
    | some domain =>
      if endsInNumber domain then
        if ((parts domain).mapM number?).any (isAddress 0x100000000) then
          .ok (.address (String.ofList domain))
        else .error .badIPv4
      else .ok (.name (String.ofList domain))

end GraphRepo.Host
