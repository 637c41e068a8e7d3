import GraphRepo.Text.Reader

/-!
# Hosts

A host is named or has an address made of numbers. Which hosts a text can be depends on the scheme
in front of it; common to all are addresses in square brackets.
-/

namespace GraphRepo

/-- Why a text is no URI. -/
inductive UriFault
  | emptyHost
  | badHost
  /-- A name that the domain name system has no place for. -/
  | badDomain
  | badIPv4
  | badIPv6
  | badSocket
  deriving DecidableEq, Repr

def UriFault.message : UriFault → String
  | .emptyHost => "empty host"
  | .badHost => "invalid domain character"
  | .badDomain => "invalid international domain name"
  | .badIPv4 => "invalid IPv4 address"
  | .badIPv6 => "invalid IPv6 address"
  | .badSocket => "invalid port number"

/-- A host, as it is written. -/
inductive Host
  | name (text : String)
  /-- An address made of numbers. -/
  | address (text : String)
  deriving DecidableEq, Repr

namespace Host

def groups (cs : List Char) : List (List Char) := cs.splitOn ':'

def isGroup (g : List Char) : Bool :=
  1 ≤ g.length && g.length ≤ 4 && g.all Text.Reader.isHexDigit

/-- A number below 256 without leading zeros. -/
def isByte (cs : List Char) : Bool :=
  1 ≤ cs.length && cs.length ≤ 3 && cs.all Char.isDigit && (cs.length = 1 || cs.head? ≠ some '0')
    && Text.Reader.numeral 10 cs < 256

def isIPv4 (cs : List Char) : Bool :=
  let parts := cs.splitOn '.'
  parts.length = 4 && parts.all isByte

/-- How many groups a list of groups stands for; its last may be an address of four bytes. -/
def groupCount? : List (List Char) → Option Nat
  | [] => some 0
  | [g] => if isGroup g then some 1 else if isIPv4 g then some 2 else none
  | g :: rest => if isGroup g then (groupCount? rest).map (· + 1) else none

/-- How many groups a text stands for; an empty one stands for none. -/
def groupsIn? (cs : List Char) : Option Nat :=
  if cs.isEmpty then some 0 else groupCount? (groups cs)

/-- The text before the first two colons in a row, and the text behind them. -/
def splitGap : List Char → Option (List Char × List Char)
  | ':' :: ':' :: rest => some ([], rest)
  | c :: rest => (splitGap rest).map fun (before, after) => (c :: before, after)
  | [] => none

/-- Eight groups, of which two colons in a row may leave some out. -/
def isIPv6 (cs : List Char) : Bool :=
  match splitGap cs with
  | none => groupsIn? cs = some 8
  | some (before, after) =>
    match groupsIn? before, groupsIn? after with
    | some m, some n => m + n < 8 && !before.contains '.'
    | _, _ => false

def bracketed (cs : List Char) : Except UriFault Host :=
  if cs.getLast? = some ']' ∧ isIPv6 cs.tail.dropLast then .ok (.address (String.ofList cs))
  else .error .badIPv6

/-- What may not stand in a host. -/
def isForbidden (c : Char) : Bool :=
  c.toNat = 0 || "\t\n\r #/:<>?@[\\]^|".toList.contains c

def percentByte (b : UInt8) : List Char :=
  ['%', (Nat.digitChar (b.toNat / 16)).toUpper, (Nat.digitChar (b.toNat % 16)).toUpper]

/-- A character, or its bytes if it is a control or outside ASCII. -/
def percentChar (c : Char) : List Char :=
  if 32 ≤ c.toNat ∧ c.toNat < 127 then [c]
  else (String.singleton c).toUTF8.toList.flatMap percentByte

/-- Reads the host behind a scheme that is not of the web: almost any text is a name. -/
def plain (cs : List Char) : Except UriFault Host :=
  if cs.head? = some '[' then bracketed cs
  else if cs.any isForbidden then .error .badHost
  else .ok (.name (String.ofList (cs.flatMap percentChar)))

end Host

end GraphRepo
