import GraphRepo.Settings.Value
import GraphRepo.Text.Blank
import GraphRepo.Text.Cut
import GraphRepo.Text.Reader

/-!
# Settings in one line

How the value of an environment variable is read: truth values, quoted texts, single characters,
lists, tables and numbers; any other text stands for itself, without white space at its ends. A text
that is not read to its end stands for itself too, as it is.

A quoted text without escapes is taken as it is. With escapes, what stands before the first is cut
to as many bytes as it has characters; where that falls inside a character, no value is read at
all.
-/

namespace GraphRepo.Literal

open Text Text.Reader

def isGap (c : Char) : Bool := c = ' ' || c = '\t' || c = '\n' || c = '\r' || c = '\x0c'

def isBare (c : Char) : Bool :=
  c ≠ ',' && c ≠ '[' && c ≠ ']' && c ≠ '\x7b' && c ≠ '\x7d'

def isKeyChar (c : Char) : Bool := c.isAlphanum || c = '_' || c = '-'

def skipGap : Reader Unit := discard (takeWhile isGap)

/-- What stands between quotes, up to the first quote that no backslash precedes. -/
def quotedSpan : List Char → Option (List Char × List Char)
  | [] => none
  | '\\' :: c :: rest => (quotedSpan rest).map fun (body, after) => ('\\' :: c :: body, after)
  | c :: rest =>
    if c = '\x22' then some ([], rest)
    else (quotedSpan rest).map fun (body, after) => (c :: body, after)

def quotedBody : Reader (List Char) := quotedSpan

def isQuotable (c : Char) : Bool := c = '\t' || (32 ≤ c.toNat && c.toNat ≠ 127)

/-- A reader of settings, which a cut inside a character stops for good. -/
abbrev SettingReader := ExceptT CutFault Reader

/-- The text with its escapes resolved; `fuel` bounds its length. -/
def unescape : Nat → Reader (List Char)
  | 0 => return []
  | fuel + 1 => do
    match ← peek with
    | none => return []
    | some '\\' =>
      discard char
      let c ← (do
        match ← char with
        | 'b' => return '\x08'
        | 'f' => return '\x0c'
        | 'n' => return '\n'
        | 'r' => return '\r'
        | 't' => return '\t'
        | 'u' => scalar (← hexNumeral 4)
        | 'U' => scalar (← hexNumeral 8)
        | c => if c = '\x22' ∨ c = '\\' then return c else failure)
      return c :: (← unescape fuel)
    | some _ => return (← charThat isQuotable) :: (← unescape fuel)

def quotedValue? (body : List Char) : Option (Except CutFault (List Char)) :=
  let plain := body.takeWhile (· ≠ '\\')
  let escaped := body.drop plain.length
  if !plain.all isQuotable then none
  else if escaped.isEmpty then some (.ok plain)
  else match cutAfter plain.length 0 plain with
    | .error fault => some (.error fault)
    | .ok kept => ((unescape escaped.length).whole? escaped).map fun text => .ok (kept ++ text)

def quotedText : SettingReader String := do
  exactly ['\x22']
  let body ← quotedBody
  let text ← ExceptT.mk fun rest => (quotedValue? body).map fun value => (value, rest)
  return String.ofList text

def key : SettingReader String := do
  if (← peek) = some '\x22' then quotedText else return String.ofList (← takeSome isKeyChar)

/-- An unsigned number, with a plus sign or without. -/
def unsigned? (cs : List Char) : Option Nat :=
  let ds := match cs with
    | '+' :: ds => ds
    | ds => ds
  if !ds.isEmpty ∧ ds.all Char.isDigit ∧ numeral 10 ds < 18446744073709551616 then
    some (numeral 10 ds)
  else none

def signed? (cs : List Char) : Option Int :=
  match cs with
  | '-' :: ds =>
    if !ds.isEmpty ∧ ds.all Char.isDigit ∧ numeral 10 ds ≤ 9223372036854775808 then
      some (-(numeral 10 ds : Int))
    else none
  | _ => none

/-- A decimal with a point; a digit stands on one side of it at least. -/
def decimal : Reader Double := do
  let minus ← takes ['-']
  if !minus then discard (takes ['+'])
  let whole ← takeWhile Char.isDigit
  let fraction ← (do exactly ['.']; takeWhile Char.isDigit)
  if whole.isEmpty ∧ fraction.isEmpty then failure
  let exponent ← (do
    discard (charThat fun c => c = 'e' || c = 'E')
    let negative ← takes ['-']
    if !negative then discard (takes ['+'])
    let n : Int := numeral 10 (← takeSome Char.isDigit)
    return if negative then -n else n) <|> pure 0
  return .ofDecimal minus (numeral 10 (whole ++ fraction)) (exponent - fraction.length)

/-- What a bare text stands for: a number if it looks like one, otherwise itself. -/
def ofBare (cs : List Char) : Setting :=
  match decimal.whole? cs with
  | some x => .float x
  | none =>
    match unsigned? cs, signed? cs with
    | some n, _ => .unsigned n
    | none, some n => .signed n
    | none, none => .string (String.ofList cs)

mutual

/-- A value with the white space around it; `fuel` bounds its parts. -/
def literal : Nat → SettingReader Setting
  | 0 => (failure : Reader Setting)
  | fuel + 1 => do
    skipGap
    let v ← (do
      if ← takes "true".toList then return .bool true
      if ← takes "false".toList then return .bool false
      match ← peek with
      | some '\x7b' => discard char; return .table (Table.ofList (← literalEntries fuel))
      | some '[' => discard char; return .list (← literalItems fuel)
      | some '\x22' => return .string (← quotedText)
      | some '\x27' =>
        discard char
        let c ← char
        exactly ['\x27']
        return .string (String.singleton c)
      | _ => return ofBare (trim (← takeWhile isBare)))
    skipGap
    return v

/-- The items of a list after its bracket; a comma may follow the last. -/
def literalItems : Nat → SettingReader (List Setting)
  | 0 => (failure : Reader (List Setting))
  | fuel + 1 => do
    if ← takes [']'] then return []
    let v ← literal fuel
    if ← takes [','] then return v :: (← literalItems fuel)
    exactly [']']
    return [v]

/-- The entries of a table after its brace; a comma may follow the last. -/
def literalEntries : Nat → SettingReader (List (String × Setting))
  | 0 => (failure : Reader (List (String × Setting)))
  | fuel + 1 => do
    if ← takes ['\x7d'] then return []
    skipGap
    let name ← key
    skipGap
    exactly ['=']
    let v ← literal fuel
    if ← takes [','] then return (name, v) :: (← literalEntries fuel)
    exactly ['\x7d']
    return [(name, v)]

end

def setting (text : String) : Except CutFault Setting :=
  let cs := text.toList
  match (literal (cs.length + 1)).run cs with
  | some (.error fault, _) => .error fault
  | some (.ok value, []) => .ok value
  | _ => .ok (.string text)

end GraphRepo.Literal
