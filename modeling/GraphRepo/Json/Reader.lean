import GraphRepo.Json
import GraphRepo.Text.Reader

/-!
# JSON text, read

A number without fraction and exponent that fits 64 bits is a whole number, every other one a
double; `-0` is the double. A text that is not JSON has no value.
-/

namespace GraphRepo.Json

open Text Text.Reader

def isGap (c : Char) : Bool := c = ' ' || c = '\n' || c = '\r' || c = '\t'

def skipGap : Reader Unit := discard (takeWhile isGap)

def escape : Reader Char := do
  match ← char with
  | 'n' => return '\n'
  | 't' => return '\t'
  | 'r' => return '\r'
  | 'b' => return '\x08'
  | 'f' => return '\x0c'
  | 'u' =>
    let high ← hexNumeral 4
    if 0xD800 ≤ high ∧ high < 0xDC00 then
      exactly ['\\', 'u']
      let low ← hexNumeral 4
      if low < 0xDC00 then failure
      scalar (0x10000 + (high - 0xD800) * 1024 + (low - 0xDC00))
    else scalar high
  | c => if c = '\\' ∨ c = '/' ∨ c = '\x22' then return c else failure

/-- The characters of a string up to its closing quote, at most `fuel` of them. -/
def stringBody : Nat → List Char → Reader (List Char)
  | 0, _ => failure
  | fuel + 1, done => do
    let c ← char
    if c = '\x22' then return done.reverse
    else if c = '\\' then stringBody fuel ((← escape) :: done)
    else stringBody fuel (c :: done)

/-- A string after its opening quote. -/
def stringText : Reader String := do
  return String.ofList (← stringBody ((← left) + 1) [])

def number : Reader Json := do
  let negative ← takes ['-']
  let whole ← takeSome Char.isDigit
  let fraction ← (do exactly ['.']; takeSome Char.isDigit) <|> pure []
  let exponent ← (do
    discard (charThat fun c => c = 'e' || c = 'E')
    let minus ← takes ['-']
    if !minus then discard (takes ['+'])
    let n : Int := numeral 10 (← takeSome Char.isDigit)
    return some (if minus then -n else n)) <|> pure none
  let m := numeral 10 (whole ++ fraction)
  let asDouble := ofDouble (.ofDecimal negative m (exponent.getD 0 - fraction.length))
  if !fraction.isEmpty ∨ exponent.isSome ∨ (negative ∧ m = 0) then return asDouble
  match Whole.ofInt? (if negative then -m else m) with
  | some w => return .int w
  | none => return asDouble

mutual

/-- A value, nested at most `fuel` deep or wide. -/
def value : Nat → Reader Json
  | 0 => failure
  | fuel + 1 => do
    skipGap
    match ← peek with
    | some 'n' => exactly "null".toList; return .null
    | some 't' => exactly "true".toList; return .bool true
    | some 'f' => exactly "false".toList; return .bool false
    | some '\x22' => discard char; return .string (← stringText)
    | some '[' =>
      discard char
      skipGap
      if ← takes [']'] then return .array [] else return .array (← items fuel)
    | some '\x7b' =>
      discard char
      skipGap
      if ← takes ['\x7d'] then return .object [] else return ofEntries (← entries fuel)
    | _ => number

/-- The items of a list, up to its bracket. -/
def items : Nat → Reader (List Json)
  | 0 => failure
  | fuel + 1 => do
    let v ← value fuel
    skipGap
    match ← char with
    | ',' => return v :: (← items fuel)
    | ']' => return [v]
    | _ => failure

/-- The entries of an object, up to its brace. -/
def entries : Nat → Reader (List (String × Json))
  | 0 => failure
  | fuel + 1 => do
    skipGap
    exactly ['\x22']
    let key ← stringText
    skipGap
    exactly [':']
    let v ← value fuel
    skipGap
    match ← char with
    | ',' => return (key, v) :: (← entries fuel)
    | '\x7d' => return [(key, v)]
    | _ => failure

end

def parse? (text : String) : Option Json :=
  Reader.whole? (do
    let v ← value (text.length + 1)
    skipGap
    return v) text.toList

end GraphRepo.Json
