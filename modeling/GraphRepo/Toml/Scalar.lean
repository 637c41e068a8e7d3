import GraphRepo.Settings.Value
import GraphRepo.Text.Reader

/-!
# Strings, numbers and dates in TOML
-/

namespace GraphRepo.Toml

open Text Text.Reader

def isPlain (c : Char) : Bool := c = '\t' || (32 ≤ c.toNat && c.toNat ≠ 127)

def skipBlanks : Reader Unit := discard (takeWhile fun c => c = ' ' || c = '\t')

def newline : Reader Unit := exactly ['\n'] <|> exactly ['\r', '\n']

/-! ## Strings -/

def escape : Reader Char := do
  match ← char with
  | 'b' => return '\x08'
  | 't' => return '\t'
  | 'n' => return '\n'
  | 'f' => return '\x0c'
  | 'r' => return '\r'
  | 'u' => scalar (← hexNumeral 4)
  | 'U' => scalar (← hexNumeral 8)
  | c => if c = '\x22' ∨ c = '\\' then return c else failure

/-- The characters of a string on one line up to its closing quote; `fuel` bounds them. -/
def lineBody (quote : Char) : Nat → Reader (List Char)
  | 0 => failure
  | fuel + 1 => do
    let c ← char
    if c = quote then return []
    else if c = '\\' ∧ quote = '\x22' then return (← escape) :: (← lineBody quote fuel)
    else if isPlain c then return c :: (← lineBody quote fuel)
    else failure

def skipLines : Nat → Reader Unit
  | 0 => return ()
  | fuel + 1 => do
    skipBlanks
    (do newline; skipLines fuel) <|> pure ()

/-- The characters of a string of several lines up to its three closing quotes; `fuel` bounds them.
Up to two quotes more belong to the string. -/
def blockBody (quote : Char) : Nat → Reader (List Char)
  | 0 => failure
  | fuel + 1 => do
    let quotes ← takeWhile (· = quote)
    if 3 ≤ quotes.length then
      if 5 < quotes.length then failure
      return quotes.drop 3
    (do newline; return quotes ++ '\n' :: (← blockBody quote fuel)) <|> do
      let c ← char
      if c = '\\' ∧ quote = '\x22' then
        (do
          skipBlanks
          newline
          skipLines (← left)
          return quotes ++ (← blockBody quote fuel)) <|>
          (do return quotes ++ (← escape) :: (← blockBody quote fuel))
      else if isPlain c then return quotes ++ c :: (← blockBody quote fuel)
      else failure

def lineString (quote : Char) : Reader String := do
  exactly [quote]
  return String.ofList (← lineBody quote ((← left) + 1))

/-- A string in three of the given quotes; an end of line right behind them is not part of it. -/
def blockString (quote : Char) : Reader String := do
  exactly [quote, quote, quote]
  newline <|> pure ()
  return String.ofList (← blockBody quote ((← left) + 1))

def stringValue : Reader String :=
  blockString '\x22' <|> blockString '\x27' <|> lineString '\x22' <|> lineString '\x27'

/-! ## Numbers -/

/-- Digits behind a digit; single underscores may stand between them. -/
def moreDigits (p : Char → Bool) : List Char → List Char × List Char
  | [] => ([], [])
  | '_' :: c :: rest =>
    if p c then
      let (ds, after) := moreDigits p rest
      (c :: ds, after)
    else ([], '_' :: c :: rest)
  | c :: rest =>
    if p c then
      let (ds, after) := moreDigits p rest
      (c :: ds, after)
    else ([], c :: rest)

def digits (p : Char → Bool) : Reader (List Char) := do
  let first ← charThat p
  let (ds, after) := moreDigits p (← get)
  set after
  return first :: ds

/-- A sign; whether it is a minus. -/
def sign : Reader Bool := do
  if ← takes ['-'] then return true
  discard (takes ['+'])
  return false

/-- The digits of a decimal number before its point: no zero stands before others. -/
def wholePart : Reader (List Char) :=
  (do exactly ['0']; return ['0']) <|> digits Char.isDigit

def exponent : Reader Int := do
  discard (charThat fun c => c = 'e' || c = 'E')
  let minus ← sign
  let n : Int := numeral 10 (← digits Char.isDigit)
  return if minus then -n else n

/-- A number with a fraction or an exponent. One that is too great is refused. -/
def decimal : Reader Double := do
  let minus ← sign
  let whole ← wholePart
  let (fraction, e) ← (do return (([] : List Char), ← exponent)) <|> (do
    exactly ['.']
    let fraction ← digits Char.isDigit
    return (fraction, ← exponent <|> pure 0))
  let x := Double.ofDecimal minus (numeral 10 (whole ++ fraction)) (e - fraction.length)
  if x = .infinity false then failure
  return x

/-- A number without a value, or without bounds. -/
def special : Reader Double := do
  let minus ← sign
  (do exactly "inf".toList; return .infinity minus) <|> (do exactly "nan".toList; return .nan)

def whole : Reader Int := do
  let based (mark : Char) (base : Nat) (p : Char → Bool) : Reader Int := do
    exactly ['0', mark]
    return numeral base (← digits p)
  let n ← based 'x' 16 isHexDigit <|> based 'o' 8 (fun c => '0' ≤ c && c ≤ '7')
    <|> based 'b' 2 (fun c => c = '0' || c = '1') <|> (do
      let minus ← sign
      let n : Int := numeral 10 (← wholePart)
      return if minus then -n else n)
  if -9223372036854775808 ≤ n ∧ n < 9223372036854775808 then return n else failure

/-! ## Dates -/

/-- A number of exactly `n` digits between bounds. -/
def clockNumber (n least greatest : Nat) : Reader Nat := do
  let cs ← get
  let ds := cs.take n
  if ds.length = n ∧ ds.all Char.isDigit ∧ least ≤ numeral 10 ds ∧ numeral 10 ds ≤ greatest then
    set (cs.drop n)
    return numeral 10 ds
  else failure

/-- How many days a month has. -/
def daysIn (year month : Nat) : Nat :=
  if month = 2 then
    if (year % 4 = 0 ∧ year % 100 ≠ 0) ∨ year % 400 = 0 then 29 else 28
  else if month = 4 ∨ month = 6 ∨ month = 9 ∨ month = 11 then 30
  else 31

def date : Reader Unit := do
  let year ← clockNumber 4 0 9999
  exactly ['-']
  let month ← clockNumber 2 1 12
  exactly ['-']
  discard (clockNumber 2 1 (daysIn year month))

/-- A time of day; leap seconds are accepted in any minute. -/
def time : Reader Unit := do
  discard (clockNumber 2 0 23)
  exactly [':']
  discard (clockNumber 2 0 59)
  exactly [':']
  discard (clockNumber 2 0 60)
  (do exactly ['.']; discard (takeSome Char.isDigit)) <|> pure ()

def offset : Reader Unit :=
  discard (charThat fun c => c = 'Z' || c = 'z') <|> do
    discard (charThat fun c => c = '+' || c = '-')
    discard (clockNumber 2 0 23)
    exactly [':']
    discard (clockNumber 2 0 59)

/-- A date, a time, or both. -/
def dateTime : Reader Unit :=
  (do
    date
    (do
      discard (charThat fun c => c = 'T' || c = 't' || c = ' ')
      time
      offset <|> pure ()) <|> pure ()) <|> time

/-- A number, a date or a truth value. A date is a table without entries that anybody knows. -/
def scalarValue : Reader Setting :=
  (do dateTime; return .table [])
    <|> (do return .float (← decimal)) <|> (do return .float (← special))
    <|> (do return .signed (← whole))
    <|> (do exactly "true".toList; return .bool true)
    <|> (do exactly "false".toList; return .bool false)

end GraphRepo.Toml
