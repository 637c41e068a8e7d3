/-!
# Doubles

A double is its 64 bits. Nothing here calculates with doubles: they are read from decimals and
whole numbers, compared bit by bit, and written, so exact arithmetic on their parts is enough.
-/

namespace GraphRepo

/-- A floating-point number of 64 bits, by its bits: sign, 11 bits of exponent, 52 of fraction. -/
structure Double where
  bits : UInt64
  deriving DecidableEq, Repr

namespace Double

def isNegative (x : Double) : Bool := x.bits.toNat / Nat.pow 2 63 % 2 = 1

def exponentField (x : Double) : Nat := x.bits.toNat / Nat.pow 2 52 % Nat.pow 2 11

def fractionField (x : Double) : Nat := x.bits.toNat % Nat.pow 2 52

/-- Neither infinite nor not a number. -/
def isFinite (x : Double) : Bool := x.exponentField ≠ 2047

/-- The result of an operation without one. -/
def isNaN (x : Double) : Bool := x.exponentField = 2047 && x.fractionField ≠ 0

/-- A finite double is `mantissa · 2 ^ scale`, up to its sign. -/
def mantissa (x : Double) : Nat :=
  if x.exponentField = 0 then x.fractionField else x.fractionField + Nat.pow 2 52

/-- A finite double is `mantissa · 2 ^ scale`, up to its sign. -/
def scale (x : Double) : Int :=
  if x.exponentField = 0 then -1074 else (x.exponentField : Int) - 1075

/-- Puts a sign before the other 63 bits. -/
def ofMagnitude (negative : Bool) (magnitude : Nat) : Double :=
  ⟨UInt64.ofNat (magnitude + if negative then Nat.pow 2 63 else 0)⟩

def zero (negative : Bool) : Double := ofMagnitude negative 0

def infinity (negative : Bool) : Double := ofMagnitude negative (2047 * Nat.pow 2 52)

/-- The quiet result of an operation without one. -/
def nan : Double := ofMagnitude false (2047 * Nat.pow 2 52 + Nat.pow 2 51)

/-- `num / den` to the nearest whole number, a half to the even neighbour. -/
def roundHalfEven (num den : Nat) : Nat :=
  let floor := num / den
  let twice := 2 * (num % den)
  if twice < den then floor
  else if den < twice then floor + 1
  else if floor % 2 = 0 then floor else floor + 1

/-- `num / den / 2 ^ q` as a fraction of whole numbers. -/
def shifted (num den : Nat) (q : Int) : Nat × Nat :=
  if q < 0 then (num * Nat.pow 2 q.natAbs, den) else (num, den * Nat.pow 2 q.natAbs)

/-- The double nearest to `num / den`, a half to the one with the even mantissa. -/
def ofRatio (negative : Bool) (num den : Nat) : Double :=
  if num = 0 then zero negative
  else
    let q₀ : Int := (num.log2 : Int) - den.log2 - 53
    let (n₀, d₀) := shifted num den q₀
    let q := max (-1074) (if d₀ * Nat.pow 2 53 ≤ n₀ then q₀ + 1 else q₀)
    let (n, d) := shifted num den q
    let magnitude := (q + 1074).toNat * Nat.pow 2 52 + roundHalfEven n d
    if magnitude < 2047 * Nat.pow 2 52 then ofMagnitude negative magnitude else infinity negative

/-- The double nearest to a whole number. -/
def ofInt (n : Int) : Double := ofRatio (decide (n < 0)) n.natAbs 1

/-- The double nearest to `m · 10 ^ e`. Exponents far outside the range of doubles are not
raised. -/
def ofDecimal (negative : Bool) (m : Nat) (e : Int) : Double :=
  let size : Int := (Nat.toDigits 10 m).length + e
  if m = 0 ∨ size < -400 then zero negative
  else if 400 < size then infinity negative
  else if e < 0 then ofRatio negative m (Nat.pow 10 e.natAbs)
  else ofRatio negative (m * Nat.pow 10 e.natAbs) 1

end Double

end GraphRepo
