import GraphRepo.Decimal.Double

/-!
# Shortest decimals

The fewest decimal digits that still read back as the same double, and of those the nearest to it.
The reals that round to `m · 2 ^ q` form an interval around it, with its ends when `m` is even; for
1, 2, … digits the two neighbours of the double on the grid of that many digits are tried against
the interval.
-/

namespace GraphRepo

/-- A decimal number `0.d₁d₂… · 10 ^ point`, that is, with the point after `point` digits. -/
structure Digits where
  digits : List Char
  point : Int
  deriving DecidableEq, Repr

namespace Double

/-- The reals that round to a double, over a common denominator. -/
structure Neighbourhood where
  value : Nat
  low : Nat
  high : Nat
  den : Nat
  closed : Bool

/-- The reals that round to the double: half way to its neighbours, the lower one being nearer
below a power of two. -/
def neighbourhood (x : Double) : Neighbourhood :=
  let m := x.mantissa
  let below := if x.fractionField = 0 ∧ 1 < x.exponentField then 1 else 2
  let up := if x.scale < 2 then 0 else (x.scale - 2).toNat
  let down := if x.scale < 2 then (2 - x.scale).toNat else 0
  let unit := Nat.pow 2 up
  { value := 4 * m * unit, low := (4 * m - below) * unit, high := (4 * m + 2) * unit,
    den := Nat.pow 2 down, closed := m % 2 = 0 }

/-- Whether the decimal `c · 10 ^ g` lies in the neighbourhood. -/
def Neighbourhood.holds (n : Neighbourhood) (c : Nat) (g : Int) : Bool :=
  let (num, den) := if g < 0 then (c, Nat.pow 10 g.natAbs) else (c * Nat.pow 10 g.natAbs, 1)
  if n.closed then n.low * den ≤ num * n.den && num * n.den ≤ n.high * den
  else n.low * den < num * n.den && num * n.den < n.high * den

/-- The grid point `c · 10 ^ g` of the neighbourhood that is nearest to its value, if the grid of
that spacing has one. -/
def Neighbourhood.pick (n : Neighbourhood) (g : Int) : Option Nat :=
  let (num, den) :=
    if g < 0 then (n.value * Nat.pow 10 g.natAbs, n.den) else (n.value, n.den * Nat.pow 10 g.natAbs)
  let floor := num / den
  let nearest := roundHalfEven num den
  let farther := if nearest = floor then floor + 1 else floor
  if n.holds nearest g then some nearest else if n.holds farther g then some farther else none

/-- The power of ten at or below the value `num / den`, near the guess `k`. -/
def decimalExponent (num den : Nat) (k : Int) : Int :=
  let reaches (e : Int) : Bool :=
    if e < 0 then den ≤ num * Nat.pow 10 e.natAbs else den * Nat.pow 10 e.natAbs ≤ num
  if reaches (k + 1) then k + 1 else if reaches k then k else k - 1

/-- Tries grids of `count` more digits, the coarsest first. -/
def refine (n : Neighbourhood) (k : Int) : Nat → Nat → Nat × Int
  | 0, _ => (0, 0)
  | count + 1, used =>
    let g := k - used
    match n.pick g with
    | some c => (c, g)
    | none => refine n k count (used + 1)

/-- The shortest digits of a finite double other than zero. -/
def shortest (x : Double) : Digits :=
  let n := x.neighbourhood
  let guess : Int := ((n.value.log2 : Int) - n.den.log2) * 1233 / 4096
  let k := decimalExponent n.value n.den guess
  let (c, g) := refine n k 18 0
  let ds := Nat.toDigits 10 c
  { digits := (ds.reverse.dropWhile (· = '0')).reverse, point := ds.length + g }

end Double

end GraphRepo
