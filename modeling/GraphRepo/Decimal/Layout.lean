import GraphRepo.Decimal.Shortest

/-!
# Layouts of decimals

How the digits of a double are set: where positional notation ends, whether a whole number keeps
`.0`, and the sign of a positive exponent.
-/

namespace GraphRepo

/-- The decisions of one way to write doubles. -/
structure DoubleLayout where
  /-- The least decimal exponent that is written positionally. -/
  plainFrom : Int
  /-- The least decimal exponent from there on that is not. -/
  plainBelow : Int
  /-- Whether a whole number in positional notation ends in `.0`. -/
  pointZero : Bool
  /-- Whether a positive exponent has its sign. -/
  plus : Bool

namespace DoubleLayout

/-- In JSON: positional from 10⁻⁵ to below 10¹⁶, `1.0`, `1e+16`, `1e-6`. -/
def json : DoubleLayout := ⟨-5, 16, true, true⟩

/-- In a debugging text: positional from 10⁻⁴ to below 10¹⁶, `1.0`, `1e16`, `1e-5`. -/
def debug : DoubleLayout := ⟨-4, 16, true, false⟩

/-- For display: always positional, `1`, `0.5`. -/
def display : DoubleLayout := ⟨-400, 400, false, false⟩

/-- Digits with the point after `point` of them, filled up with zeros. -/
def plain (layout : DoubleLayout) (d : Digits) : List Char :=
  let whole := d.digits.take d.point.toNat ++ List.replicate (d.point.toNat - d.digits.length) '0'
  let fraction := List.replicate (-d.point).toNat '0' ++ d.digits.drop d.point.toNat
  (if whole.isEmpty then ['0'] else whole) ++
    (if fraction.isEmpty then (if layout.pointZero then ['.', '0'] else []) else '.' :: fraction)

def scientific (layout : DoubleLayout) (d : Digits) : List Char :=
  let exponent := d.point - 1
  let sign := if exponent < 0 then ['-'] else if layout.plus then ['+'] else []
  d.digits.take 1 ++ (if d.digits.length ≤ 1 then [] else '.' :: d.digits.drop 1) ++
    'e' :: sign ++ Nat.toDigits 10 exponent.natAbs

def chars (layout : DoubleLayout) (x : Double) : List Char :=
  let sign := if x.isNegative then ['-'] else []
  if x.isNaN then ['N', 'a', 'N']
  else if !x.isFinite then sign ++ ['i', 'n', 'f']
  else if x.mantissa = 0 then sign ++ ['0'] ++ (if layout.pointZero then ['.', '0'] else [])
  else
    let d := x.shortest
    sign ++ (if layout.plainFrom < d.point ∧ d.point ≤ layout.plainBelow then layout.plain d
      else layout.scientific d)

def text (layout : DoubleLayout) (x : Double) : String := String.ofList (layout.chars x)

end DoubleLayout

end GraphRepo
