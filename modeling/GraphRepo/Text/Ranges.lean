/-!
# Ranges of code points

A class of characters is given by the closed ranges it consists of, flattened to an ascending list
`lo₁, hi₁, lo₂, hi₂, …`, so that one walk from the left decides membership.
-/

namespace GraphRepo.Text

/-- Whether `n` lies in one of the closed ranges `lo₁, hi₁, lo₂, hi₂, …`, which must ascend. -/
def inRanges : List Nat → Nat → Bool
  | lo :: hi :: rest, n => if n < lo then false else if n ≤ hi then true else inRanges rest n
  | _, _ => false

end GraphRepo.Text
