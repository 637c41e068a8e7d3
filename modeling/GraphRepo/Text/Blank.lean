import GraphRepo.Text.Ranges

/-!
# White space

The Unicode property `White_Space`.
-/

namespace GraphRepo.Text

/-- The ranges of the property `White_Space`. -/
def blankRanges : List Nat := [
  9, 13, 32, 32, 133, 133, 160, 160, 5760, 5760, 8192, 8202, 8232, 8233, 8239, 8239, 8287, 8287,
  12288, 12288]

/-- Whether the character has the property `White_Space`. -/
def isBlank (c : Char) : Bool := inRanges blankRanges c.toNat

/-- The text without white space at its ends. -/
def trim (s : List Char) : List Char :=
  ((s.dropWhile isBlank).reverse.dropWhile isBlank).reverse

end GraphRepo.Text
