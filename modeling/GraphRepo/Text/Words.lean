import GraphRepo.Text.Numeric
import GraphRepo.Text.LetterCase

/-!
# Words of a name

A name in mixed case is a list of words. A word ends at every character that is not alphanumeric,
before an upper-case character that follows a lower-case one, and before the last upper-case
character of a run that a lower-case one follows. Characters without case take the side of the
cased one before them, so a digit never starts a word.
-/

namespace GraphRepo.Text

/-- The maximal runs of characters that satisfy `p`; two neighbouring others have an empty run
between them. -/
def runs (p : Char → Bool) : List Char → List (List Char)
  | [] => [[]]
  | c :: rest =>
    if p c then
      match runs p rest with
      | [] => [[c]]
      | w :: ws => (c :: w) :: ws
    else [] :: runs p rest

/-- The case of the last cased character of the current word. -/
inductive CaseSide
  | neither
  | lower
  | upper
  deriving DecidableEq, Repr

/-- The side after `c`, when the side before it was `side`. -/
def CaseSide.after (side : CaseSide) (c : Char) : CaseSide :=
  if isLowercase c then .lower else if isUppercase c then .upper else side

/-- Cuts one alphanumeric run into words. `word` holds the current word backwards, `side` the case
seen in it. -/
def humps (side : CaseSide) (word : List Char) : List Char → List (List Char)
  | [] => []
  | [c] => [(c :: word).reverse]
  | c :: d :: rest =>
    if side.after c = .lower ∧ isUppercase d then
      (c :: word).reverse :: humps .neither [] (d :: rest)
    else if side = .upper ∧ isUppercase c ∧ isLowercase d then
      word.reverse :: humps .neither [c] (d :: rest)
    else humps (side.after c) (c :: word) (d :: rest)

def words (name : List Char) : List (List Char) :=
  (runs isAlphanumeric name).flatMap (humps .neither [])

/-- A word in lower case; a capital sigma at its end becomes the final form. -/
def lowerWord : List Char → List Char
  | [] => []
  | c :: rest =>
    (if c.toNat = 931 ∧ rest.isEmpty then [Char.ofNat 962] else lower c) ++ lowerWord rest

/-- The words of a name in lower case with underscores between them. -/
def snakeCase (name : List Char) : List Char :=
  ['_'].intercalate ((words name).map lowerWord)

end GraphRepo.Text
