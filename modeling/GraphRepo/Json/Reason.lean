/-!
# Reasons

The reason why something could not be written as JSON may name at its end a line and a column. The
two are numbers then, and written as such; line 0 is no place, and nothing is said about it.
-/

namespace GraphRepo.Json

/-- The text before the last place in a text where `mark` stands, and the text behind it. -/
def splitLast (mark : List Char) : List Char → Option (List Char × List Char)
  | [] => none
  | c :: rest =>
    match splitLast mark rest with
    | some (before, after) => some (c :: before, after)
    | none =>
      if mark.isPrefixOf (c :: rest) then some ([], (c :: rest).drop mark.length) else none

/-- The number below 2⁶⁴ that digits make. -/
def word? (digits : List Char) : Option Nat :=
  if digits.isEmpty || !digits.all Char.isDigit then none
  else
    let n := digits.foldl (fun n c => 10 * n + (c.toNat - 48)) 0
    if n < 18446744073709551616 then some n else none

/-- The line and the column at the end of a text, and the text before them. -/
def splitPlace (reason : List Char) : Option (List Char × Nat × Nat) := do
  let (before, after) ← splitLast " at line ".toList reason
  let (line, rest) := after.span Char.isDigit
  if !" column ".toList.isPrefixOf rest then none
  return (before, ← word? line, ← word? (rest.drop 8))

/-- A reason with the place at its end as numbers, and without it if it is none. -/
def plainReason (reason : String) : String :=
  match splitPlace reason.toList with
  | none => reason
  | some (before, line, column) =>
    if line = 0 then String.ofList before
    else String.ofList before ++ " at line " ++ toString line ++ " column " ++ toString column

end GraphRepo.Json
