import GraphRepo.Repository.Marker

/-!
# Traits after expansion

What is left of a repository trait next to its implementation: the trait without the generator's
attributes, with the attribute for asynchronous methods unless it has one.
-/

namespace GraphRepo

open Source

/-- A text with which everything stops. -/
structure Abort where
  message : String
  deriving DecidableEq, Repr

/-- Whether an attribute is the one for asynchronous methods, wherever it is imported from. -/
def isAsyncAttribute (a : Attribute) : Bool := a.endsIn "async_trait"

/-- The names of the segments of a path, as an attribute's path can have them: arguments are not
allowed there, and `try` is no name. -/
def attributeNames (first : Bool) : List Segment → Except Abort (List String)
  | [] => .ok []
  | .plain name :: rest =>
    if name = "try" then
      .error ⟨if first then "expected identifier, found keyword `try`"
        else "expected path segment after `::`"⟩
    else (attributeNames false rest).map (name :: ·)
  | .angled _ turbofish _ _ :: _ =>
    .error ⟨if turbofish then "expected path segment after `::`"
      else "unexpected token, expected `]`"⟩
  | .called _ _ :: _ => .error ⟨"unexpected token, expected `]`"⟩

def asyncAttribute : Path → Except Abort Attribute
  | .segments leading qualifier last =>
    (attributeNames true (qualifier ++ [last])).map fun names =>
      ⟨false, ⟨leading, names ++ ["__private", "async_trait"]⟩, .nothing⟩

/-- A trait without the generator's attributes, with the attribute for asynchronous methods. -/
def cleanTrait (t : Trait) (runtime : Path) : Except Abort Trait :=
  let stripped := stripTrait t
  if stripped.attributes.any isAsyncAttribute then .ok stripped
  else (asyncAttribute runtime).map fun a =>
    { stripped with attributes := a :: stripped.attributes }

end GraphRepo
