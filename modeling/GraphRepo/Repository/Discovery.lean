import GraphRepo.FilePath
import GraphRepo.Repository.Arguments

/-!
# Repositories in source files

The traits of a file that carry the attribute, with the modules they stand in, and the module that a
file is.
-/

namespace GraphRepo

open Source

/-- A repository found in a file. -/
structure Discovered where
  item : Item
  modulePath : Option String
  /-- Whether its implementation comes from a file. -/
  external : Bool

/-- Whether an attribute says that the implementation comes from a file. Malformed arguments say
nothing. -/
def saysExternal (a : Attribute) : Bool :=
  match Arguments.ofAttribute a with
  | .ok args => args.external
  | .error _ => false

def discoverTrait (t : Trait) (modulePath : Option String) : Option Discovered :=
  let marks := t.attributes.filter isRepositoryAttribute
  if marks.isEmpty then none
  else some ⟨.trait t, modulePath, marks.any saysExternal⟩

mutual

def collectItem (modulePath : Option String) : Item → List Discovered
  | .trait t => (discoverTrait t modulePath).toList
  | .module _ name _ items => collectItems (some (nested modulePath name)) items
  | _ => []
where
  /-- The path of a module inside another. -/
  nested (modulePath : Option String) (name : String) : String :=
    match modulePath with
    | some parent => parent ++ "::" ++ name
    | none => name

/-- The repositories among items that stand in the given module, in order. -/
def collectItems (modulePath : Option String) : List Item → List Discovered
  | [] => []
  | item :: rest => collectItem modulePath item ++ collectItems modulePath rest

end

/-! ## Modules of files -/

/-- The module whose file is `file`, below the directory `root` of the crate's sources. -/
def modulePathFor (root file : String) : Option String := do
  let relative ← FilePath.dropBase? (FilePath.components root) (FilePath.components file)
  let names ← relative.mapM FilePath.Component.name?
  let last ← names.getLast?
  let (stem, extension) ← FilePath.stemAndExtension? last
  guard (extension = "rs")
  let parents := names.dropLast
  let isRoot := parents.isEmpty && (stem = "lib" || stem = "main")
  return "::".intercalate
    ("crate" :: parents ++ if stem = "mod" || isRoot then [] else [stem])

end GraphRepo
