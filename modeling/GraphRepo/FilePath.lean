/-!
# File paths

A path is a text cut at slashes into components. Slashes in a row and at the end count for nothing,
and neither does a `.` that is not the first component; `..` is a component of its own.
-/

namespace GraphRepo.FilePath

/-- A component of a path. -/
inductive Component
  | root
  /-- `.`, at the start. -/
  | current
  /-- `..`. -/
  | parent
  | normal (name : String)
  deriving DecidableEq, Repr

def pieces : List Char → List (List Char)
  | [] => [[]]
  | c :: rest =>
    if c = '/' then [] :: pieces rest
    else match pieces rest with
      | [] => [[c]]
      | p :: ps => (c :: p) :: ps

def component? (piece : List Char) : Option Component :=
  match piece with
  | [] => none
  | ['.'] => none
  | ['.', '.'] => some .parent
  | _ => some (.normal (String.ofList piece))

def components (path : String) : List Component :=
  match path.toList with
  | [] => []
  | '/' :: rest => .root :: (pieces rest).filterMap component?
  | cs =>
    match pieces cs with
    | ['.'] :: rest => .current :: rest.filterMap component?
    | ps => ps.filterMap component?

/-- Whether a path starts at the root. -/
def isAbsolute (path : String) : Bool :=
  match path.toList with
  | '/' :: _ => true
  | _ => false

/-- The start of a path that is no piece of it, the root or a leading `.`, and the rest. -/
def splitStart : List Char → List Char × List Char
  | '/' :: rest => (['/'], rest)
  | ['.'] => (['.'], [])
  | '.' :: '/' :: rest => (['.'], '/' :: rest)
  | cs => ([], cs)

/-- The paths above some pieces, from the last piece to the first: a path ends at a piece that
counts, and above a leading `.` is the empty path. -/
def pathsAbove (head : List Char) : List (List Char) → List String
  | [] => if head = ['.'] then [""] else []
  | piece :: above =>
    if (component? piece).isNone then pathsAbove head above
    else
      let kept := (above.dropWhile fun p => (component? p).isNone).reverse
      String.ofList (head ++ ['/'].intercalate kept) :: pathsAbove head above

/-- A path and those above it, each a text at the start of the one before. -/
def ancestors (path : String) : List String :=
  let (head, rest) := splitStart path.toList
  path :: pathsAbove head (pieces rest).reverse

/-- A path behind another; an absolute one replaces it. -/
def join (base path : String) : String :=
  if isAbsolute path then path
  else if base.isEmpty || base.toList.getLast? = some '/' then base ++ path
  else base ++ "/" ++ path

/-- The components behind those of `base`, if the others start with them. -/
def dropBase? : List Component → List Component → Option (List Component)
  | [], file => some file
  | _ :: _, [] => none
  | b :: base, f :: file => if b = f then dropBase? base file else none

/-- The text before the last dot and the text behind it. -/
def splitLastDot : List Char → Option (List Char × List Char)
  | [] => none
  | c :: rest =>
    match splitLastDot rest with
    | some (before, after) => some (c :: before, after)
    | none => if c = '.' then some ([], rest) else none

/-- The stem and the extension of a file name: what stands before and behind its last dot. A name
whose only dot is its first character has no extension. -/
def stemAndExtension? (name : String) : Option (String × String) :=
  match splitLastDot name.toList with
  | some (c :: before, after) => some (String.ofList (c :: before), String.ofList after)
  | _ => none

def Component.name? : Component → Option String
  | .normal name => some name
  | _ => none

end GraphRepo.FilePath
