import GraphRepo.Repository.Sink

/-!
# A file system

Files and directories below one root, and a working directory at which relative paths start. It is
the disk that commands and sinks work on; its operations fail for the reasons a disk has.
-/

namespace GraphRepo

/-- What is at a place. -/
inductive Entry
  | file (contents : String)
  | directory
  deriving DecidableEq, Repr

/-- Files and directories by the names on the way to them; the root itself is always there. -/
structure FileSystem where
  workingDirectory : List String
  entries : List (List String × Entry)

namespace FileSystem

/-- The longest name that a place can have, in bytes. -/
def nameLimit : Nat := 255

/-- The length that a path has to stay below, in bytes. -/
def pathLimit : Nat := 4096

def entry? (fs : FileSystem) (place : List String) : Option Entry :=
  if place.isEmpty then some .directory
  else (fs.entries.find? (·.1 == place)).map (·.2)

def put (place : List String) (e : Entry) (fs : FileSystem) : FileSystem :=
  { fs with entries := fs.entries.filter (·.1 != place) ++ [(place, e)] }

/-- The names in a path, with `.` and `..` among them. -/
def names (path : String) : List String :=
  ((FilePath.pieces path.toList).map String.ofList).filter (· ≠ "")

def steps (path : String) : List String := (names path).filter (· ≠ ".")

def start (fs : FileSystem) (path : String) : List String :=
  if FilePath.isAbsolute path then [] else fs.workingDirectory

/-- Looks a name up in a directory. -/
def lookup (fs : FileSystem) (here : List String) (name : String) :
    Except DiskFault (Option Entry) :=
  if nameLimit < name.utf8ByteSize then .error .nameTooLong
  else .ok (fs.entry? (here ++ [name]))

def walk (fs : FileSystem) : List String → List String → Except DiskFault (List String)
  | here, [] => .ok here
  | here, name :: rest =>
    if name = "." then walk fs here rest
    else if name = ".." then walk fs here.dropLast rest
    else match fs.lookup here name with
      | .ok (some .directory) => walk fs (here ++ [name]) rest
      | .ok (some (.file _)) => .error .notDirectory
      | .ok none => .error .notFound
      | .error fault => .error fault

/-- Whether a path can be given to the disk at all. -/
def acceptable (path : String) : Except DiskFault Unit :=
  if path.toList.contains '\x00' then .error .nul
  else if path.isEmpty then .error .notFound
  else if pathLimit ≤ path.utf8ByteSize then .error .nameTooLong
  else .ok ()

/-- The directory that a path leads into, and the last name; none if the path ends at a directory
however it is named. -/
def locate (fs : FileSystem) (path : String) :
    Except DiskFault (List String × Option String) := do
  acceptable path
  let all := names path
  let here ← fs.walk (fs.start path) all.dropLast
  match all.getLast? with
  | none | some "." => return (here, none)
  | some ".." => return (here.dropLast, none)
  | some last => return (here, some last)

def namesDirectory (path : String) : Bool := path.toList.getLast? = some '/'

def isDirectory (fs : FileSystem) (path : String) : Bool :=
  match acceptable path, fs.walk (fs.start path) (names path) with
  | .ok _, .ok _ => true
  | _, _ => false

def makeDirectory (path : String) (fs : FileSystem) : Except DiskFault FileSystem := do
  let (here, last) ← fs.locate path
  match last with
  | none => throw .exists
  | some name =>
    if (← fs.lookup here name).isSome then throw .exists
    return fs.put (here ++ [name]) .directory

/-- Makes the first of some directories; each lies in the next, which is made before it if it is
missing. -/
def makeAll : List String → FileSystem → Except DiskFault Unit × FileSystem
  | [], fs => (.ok (), fs)
  | path :: above, fs =>
    match makeDirectory path fs with
    | .ok fs => (.ok (), fs)
    | .error .notFound =>
      match makeAll above fs with
      | (.error fault, fs) => (.error fault, fs)
      | (.ok _, fs) =>
        match makeDirectory path fs with
        | .ok fs => (.ok (), fs)
        | .error fault => (if fs.isDirectory path then .ok () else .error fault, fs)
    | .error fault => (if fs.isDirectory path then .ok () else .error fault, fs)

/-- Whether a path leads nowhere but to where paths start, so that it needs no making. -/
def isStart (path : String) : Bool :=
  FilePath.components path = [] ∨ FilePath.components path = [.root]

/-- Makes a directory with all those above it. -/
def createDirectory (path : String) : Attempt DiskFault FileSystem Unit :=
  makeAll ((FilePath.ancestors path).takeWhile fun p => !isStart p)

def writeFile (path contents : String) : Attempt DiskFault FileSystem Unit := fun fs =>
  match fs.locate path with
  | .error fault => (.error fault, fs)
  | .ok (_, none) => (.error .isDirectory, fs)
  | .ok (here, some name) =>
    if namesDirectory path then (.error .isDirectory, fs)
    else match fs.lookup here name with
      | .error fault => (.error fault, fs)
      | .ok (some .directory) => (.error .isDirectory, fs)
      | .ok _ => (.ok (), fs.put (here ++ [name]) (.file contents))

def readFile (fs : FileSystem) (path : String) : Except DiskFault String := do
  let (here, last) ← fs.locate path
  match last with
  | none => throw .isDirectory
  | some name =>
    match ← fs.lookup here name with
    | none => throw .notFound
    | some .directory => throw .isDirectory
    | some (.file contents) => if namesDirectory path then throw .notDirectory else return contents

instance : Disk FileSystem where
  createDirectory := createDirectory
  writeFile := writeFile

/-- A file system with a directory that is worked in and nothing else. -/
def ofDirectory (place : List String) : FileSystem where
  workingDirectory := place
  entries := (List.range place.length).map fun i => (place.take (i + 1), .directory)

/-- Puts a directory at a place, and those above it, where nothing is yet. -/
def plantDirectory (place : List String) (fs : FileSystem) : FileSystem :=
  ((List.range place.length).map fun i => place.take (i + 1)).foldl
    (fun fs p => if (fs.entry? p).isSome then fs else fs.put p .directory) fs

/-- Puts a file at a place, and the directories above it. -/
def plant (place : List String) (contents : String) (fs : FileSystem) : FileSystem :=
  (fs.plantDirectory place.dropLast).put place (.file contents)

/-- The place that a path leads to if everything on the way is a directory. -/
def placeOf (fs : FileSystem) (path : String) : List String :=
  (steps path).foldl (fun place step => if step = ".." then place.dropLast else place ++ [step])
    (fs.start path)

def filesBelow (place : List String) (fs : FileSystem) : Table String :=
  Table.ofList <| fs.entries.filterMap fun (p, e) =>
    match e with
    | .file contents =>
      if place.isPrefixOf p then some ("/".intercalate (p.drop place.length), contents) else none
    | .directory => none

end FileSystem

end GraphRepo
