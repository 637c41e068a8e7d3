import GraphRepo.FileSystem
import GraphRepo.Repository.Generator
import GraphRepo.Settings.Literal
import GraphRepo.Toml.Document

/-!
# Configuration

Where the graph database is and how repositories are generated. Settings come from the file of the
user, from the file of the project and from the environment, later ones on top; every setting has a
default.
-/

namespace GraphRepo

/-- How to reach the graph database. -/
structure ServerSettings where
  uri : String
  user : String
  password : Option String
  deriving DecidableEq, Repr

/-- How repositories are generated. -/
structure GeneratorSettings where
  runtime : String
  /-- The module of traits whose module is not known. -/
  moduleName : Option String
  /-- Where generated files go. -/
  output : String
  deriving DecidableEq, Repr

/-- The settings of the program. -/
structure Configuration where
  server : ServerSettings
  generator : GeneratorSettings
  deriving DecidableEq, Repr

def Configuration.default : Configuration where
  server := ⟨"bolt://localhost:7687", "neo4j", none⟩
  generator := ⟨defaultRuntime, none, "generated"⟩

/-- Why settings make no configuration. -/
inductive ConfigurationFault
  /-- A value is of the wrong kind. -/
  | wrongType (path : List String) (found : Setting) (expected : String)
  /-- A file is not well-formed. -/
  | malformed (file : String)
  /-- The value of a variable cannot be read at all. -/
  | cut (fault : Text.CutFault)

def ConfigurationFault.message : ConfigurationFault → String
  | .wrongType _ found expected =>
    "invalid type: found " ++ found.describe ++ ", expected " ++ expected
  | .malformed file => "malformed settings in " ++ file
  | .cut fault => fault.message

namespace Configuration

/-! ## Reading settings -/

/-- How a setting changes what is being read; the path is for messages. -/
abbrev Change (α : Type) := List String → Setting → α → Except ConfigurationFault α

/-- Reads the settings of a section by name, those of a table in the order of their names and those
of a list by position. Names that mean nothing are passed over. -/
def readSection {α : Type} (expected : String) (fields : List (String × Change α)) : Change α :=
  fun path s a =>
    match s with
    | .table entries => entries.foldlM (fun a (name, v) =>
      match fields.lookup name with
      | some change => change (path ++ [name]) v a
      | none => .ok a) a
    | .list items => ((fields.zip items).zipIdx).foldlM (fun a ((field, v), i) =>
      field.2 (path ++ [toString i]) v a) a
    | other => .error (.wrongType path other expected)

def readText {α : Type} (expected : String) (put : String → α → α) : Change α := fun path s a =>
  match s with
  | .string text => .ok (put text a)
  | other => .error (.wrongType path other expected)

/-- The settings of the server, in the order in which an array gives them. -/
def serverFields : List (String × Change ServerSettings) :=
  [("uri", readText "a string" fun text s => { s with uri := text }),
    ("user", readText "a string" fun text s => { s with user := text }),
    ("password", readText "a string" fun text s => { s with password := some text })]

/-- The settings of the generator, in the order in which an array gives them. -/
def generatorFields : List (String × Change GeneratorSettings) :=
  [("runtime", readText "a string" fun text s => { s with runtime := text }),
    ("namespace", readText "a string" fun text s => { s with moduleName := some text }),
    ("output_dir", readText "path string" fun text s => { s with output := text })]

def sections : List (String × Change Configuration) :=
  [("neo4j", fun path s c => do
      let server ← readSection "struct Neo4jConfig" serverFields path s c.server
      return { c with server }),
    ("generator", fun path s c => do
      let generator ← readSection "struct GeneratorConfig" generatorFields path s c.generator
      return { c with generator })]

def ofSettings (settings : Table Setting) : Except ConfigurationFault Configuration :=
  readSection "struct Config" sections [] (.table settings) default

/-! ## The environment -/

abbrev Environment := Table String

def variableStart : List Char := "neorepo_".toList

def pointed : List Char → List Char
  | '_' :: '_' :: rest => '.' :: pointed rest
  | c :: rest => c :: pointed rest
  | [] => []

/-- The path of the setting that a variable is, in lower case. Two underscores or a point go a level
down. A variable with an empty level is no setting. -/
def variablePath (name : String) : Option (List String) :=
  let cs := (Text.trim name.toList).map Char.toLower
  if variableStart.isPrefixOf cs then
    let levels := (Text.trim (pointed (cs.drop variableStart.length))).splitOn '.'
    if levels.any List.isEmpty then none else some (levels.map String.ofList)
  else none

/-- The table that has one value at the end of a path. -/
def nested (v : Setting) : List String → Setting
  | [] => v
  | key :: path => .table [(key, nested v path)]

def ofVariable (name text : String) : Except Text.CutFault (Table Setting) :=
  match variablePath name with
  | none => .ok []
  | some path => (Literal.setting text).map fun value =>
    match nested value path with
    | .table entries => entries
    | _ => []

def ofEnvironment (environment : Environment) : Except Text.CutFault (Table Setting) :=
  (environment.mapM fun (name, text) => ofVariable name text).map layered

/-! ## Files -/

def projectFile : String := "neorepo.toml"

/-- The working directory and those above it. -/
def directoriesUp (fs : FileSystem) : List String :=
  (List.range (fs.workingDirectory.length + 1)).reverse.map fun n =>
    "/" ++ "/".intercalate (fs.workingDirectory.take n)

/-- The contents of a file: a relative path is looked for in the working directory and in those
above it. -/
def findFile? (fs : FileSystem) (path : String) : Option String :=
  if FilePath.isAbsolute path then (fs.readFile path).toOption
  else (directoriesUp fs).findSome? fun directory =>
    (fs.readFile (FilePath.join directory path)).toOption

/-- The settings of a file; a file that is not there has none. -/
def ofFile (fs : FileSystem) (path : String) : Except ConfigurationFault (Table Setting) :=
  match findFile? fs path with
  | none => .ok []
  | some contents =>
    match Toml.parse? contents with
    | some settings => .ok settings
    | none => .error (.malformed path)

def home? (environment : Environment) : Option String :=
  (environment.find? "HOME").filter (· ≠ "")

def fileInside (directory : String) : String :=
  FilePath.join (FilePath.join directory "neorepo") "config.toml"

/-- The user's file below `.config` at home. -/
def homeFile? (environment : Environment) : Option String :=
  (home? environment).map fun home => fileInside (FilePath.join home ".config")

def namedFile? (environment : Environment) : Option String :=
  ((environment.find? "XDG_CONFIG_HOME").filter FilePath.isAbsolute).map fileInside

/-- Where the user's file is: at home if something is there, otherwise in the directory that the
environment names, and at home if it names none. -/
def userFile (environment : Environment) (fs : FileSystem) : String :=
  let home := homeFile? environment
  match home.filter fun path => (fs.readFile path).toOption.isSome || fs.isDirectory path with
  | some path => path
  | none => ((namedFile? environment).or home).getD ""

/-- The configuration with the given file of the user. A variable that cannot be read comes before
any fault of a file. -/
def loadWith (user : String) (environment : Environment) (fs : FileSystem) :
    Except ConfigurationFault Configuration := do
  let fromVariables ← (ofEnvironment environment).mapError .cut
  let layers := [← ofFile fs user, ← ofFile fs projectFile, fromVariables]
  ofSettings (layered layers)

/-- The configuration of the user. -/
def load (environment : Environment) (fs : FileSystem) : Except ConfigurationFault Configuration :=
  loadWith (userFile environment fs) environment fs

end Configuration

end GraphRepo
