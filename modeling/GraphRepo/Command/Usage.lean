/-!
# The command line

How arguments are read. Arguments are taken one by one, first those before the name of a command,
then those of the command. The values of an option or of the list of files are complete only when
the next argument shows that no more follow, and are looked at then; an argument that nobody knows
is reported before that.
-/

namespace GraphRepo

/-- What the program is asked to do. -/
inductive Command
  /-- Print the implementation of every repository in a file. -/
  | expand (file : String) (sourceRoot : Option String)
  /-- Report what is wrong with the repositories in some files. -/
  | check (files : List String) (sourceRoot : Option String)
  /-- Write the implementations of the repositories in some files. -/
  | generate (files : List String) (output sourceRoot : Option String)
  /-- Ask the server whether it is there. -/
  | ping
  deriving DecidableEq, Repr

/-- A command and how much it says. -/
structure Invocation where
  verbose : Bool
  command : Command
  deriving DecidableEq, Repr

/-- Why arguments make no command. -/
inductive UsageFault
  | help
  | version
  /-- There is no argument at all. -/
  | nothing
  | missingCommand
  | unknownCommand
  | unknownArgument
  | missingArgument
  /-- An option has no value, or an empty one. -/
  | invalidValue
  /-- A flag has a value. -/
  | needlessValue
  /-- An option that stands for one thing is given twice. -/
  | repeated
  deriving DecidableEq, Repr

namespace Command

def sources : Command → List String
  | .expand file _ => [file]
  | .check files _ => files
  | .generate files _ _ => files
  | .ping => []

/-- What takes values. -/
inductive Slot
  | files
  | output
  | sourceRoot
  deriving DecidableEq, Repr

/-- How many files a command takes. -/
inductive FileCount
  | none
  | one
  | some
  deriving DecidableEq, Repr

/-- The arguments that are known where arguments are being read. -/
structure Level where
  files : FileCount
  takesOutput : Bool
  takesSourceRoot : Bool
  hasVersion : Bool

/-- Before the name of a command. -/
def Level.program : Level := ⟨.none, false, false, true⟩

/-- Arguments read so far, and values that are not complete yet. -/
structure Given where
  verbose : Bool
  files : List String
  output : Option String
  sourceRoot : Option String
  pending : Option (Slot × List String)
  /-- Whether `--` was given: only files follow. -/
  onlyFiles : Bool

def Given.empty : Given := ⟨false, [], none, none, none, false⟩

def Given.put (slot : Slot) (value : String) (g : Given) : Except UsageFault Given :=
  match slot with
  | .files => .ok { g with files := g.files ++ [value] }
  | .output =>
    if g.output.isSome then .error .repeated
    else if value.isEmpty then .error .invalidValue
    else .ok { g with output := some value }
  | .sourceRoot =>
    if g.sourceRoot.isSome then .error .repeated
    else if value.isEmpty then .error .invalidValue
    else .ok { g with sourceRoot := some value }

/-- Looks at the values that are complete now. -/
def Given.settle (g : Given) : Except UsageFault Given :=
  let settled := { g with pending := none }
  match g.pending with
  | none => .ok settled
  | some (.files, values) =>
    if values.contains "" then .error .invalidValue
    else .ok { settled with files := settled.files ++ values }
  | some (_, []) => .error .invalidValue
  | some (slot, value :: _) => settled.put slot value

def Given.awaits (g : Given) : Bool :=
  match g.pending with
  | some (slot, []) => slot ≠ .files
  | _ => false

/-- Turns on `verbose`. -/
def Given.raise (g : Given) : Except UsageFault Given := do
  let g ← g.settle
  if g.verbose then .error .repeated else return { g with verbose := true }

def Given.start (slot : Slot) (attached : Option String) (g : Given) : Except UsageFault Given := do
  let g ← g.settle
  match attached with
  | some value => g.put slot value
  | none => return { g with pending := some (slot, []) }

def Given.endWith (fault : UsageFault) (g : Given) : Except UsageFault Given := do
  discard g.settle
  .error fault

/-- Reads a long argument after its two hyphens. -/
def long (level : Level) (cs : List Char) (g : Given) : Except UsageFault Given :=
  let name := String.ofList (cs.takeWhile (· ≠ '='))
  let attached := match cs.dropWhile (· ≠ '=') with
    | [] => none
    | _ :: value => some (String.ofList value)
  let flag (act : Except UsageFault Given) : Except UsageFault Given :=
    if attached.isSome then .error .needlessValue else act
  if name = "verbose" then flag g.raise
  else if name = "help" then flag (g.endWith .help)
  else if name = "version" ∧ level.hasVersion then flag (g.endWith .version)
  else if name = "out" ∧ level.takesOutput then g.start .output attached
  else if name = "src-root" ∧ level.takesSourceRoot then g.start .sourceRoot attached
  else .error .unknownArgument

/-- Reads short arguments in a row after their hyphen. -/
def short (level : Level) : List Char → Given → Except UsageFault Given
  | [], g => .ok g
  | c :: rest, g =>
    if c = 'v' then do short level rest (← g.raise)
    else if c = 'h' then g.endWith .help
    else if c = 'V' ∧ level.hasVersion then g.endWith .version
    else if c = 'o' ∧ level.takesOutput then
      g.start .output (match rest with
        | [] => none
        | '=' :: value => some (String.ofList value)
        | value => some (String.ofList value))
    else .error .unknownArgument

/-- Reads an argument that is no flag and no option. -/
def file (level : Level) (value : String) (g : Given) : Except UsageFault Given :=
  match level.files, g.pending with
  | .none, _ => .error .unknownArgument
  | .one, some (.files, _) => .error .unknownArgument
  | .some, some (.files, values) => .ok { g with pending := some (.files, values ++ [value]) }
  | count, _ =>
    if count = .one ∧ !g.files.isEmpty then .error .unknownArgument
    else do return { ← g.settle with pending := some (.files, [value]) }

def argument (level : Level) (g : Given) (value : String) : Except UsageFault Given :=
  if g.onlyFiles then file level value g
  else match value.toList with
    | ['-', '-'] => .ok { g with onlyFiles := true }
    | '-' :: '-' :: name => long level name g
    | '-' :: c :: rest => short level (c :: rest) g
    | _ =>
      match g.awaits, g.pending with
      | true, some (slot, _) => .ok { g with pending := some (slot, [value]) }
      | _, _ => file level value g

def arguments (level : Level) (args : List String) : Except UsageFault Given := do
  let g ← args.foldlM (argument level) .empty
  g.settle

def names : List String := ["expand", "check", "generate", "ping"]

def ofName (name : String) (args : List String) : Except UsageFault Invocation := do
  match name with
  | "expand" =>
    let g ← arguments ⟨.one, false, true, false⟩ args
    match g.files with
    | file :: _ => return ⟨g.verbose, .expand file g.sourceRoot⟩
    | [] => .error .missingArgument
  | "check" =>
    let g ← arguments ⟨.some, false, true, false⟩ args
    if g.files.isEmpty then .error .missingArgument
    return ⟨g.verbose, .check g.files g.sourceRoot⟩
  | "generate" =>
    let g ← arguments ⟨.some, true, true, false⟩ args
    if g.files.isEmpty then .error .missingArgument
    return ⟨g.verbose, .generate g.files g.output g.sourceRoot⟩
  | _ =>
    let g ← arguments ⟨.none, false, false, false⟩ args
    return ⟨g.verbose, .ping⟩

/-- What `help` with some arguments comes to. -/
def helpOn : List String → UsageFault
  | [] => .help
  | [name] => if names.contains name ∨ name = "help" then .help else .unknownCommand
  | _ => .unknownCommand

end Command

namespace Invocation

/-- Reads arguments from those before the name of a command on. -/
def read (g : Command.Given) : List String → Except UsageFault Invocation
  | [] => .error (if g.verbose then .missingCommand else .nothing)
  | arg :: rest =>
    if g.onlyFiles then
      .error (if Command.names.contains arg ∨ arg = "help" then .unknownArgument
        else .unknownCommand)
    else if Command.names.contains arg then do
      let i ← Command.ofName arg rest
      return { i with verbose := i.verbose || g.verbose }
    else if arg = "help" then .error (Command.helpOn rest)
    else if arg.startsWith "-" ∧ arg ≠ "-" then do
      read (← Command.argument .program g arg) rest
    else .error .unknownCommand

def ofArguments (args : List String) : Except UsageFault Invocation := read .empty args

end Invocation

end GraphRepo
