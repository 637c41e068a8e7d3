import GraphRepo.Command.Run

/-!
# The program

Takes a picture of the files that matter, runs the command on it, and then does to the disk what the
command did to the picture.
-/

open GraphRepo

def usageText : String :=
  "usage: neorepo [-v] expand FILE [--src-root DIR]\n" ++
  "       neorepo [-v] check FILE... [--src-root DIR]\n" ++
  "       neorepo [-v] generate FILE... [--out DIR] [--src-root DIR]\n" ++
  "       neorepo [-v] ping"

def versionText : String := "neorepo 0.1.0"

def usageMessage : UsageFault → String
  | .help => usageText
  | .version => versionText
  | .nothing => usageText
  | .missingCommand => "a command is missing\n" ++ usageText
  | .unknownCommand => "unrecognized command\n" ++ usageText
  | .unknownArgument => "unexpected argument\n" ++ usageText
  | .missingArgument => "a file is missing\n" ++ usageText
  | .invalidValue => "a value is missing\n" ++ usageText
  | .needlessValue => "a flag takes no value\n" ++ usageText
  | .repeated => "an argument cannot be used twice\n" ++ usageText

def readEnvironment : IO Configuration.Environment := do
  let text ← try IO.FS.readFile "/proc/self/environ" catch _ => pure ""
  return Table.ofList <| (text.splitOn "\x00").filterMap fun entry =>
    match entry.splitOn "=" with
    | name :: value => if name.isEmpty then none else some (name, "=".intercalate value)
    | [] => none

/-- Adds to a picture what is at a path. -/
def picture (fs : FileSystem) (path : String) : IO FileSystem := do
  let place := fs.placeOf path
  try
    return fs.plant place (← IO.FS.readFile ("/" ++ "/".intercalate place))
  catch
    | .inappropriateType .. => return fs.plantDirectory place
    | _ => return fs

/-- Does to the disk what happened to a picture of it. -/
def develop (before after : FileSystem) : IO Unit :=
  (after.filesBelow []).forM fun (path, contents) => do
    if (before.filesBelow []).find? path ≠ some contents then
      let place := path.splitOn "/"
      IO.FS.createDirAll ("/" ++ "/".intercalate place.dropLast)
      IO.FS.writeFile ("/" ++ path) contents

def levelName : LogLevel → String
  | .error => "ERROR"
  | .warn => "WARN"
  | .info => "INFO"
  | .debug => "DEBUG"

def perform (i : Invocation) : IO Bool := do
  let environment ← readEnvironment
  let here := FileSystem.steps (← IO.currentDir).toString
  let empty : FileSystem := .ofDirectory here
  let project := (Configuration.directoriesUp empty).map (FilePath.join · Configuration.projectFile)
  let user := (Configuration.homeFile? environment).toList ++
    (Configuration.namedFile? environment).toList
  let before ← (user ++ project ++ i.command.sources).foldlM picture empty
  let network := Network.unreachable "no connection can be opened"
  let (messages, t) := match (i.command.runIn environment).run (.fresh before network) with
    | .ok _ t => ([], t)
    | .error e t => (e.messages, t)
  develop before t.disk
  (← IO.getStdout).putStr t.output
  (shownEntries i.verbose t.log).forM fun e => IO.eprintln (levelName e.1 ++ " " ++ e.2)
  messages.forM fun message => IO.eprintln ("Error: " ++ message)
  return messages.isEmpty

def main (args : List String) : IO UInt32 := do
  match Invocation.ofArguments args with
  | .ok i => return if ← perform i then 0 else 1
  | .error .help => IO.println usageText; return 0
  | .error .version => IO.println versionText; return 0
  | .error fault => IO.eprintln (usageMessage fault); return 2
