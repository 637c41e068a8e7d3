import GraphRepo.Command.Terminal
import GraphRepo.Command.Usage
import GraphRepo.Repository.Pass

/-!
# Commands at work

Every command first reads all its files and stops at the first that cannot be read or is no source.
Then the repositories in them are generated; those that fail are reported and do not stop the
others.
-/

namespace GraphRepo.Command

open Source

variable {σ : Type}

def generator (c : Configuration) : Task σ Generator :=
  Task.ofExcept <|
    (Generator.ofText c.generator.runtime c.generator.moduleName).mapError .generator

def readSource [ReadableDisk σ] (file : String) : Task σ (List Item) := do
  match ReadableDisk.readFile file (← get).disk with
  | .error fault => throw (.unreadable file fault)
  | .ok text =>
    match readItems? text with
    | some items => return items
    | none => throw (.notSource file)

def discoverFile [ReadableDisk σ] (sourceRoot : Option String) (file : String) :
    Task σ (List Discovered) := do
  let items ← readSource file
  let modulePath := sourceRoot.bind fun root => modulePathFor root file
  let found := collectItems modulePath items
  Task.note .debug (file ++ ": " ++ toString found.length ++ " repository trait(s) in "
    ++ modulePath.getD "unknown module")
  return found

def discover [ReadableDisk σ] (sourceRoot : Option String) (files : List String) :
    Task σ (List Discovered) := do
  return (← files.mapM (discoverFile sourceRoot)).flatten

def generation (c : Configuration) (found : List Discovered) : Task σ Report := do
  let g ← generator c
  Task.ofExcept ((g.run found).mapError .abort)

def finish (r : Report) : Task σ Unit := do
  r.failures.forM fun failure => failure.diagnostics.forM fun d =>
    Task.note .error (failure.interface ++ ": " ++ d.message)
  if !r.isSuccess then
    throw (.failed r.failures.length (r.failures.length + r.units.length))

def runExpand [ReadableDisk σ] (c : Configuration) (file : String) (sourceRoot : Option String) :
    Task σ Unit := do
  let found ← discover sourceRoot [file]
  if found.isEmpty then
    Task.note .info ("No repository traits in " ++ file)
  else
    let report ← generation c found
    report.units.forM fun u => Task.printLine u.render
    finish report

def runCheck [ReadableDisk σ] (c : Configuration) (files : List String)
    (sourceRoot : Option String) : Task σ Unit := do
  let report ← generation c (← discover sourceRoot files)
  report.units.forM fun u => Task.note .info (u.interface ++ ": ok (" ++ toString u.methods.length
    ++ " method(s), factory `" ++ u.factory ++ "`)")
  finish report

def foundName (d : Discovered) : String :=
  qualified d.modulePath (match d.item with
    | .trait t => t.name
    | _ => "item")

def keepExternal (found : List Discovered) : Task σ (List Discovered) := do
  found.forM fun d =>
    if d.external then pure ()
    else Task.note .warn
      ("Skipping " ++ foundName d ++ ": mark it #[repository(external)] to use a generated file")
  return found.filter (·.external)

def writeReport [ReadableDisk σ] (r : Report) (output : String) :
    Task σ (WriteSummary × List String) :=
  modifyGet fun t =>
    let (summary, sink) := r.writeTo (⟨output, [], t.disk⟩ : DirectorySink σ)
    ((summary, sink.paths), { t with disk := sink.disk })

def runGenerate [ReadableDisk σ] (c : Configuration) (files : List String)
    (output sourceRoot : Option String) : Task σ Unit := do
  let report ← generation c (← keepExternal (← discover sourceRoot files))
  let output := output.getD c.generator.output
  let (summary, paths) ← writeReport report output
  paths.forM fun path => Task.note .debug ("Wrote " ++ path)
  Task.note .info
    ("Generated " ++ toString summary.written.length ++ " file(s) in " ++ output)
  summary.errors.forM fun fault => Task.note .error fault.message
  finish report
  if !summary.isSuccess then throw (.unwritten summary.errors.length)

def runPing (c : Configuration) : Task σ Unit := do
  Task.note .info ("Connecting to Neo4j at " ++ c.server.uri)
  Task.note .debug "Connecting to Neo4j"
  let client ← Task.ofExcept <| (BoltClient.ofUri c.server.uri c.server.user
    (c.server.password.getD "") (← get).network).mapError CommandFault.ofAddress
  Task.note .debug "Executing Cypher"
  match ((Statement.ofText "RETURN 1 AS ok").fetchOne BoltClient.executor).run client with
  | .error e client =>
    modify fun t => { t with seen := t.seen ++ client.seen }
    throw (.noAnswer e)
  | .ok row client =>
    modify fun t => { t with seen := t.seen ++ client.seen }
    match row with
    | none => throw .noRows
    | some row =>
      match row.get Shape.i64.decoder "ok" with
      | .ok (.int n) =>
        Task.note .info ("Neo4j is reachable (RETURN 1 -> " ++ toString n.val ++ ")")
      | .ok _ => return ()
      | .error e => throw (.badRow e)

def run [ReadableDisk σ] (c : Configuration) : Command → Task σ Unit
  | .expand file sourceRoot => runExpand c file sourceRoot
  | .check files sourceRoot => runCheck c files sourceRoot
  | .generate files output sourceRoot => runGenerate c files output sourceRoot
  | .ping => runPing c

end GraphRepo.Command

namespace GraphRepo

/-- Runs a command with the configuration that is found on the disk and in the environment. -/
def Command.runIn (environment : Configuration.Environment) (command : Command) :
    Task FileSystem Unit := do
  let c ← Task.ofExcept
    ((Configuration.load environment (← get).disk).mapError CommandFault.ofConfiguration)
  command.run c

end GraphRepo
