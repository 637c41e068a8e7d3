import GraphRepo.Bolt.Server
import GraphRepo.Settings.Configuration

/-!
# Terminals

What a command works on: a disk, a network, a log and an output. The disk is left open, so that it
may fail in any way.
-/

namespace GraphRepo

/-- A disk that files can be read from. -/
class ReadableDisk (σ : Type) extends Disk σ where
  readFile : (path : String) → σ → Except DiskFault String

instance : ReadableDisk FileSystem where
  readFile path fs := fs.readFile path

/-- How important an entry of a log is. -/
inductive LogLevel
  | error
  | warn
  | info
  | debug
  deriving DecidableEq, Repr

/-- What a command works on. -/
structure Terminal (σ : Type) where
  disk : σ
  network : Network
  /-- What the server has seen. -/
  seen : List ServerEvent
  log : List (LogLevel × String)
  output : String

/-- A terminal on which nothing has happened. -/
def Terminal.fresh {σ : Type} (disk : σ) (network : Network) : Terminal σ :=
  ⟨disk, network, [], [], ""⟩

def shownEntries (verbose : Bool) (log : List (LogLevel × String)) : List (LogLevel × String) :=
  log.filter fun e => verbose || e.1 ≠ .debug

/-- Why a command failed. -/
inductive CommandFault
  | configuration (fault : ConfigurationFault)
  | unreadable (file : String) (fault : DiskFault)
  | notSource (file : String)
  | generator (fault : Diagnostic)
  /-- Some repositories could not be generated. -/
  | failed (failures total : Nat)
  /-- Some files could not be written. -/
  | unwritten (count : Nat)
  | noConnection (fault : RepositoryError)
  | noAnswer (fault : RepositoryError)
  | noRows
  | badRow (fault : RepositoryError)
  /-- Everything stops. -/
  | abort (a : Abort)

/-- What a fault of the configuration is to a command. A variable that cannot be read stops
everything. -/
def CommandFault.ofConfiguration : ConfigurationFault → CommandFault
  | .cut fault => .abort ⟨fault.message⟩
  | fault => .configuration fault

/-- What a fault of an address is to a command. An address without a host stops everything. -/
def CommandFault.ofAddress : AddressFault → CommandFault
  | .noHost => .abort ⟨AddressFault.noHost.message⟩
  | fault => .noConnection (.connection fault.message)

def CommandFault.messages : CommandFault → List String
  | .configuration fault => [fault.message]
  | .unreadable file fault => ["Failed to read " ++ file, fault.message]
  | .notSource file => ["Failed to parse " ++ file]
  | .generator fault => [fault.message]
  | .failed failures total =>
    [toString failures ++ " of " ++ toString total ++ " repository trait(s) failed"]
  | .unwritten count => ["Failed to write " ++ toString count ++ " generated file(s)"]
  | .noConnection fault => ["Failed to connect: " ++ fault.message]
  | .noAnswer fault => ["Query failed: " ++ fault.message]
  | .noRows => ["Server returned no rows"]
  | .badRow fault => [fault.message]
  | .abort a => [a.message]

abbrev Task (σ : Type) : Type → Type := EStateM CommandFault (Terminal σ)

namespace Task

variable {σ α : Type}

/-- The task that only has a result. -/
def ofExcept : Except CommandFault α → Task σ α
  | .ok a => pure a
  | .error e => throw e

def note (level : LogLevel) (message : String) : Task σ Unit :=
  modify fun t => { t with log := t.log ++ [(level, message)] }

def printLine (text : String) : Task σ Unit :=
  modify fun t => { t with output := t.output ++ text ++ "\n" }

end Task

end GraphRepo
