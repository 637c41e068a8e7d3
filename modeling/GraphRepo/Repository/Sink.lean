import GraphRepo.FilePath
import GraphRepo.Table

/-!
# Sinks for generated files

A sink takes each file name once per pass. What the disk does is left open: a directory sink works
on any disk, whose operations may fail at any time.
-/

namespace GraphRepo

/-- Why a disk did not do what was asked. -/
inductive DiskFault
  | notFound
  | exists
  | notDirectory
  | isDirectory
  | nameTooLong
  /-- The name has a NUL in it. -/
  | nul
  deriving DecidableEq, Repr

def DiskFault.message : DiskFault → String
  | .notFound => "No such file or directory (os error 2)"
  | .exists => "File exists (os error 17)"
  | .notDirectory => "Not a directory (os error 20)"
  | .isDirectory => "Is a directory (os error 21)"
  | .nameTooLong => "File name too long (os error 36)"
  | .nul => "file name contained an unexpected NUL byte"

/-- Why a file was not written. -/
inductive SinkFault
  | alreadyWritten (name : String)
  | disk (path : String) (fault : DiskFault)
  deriving DecidableEq, Repr

def SinkFault.message : SinkFault → String
  | .alreadyWritten name => "`" ++ name ++ "` was already written in this pass"
  | .disk path fault => "failed to write " ++ path ++ ": " ++ fault.message

/-- An action that may fail; what it did before that stays. -/
abbrev Attempt (ε σ α : Type) := σ → Except ε α × σ

/-- Something that takes files. -/
class Sink (σ : Type) where
  write : (name contents : String) → Attempt SinkFault σ Unit

/-! ## Files in memory -/

/-- Files by name. -/
structure MemorySink where
  files : Table String

/-- Takes a file unless there is one of its name. -/
def MemorySink.write (name contents : String) : Attempt SinkFault MemorySink Unit := fun s =>
  if s.files.has name then (.error (.alreadyWritten name), s)
  else (.ok (), ⟨s.files.set name contents⟩)

instance : Sink MemorySink where
  write := MemorySink.write

/-! ## Files in a directory -/

/-- A disk: how it makes a directory with all those above it, and how it writes a file. -/
class Disk (σ : Type) where
  createDirectory : (path : String) → Attempt DiskFault σ Unit
  writeFile : (path contents : String) → Attempt DiskFault σ Unit

/-- A directory on a disk, and the names written into it so far. -/
structure DirectorySink (σ : Type) where
  root : String
  written : List String
  disk : σ

namespace DirectorySink

variable {σ : Type} [Disk σ]

/-- The paths written so far, ascending. -/
def paths (s : DirectorySink σ) : List String := s.written.map (FilePath.join s.root)

/-- Writes a file unless one of its name was written. The directory is made first; a write that
fails does not count. -/
def write (name contents : String) : Attempt SinkFault (DirectorySink σ) Unit := fun s =>
  if s.written.contains name then (.error (.alreadyWritten name), s)
  else match Disk.createDirectory s.root s.disk with
    | (.error fault, disk) => (.error (.disk s.root fault), { s with disk })
    | (.ok _, disk) =>
      let path := FilePath.join s.root name
      match Disk.writeFile path contents disk with
      | (.error fault, disk) => (.error (.disk path fault), { s with disk })
      | (.ok _, disk) => (.ok (), { s with disk, written := insertName name s.written })

instance : Sink (DirectorySink σ) where
  write := write

end DirectorySink

end GraphRepo
