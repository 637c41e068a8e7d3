import GraphRepo.Repository.Discovery
import GraphRepo.Repository.Generator
import GraphRepo.Repository.Sink

/-!
# Generation passes

Many repositories at once: each is generated by itself, and those that fail do not stop the others.
-/

namespace GraphRepo

open Source

/-- A repository that could not be generated. -/
structure Failure where
  interface : String
  diagnostics : List Diagnostic

/-- What a pass came to. -/
structure Report where
  units : List GeneratedUnit
  failures : List Failure

def Report.isSuccess (r : Report) : Bool := r.failures.isEmpty

/-- What an item is called in a report: a trait by its name, any other item by its first tokens. -/
def interfaceName (item : Item) (modulePath : Option String) : String :=
  qualified modulePath <| match item with
    | .trait t => t.name
    | item => " ".intercalate ((item.tokens.take 3).map TokenTree.text)

/-- Generates every repository in order. Only an abort ends the pass. -/
def Generator.run (g : Generator) : List Discovered → Except Abort Report
  | [] => .ok ⟨[], []⟩
  | d :: rest =>
    match g.generate d.item d.modulePath with
    | .error (.abort a) => .error a
    | .ok unit => (g.run rest).map fun r => { r with units := unit :: r.units }
    | .error (.diagnostics diagnostics) =>
      (g.run rest).map fun r =>
        { r with failures := ⟨interfaceName d.item d.modulePath, diagnostics⟩ :: r.failures }

/-- The files that a report was written to, and the writes that failed. -/
structure WriteSummary where
  written : List String
  errors : List SinkFault

def WriteSummary.isSuccess (s : WriteSummary) : Bool := s.errors.isEmpty

/-- Writes units in order. A write that fails does not stop the others. -/
def writeUnits {σ : Type} [Sink σ] : List GeneratedUnit → σ → WriteSummary × σ
  | [], sink => (⟨[], []⟩, sink)
  | u :: rest, sink =>
    match Sink.write u.fileName u.render sink with
    | (.ok _, sink) =>
      let (summary, sink) := writeUnits rest sink
      ({ summary with written := u.fileName :: summary.written }, sink)
    | (.error fault, sink) =>
      let (summary, sink) := writeUnits rest sink
      ({ summary with errors := fault :: summary.errors }, sink)

def Report.writeTo {σ : Type} [Sink σ] (r : Report) (sink : σ) : WriteSummary × σ :=
  writeUnits r.units sink

end GraphRepo
