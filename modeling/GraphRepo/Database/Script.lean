import GraphRepo.Database.Statement

/-!
# Scripted databases

A database that answers every statement from a script and writes down what it was sent and how much
of its answers was read.
-/

namespace GraphRepo

/-- How a scripted database answers: with rows and errors in place of rows, or not at all. -/
structure Reply where
  rows : RowStream
  failExecute : Option String
  failRun : Option String

/-- Whether rows were asked for. -/
inductive Way
  | execute
  | run
  deriving DecidableEq

/-- A statement that reached a database. -/
structure Sent where
  via : Way
  text : String
  params : Params

/-- A scripted database: its answer to the next statements, what it was sent and what was read. -/
structure Script where
  reply : Reply
  sent : List Sent
  taken : Nat

namespace Script

def silent : Script := ⟨⟨[], none, none⟩, [], 0⟩

def answer {α : Type} (via : Way) (text : String) (params : Params) (fail : Reply → Option String)
    (result : Reply → α) : Action Script α := do
  modify fun s => { s with sent := s.sent ++ [⟨via, text, params⟩] }
  let reply := (← get).reply
  match fail reply with
  | some reason => throw (.query reason text)
  | none => return result reply

def executor : Executor Script where
  execute text params := answer .execute text params Reply.failExecute Reply.rows
  run text params := answer .run text params Reply.failRun fun _ => ()
  take n s := { s with taken := s.taken + n }

end Script

end GraphRepo
