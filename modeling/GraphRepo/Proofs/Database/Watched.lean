import GraphRepo.Database.Session

/-!
# Watched sessions

A session over any other that writes down every call before the other answers it. What a program
does to a session is then in the log: which calls it made, in which order and with what.
-/

namespace GraphRepo

variable {σ γ δ : Type}

/-- A call that a session sees. -/
inductive Call
  | save
  | delete
  | load
  | query (text : String) (params : Params)
  | queryForObject (text : String) (params : Params)

/-- An action that is written down. -/
def Action.logged (call : Call) (action : Action σ γ) : Action (List Call × σ) γ := fun (log, s) =>
  match action.run s with
  | .ok c s => .ok c (log ++ [call], s)
  | .error e s => .error e (log ++ [call], s)

/-- A session that writes down its calls. -/
def Session.watched (session : Session σ) : Session (List Call × σ) where
  save e a := (session.save e a).logged .save
  delete e a := (session.delete e a).logged .delete
  load e id := (session.load e id).logged .load
  query decoder text params := (session.query decoder text params).logged (.query text params)
  queryForObject decoder text params :=
    (session.queryForObject decoder text params).logged (.queryForObject text params)

/-- What is left after a single call: the log has one more call, and something is made of the
answer. An error of the session stays as it is. -/
def afterCall (log : List Call) (call : Call) (make : γ → Except RepositoryError δ) :
    EStateM.Result RepositoryError σ γ → EStateM.Result RepositoryError (List Call × σ) δ
  | .ok c s =>
    match make c with
    | .ok d => .ok d (log ++ [call], s)
    | .error e => .error e (log ++ [call], s)
  | .error e s => .error e (log ++ [call], s)

/-- An action that is written down is a single call, and its answer stays as it is. -/
theorem Action.run_logged (call : Call) (action : Action σ γ) (log : List Call) (s : σ) :
    (action.logged call).run (log, s) = afterCall log call .ok (action.run s) := by
  simp only [Action.logged, EStateM.run]
  cases action s <;> rfl

end GraphRepo
