import GraphRepo.Database.Script
import GraphRepo.Database.Session

/-!
# Watched executors

An executor over any other that writes down every statement before the other answers it. What an
action sends is then in the log, and reading rows or checking them sends nothing.
-/

namespace GraphRepo

variable {σ α β : Type}

/-- An action that sends a statement, which is written down. -/
def Action.sending (q : Sent) (action : Action σ α) : Action (List Sent × σ) α := fun (log, s) =>
  match action.run s with
  | .ok a s => .ok a (log ++ [q], s)
  | .error e s => .error e (log ++ [q], s)

/-- An executor that writes down what it is sent. -/
def Executor.watched (ex : Executor σ) : Executor (List Sent × σ) where
  execute text params := (ex.execute text params).sending ⟨.execute, text, params⟩
  run text params := (ex.run text params).sending ⟨.run, text, params⟩
  take n := fun (log, s) => (log, ex.take n s)

/-- The log that an action leaves. -/
def logOf (action : Action (List Sent × σ) α) (log : List Sent) (s : σ) : List Sent :=
  match action.run (log, s) with
  | .ok _ (log, _) => log
  | .error _ (log, _) => log

variable (log : List Sent) (s : σ)

theorem logOf_bind_ofExcept (action : Action (List Sent × σ) α)
    (f : α → Except RepositoryError β) :
    logOf (do let a ← action; Action.ofExcept (f a)) log s = logOf action log s := by
  unfold logOf
  simp only [EStateM.run, bind, EStateM.bind]
  cases action (log, s) with
  | error e left => rfl
  | ok a left =>
    dsimp only
    cases f a <;> rfl

theorem logOf_sending (q : Sent) (action : Action σ α) :
    logOf (action.sending q) log s = log ++ [q] := by
  unfold logOf Action.sending
  simp only [EStateM.run]
  cases action s <;> rfl

namespace Statement

variable (q : Statement) (ex : Executor σ)

/-- **A statement without a fault is sent once**, and one with a fault is not sent. -/
theorem logOf_run : logOf (q.run ex.watched) log s =
    if q.fault.isSome then log else log ++ [⟨.run, q.text, q.params⟩] := by
  unfold run
  cases q.fault with
  | some e => rfl
  | none => exact logOf_sending log s _ _

theorem logOf_execute : logOf (q.execute ex.watched) log s =
    if q.fault.isSome then log else log ++ [⟨.execute, q.text, q.params⟩] := by
  unfold execute
  cases q.fault with
  | some e => rfl
  | none => exact logOf_sending log s _ _

theorem logOf_reading (action : Action (List Sent × σ) α)
    (read : α → Except RepositoryError (List Row) × Nat) :
    logOf (do let a ← action; reading ex.watched (read a)) log s = logOf action log s := by
  unfold logOf reading
  simp only [EStateM.run, bind, EStateM.bind]
  cases action (log, s) with
  | error e left => rfl
  | ok a left =>
    obtain ⟨sent, state⟩ := left
    change logOf (Action.ofExcept (read a).1) sent (ex.take (read a).2 state) = sent
    cases (read a).1 <;> rfl

theorem logOf_fetchUpTo (limit : Nat) : logOf (q.fetchUpTo limit ex.watched) log s =
    if q.fault.isSome then log else log ++ [⟨.execute, q.text, q.params⟩] := by
  rw [← logOf_execute]
  exact logOf_reading log s ex (q.execute ex.watched) (RowStream.upTo limit)

end Statement

end GraphRepo
