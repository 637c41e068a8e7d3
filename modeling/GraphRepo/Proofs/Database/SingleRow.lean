import GraphRepo.Database.Script
import GraphRepo.Database.Session
import GraphRepo.Proofs.Outcome

/-!
# Reading no more than is needed

A result is read item by item. The first error ends the reading, a limit ends it before the item
that would exceed the limit, and what lies behind is left unread. Where there is room for one row two
items are read at most: the second only tells that there is one row too many.
-/

namespace GraphRepo

variable {σ α : Type}

/-! ## Items of a result -/

namespace RowStream

variable {limit : Nat} {stream rest : RowStream} {rows : List Row} {e : RepositoryError}

theorem rows_or_error (stream : RowStream) : (∃ rows : List Row, stream = rows.map .ok) ∨
    ∃ (rows : List Row) (e : RepositoryError) (rest : RowStream),
      stream = rows.map .ok ++ .error e :: rest := by
  rcases values_or_error id stream with
    ⟨rows, hrows⟩ | ⟨before, item, rest, rows, e, rfl, hbefore, rfl⟩
  · rw [List.map_id] at hrows
    exact .inl ⟨rows, hrows⟩
  · rw [List.map_id] at hbefore
    exact .inr ⟨rows, e, rest, by rw [hbefore]⟩

theorem all_append (rest : RowStream) : ∀ rows : List Row,
    all (rows.map .ok ++ rest) = ((all rest).1.map (rows ++ ·), (all rest).2 + rows.length)
  | [] => by
    cases h : (all rest).1 <;> simp [Except.map, Prod.ext_iff, h]
  | row :: rows => by
    have ih := all_append rest rows
    rw [List.map_cons, List.cons_append, all, ih]
    cases (all rest).1 <;> simp [Except.map, Nat.add_assoc]

theorem all_rows (rows : List Row) : all (rows.map .ok) = (.ok rows, rows.length) := by
  have h := all_append [] rows
  simpa [all, Except.map] using h

theorem upTo_of_rows (h : stream.take limit = rows.map .ok) :
    stream.upTo limit = (.ok rows, rows.length) := by
  rw [upTo, h, all_rows]

theorem upTo_of_error (h : rows.length < limit) :
    upTo limit (rows.map .ok ++ .error e :: rest) = (.error e, rows.length + 1) := by
  have hall : rows.map Except.ok = (rows.map Except.ok : RowStream).take limit := by
    rw [List.take_of_length_le]
    simpa using Nat.le_of_lt h
  obtain ⟨more, rfl⟩ := Nat.exists_eq_add_of_lt h
  have hmore : rows.length + more + 1 - rows.length = more + 1 := by omega
  rw [upTo, List.take_append, ← hall, List.length_map, hmore, List.take_succ_cons, all_append]
  simp [all, Except.map, Nat.add_comm]

theorem upTo_take (limit : Nat) (stream : RowStream) :
    upTo limit (stream.take limit) = stream.upTo limit := by
  rw [upTo, upTo, List.take_take, Nat.min_self]

theorem taken_upTo_le (limit : Nat) (stream : RowStream) : (stream.upTo limit).2 ≤ limit := by
  rw [← upTo_take]
  have hlength : (stream.take limit).length ≤ limit := List.length_take_le limit stream
  rcases rows_or_error (stream.take limit) with ⟨rows, hrows⟩ | ⟨rows, e, rest, hrows⟩
  · rw [upTo_take, upTo_of_rows hrows]
    simpa [hrows] using hlength
  · have hlt : rows.length < limit := by
      rw [hrows] at hlength
      simp only [List.length_append, List.length_map, List.length_cons] at hlength
      omega
    rw [hrows, upTo_of_error hlt]
    exact hlt

/-- The answer where there is room for one row, and how many items were read for it. -/
def single (decode : Decoder α) (context : String) (stream : RowStream) :
    Except RepositoryError (Option α) × Nat :=
  ((stream.upTo 2).1 >>= singleRow decode context, (stream.upTo 2).2)

theorem single_take (decode : Decoder α) (context : String) (stream : RowStream) :
    single decode context (stream.take 2) = stream.single decode context := by
  rw [single, single, upTo_take]

end RowStream

/-- What a reading of `limit` items at most ends in. The decompositions of a result that are named
here leave none out. -/
structure ReadsUpTo (limit : Nat) (stream : RowStream)
    (read : Except RepositoryError (List Row) × Nat) : Prop where
  bounded : read.2 ≤ limit
  rows : ∀ rows : List Row, stream.take limit = rows.map .ok → read = (.ok rows, rows.length)
  failure : ∀ (rows : List Row) (e : RepositoryError) (rest : RowStream),
    stream = rows.map .ok ++ .error e :: rest → rows.length < limit →
      read = (.error e, rows.length + 1)

theorem readsUpTo_upTo (limit : Nat) (stream : RowStream) :
    ReadsUpTo limit stream (stream.upTo limit) where
  bounded := RowStream.taken_upTo_le limit stream
  rows _ h := RowStream.upTo_of_rows h
  failure rows e rest h hlt := by
    rw [h]
    exact RowStream.upTo_of_error hlt

/-- What an answer says where there is room for one row: nothing of an empty result, the value of an
only row, and otherwise the first error, that there is a second row included. -/
structure AnswersSingle (decode : Decoder α) (context : String) (stream : RowStream)
    (read : Except RepositoryError (Option α) × Nat) : Prop where
  nothing : read.1 = .ok none ↔ stream = []
  value : ∀ a, read.1 = .ok (some a) ↔ ∃ row, stream = [.ok row] ∧ row.decode decode = .ok a
  failure : ∀ e, read.1 = .error e ↔
    (∃ row, stream = [.ok row] ∧ row.decode decode = .error e) ∨
    (∃ first second rest, stream = .ok first :: .ok second :: rest ∧
      e = .tooManyRows context 2) ∨
    (∃ rest, stream = .error e :: rest) ∨ ∃ first rest, stream = .ok first :: .error e :: rest
  taken : read.2 = match stream with
    | .error _ :: _ => 1
    | _ => min stream.length 2

theorem answersSingle_single (decode : Decoder α) (context : String) (stream : RowStream) :
    AnswersSingle decode context stream (stream.single decode context) := by
  match stream with
  | [] =>
    have hread : RowStream.single decode context [] = (.ok none, 0) := rfl
    rw [hread]
    constructor <;> simp
  | .error e :: rest =>
    have hread : RowStream.single decode context (.error e :: rest) = (.error e, 1) := rfl
    rw [hread]
    constructor <;> simp [eq_comm]
  | [.ok row] =>
    have hread : RowStream.single decode context [.ok row] = ((row.decode decode).map some, 1) := rfl
    rw [hread]
    cases h : row.decode decode <;> constructor <;> simp [Except.map, h]
  | .ok first :: .error e :: rest =>
    have hread : RowStream.single decode context (.ok first :: .error e :: rest) = (.error e, 2) := rfl
    rw [hread]
    constructor <;> simp [eq_comm]
  | .ok first :: .ok second :: rest =>
    have hread : RowStream.single decode context (.ok first :: .ok second :: rest) =
        (.error (.tooManyRows context 2), 2) := rfl
    rw [hread]
    constructor <;> simp [eq_comm]

/-! ## Statements -/

/-- What an action ends in that has read items of a result: their number is noted, and the answer
stands. -/
def Executor.noted (ex : Executor σ) (read : Except RepositoryError α × Nat) (s : σ) :
    EStateM.Result RepositoryError σ α :=
  (Action.ofExcept read.1).run (ex.take read.2 s)

section Answers

variable {ex : Executor σ} {s s' : σ} {stream : RowStream}

theorem Statement.run_fetchUpTo {q : Statement} (h : (q.execute ex).run s = .ok stream s')
    (limit : Nat) : (q.fetchUpTo limit ex).run s = ex.noted (stream.upTo limit) s' := by
  rw [fetchUpTo, run_bind_ok h]
  rfl

/-- What is made of the items that were read changes the answer and not what is noted. -/
theorem Executor.run_noted_bind {β : Type} {action : Action σ β}
    {read : Except RepositoryError β × Nat} (h : action.run s = ex.noted read s')
    (f : β → Except RepositoryError α) :
    (do let b ← action; Action.ofExcept (f b)).run s = ex.noted (read.1 >>= f, read.2) s' := by
  unfold Executor.noted at *
  cases hread : read.1 with
  | error e =>
    rw [hread] at h
    exact run_bind_error h
  | ok b =>
    rw [hread] at h
    exact run_bind_ok h

theorem Statement.run_single {q : Statement} (h : (q.execute ex).run s = .ok stream s')
    (decode : Decoder α) (context : String) :
    (do let rows ← q.fetchUpTo 2 ex; Action.ofExcept (singleRow decode context rows)).run s =
      ex.noted (stream.single decode context) s' :=
  Executor.run_noted_bind (q.run_fetchUpTo h 2) (singleRow decode context)

/-- **Reading ends at the first error and at the limit, and one row needs two items.** Loading a node
and asking for an object answer as the first two items of the result say, whatever is behind them,
and no more than these are read. -/
theorem bounded_reading (ex : Executor σ) (s s' : σ) (stream : RowStream) :
    (∀ (q : Statement) (limit : Nat), (q.execute ex).run s = .ok stream s' →
      ∃ read, (q.fetchUpTo limit ex).run s = ex.noted read s' ∧ ReadsUpTo limit stream read) ∧
    (∀ (e : Entity α) (id : Datum),
      (((Statement.ofText e.loadText).param "id" id).execute ex).run s = .ok stream s' →
        ((Session.ofExecutor ex).load e id).run s =
          ex.noted (stream.single e.deserialize e.label) s') ∧
    (∀ (decode : Decoder α) (text : String) (params : Params),
      (((Statement.ofText text).bindAll params).execute ex).run s = .ok stream s' →
        ((Session.ofExecutor ex).queryForObject decode text params).run s =
          ex.noted (stream.single decode text) s') ∧
    ∀ (decode : Decoder α) (context : String),
      AnswersSingle decode context stream (stream.single decode context) ∧
      ∀ other : RowStream, other.take 2 = stream.take 2 →
        other.single decode context = stream.single decode context := by
  refine ⟨fun q limit h => ?_, fun e id h => ?_, fun decode text params h => ?_,
    fun decode context => ⟨answersSingle_single decode context stream, fun other hother => ?_⟩⟩
  · exact ⟨stream.upTo limit, q.run_fetchUpTo h limit, readsUpTo_upTo limit stream⟩
  · exact Statement.run_single h e.deserialize e.label
  · exact Statement.run_single h decode text
  · rw [← RowStream.single_take, hother, RowStream.single_take]

/-- A database that answers with two rows and then an error, before and after it was asked. -/
def Script.twoRows (sent : List Sent) : Script :=
  ⟨⟨[.ok ⟨[]⟩, .ok ⟨[]⟩, .error (.connection "lost")], none, none⟩, sent, 0⟩

/-- Loading a node does not reach the error behind the second row, reading three items does. -/
theorem bounded_reading_twoRows :
    let entity : Entity String := ⟨"User", "id", fun name => .ok (.string name), fun _ => .ok "", none⟩
    let load : Sent := ⟨.execute, entity.loadText, [("id", .string "u1")]⟩
    let all : Sent := ⟨.execute, "RETURN 1", []⟩
    ((Session.ofExecutor Script.executor).load entity (.json (.string "u1"))).run
        (Script.twoRows []) =
      .error (.tooManyRows "User" 2) { Script.twoRows [load] with taken := 2 } ∧
    ((Statement.ofText "RETURN 1").fetchUpTo 3 Script.executor).run (Script.twoRows []) =
      .error (.connection "lost") { Script.twoRows [all] with taken := 3 } := by
  intro entity load all
  have reads := @bounded_reading _ String Script.executor (Script.twoRows [])
  refine ⟨((reads (Script.twoRows [load]) _).2.1 entity (.json (.string "u1")) rfl).trans rfl, ?_⟩
  obtain ⟨read, hrun, hread⟩ := (reads (Script.twoRows [all]) _).1 (.ofText "RETURN 1") 3 rfl
  rw [hread.failure [⟨[]⟩, ⟨[]⟩] (.connection "lost") [] rfl (by decide)] at hrun
  exact hrun

end Answers

end GraphRepo
