import GraphRepo.Proofs.Database.SingleRow

/-!
# Answers of queries

A query reads its whole result before it reads any row. So an error in place of a row is told even
where an earlier row cannot be read; without one, the first row that cannot be read is told; and
without that, there is one value for each row, in order.
-/

namespace GraphRepo

variable {σ α : Type}

namespace RowStream

variable {stream : RowStream} {rows : List Row} {e : RepositoryError}

theorem all_eq_ok : stream.all.1 = .ok rows ↔ stream = rows.map .ok := by
  constructor
  · intro h
    rcases rows_or_error stream with ⟨read, rfl⟩ | ⟨read, fault, rest, rfl⟩
    · rw [all_rows] at h
      cases h
      rfl
    · rw [all_append] at h
      cases h
  · rintro rfl
    rw [all_rows]

theorem all_eq_error : stream.all.1 = .error e ↔
    ∃ (rows : List Row) (rest : RowStream), stream = rows.map .ok ++ .error e :: rest := by
  constructor
  · intro h
    rcases rows_or_error stream with ⟨read, rfl⟩ | ⟨read, fault, rest, rfl⟩
    · rw [all_rows] at h
      cases h
    · rw [all_append] at h
      cases h
      exact ⟨read, rest, rfl⟩
  · rintro ⟨read, rest, rfl⟩
    rw [all_append]
    rfl

/-- All rows as values, and how many items were read for them. -/
def decoded (decode : Decoder α) (stream : RowStream) : Except RepositoryError (List α) × Nat :=
  (stream.all.1 >>= fun rows => rows.mapM (·.decode decode), stream.all.2)

end RowStream

theorem Row.decode_eq_error {row : Row} {decode : Decoder α} {e : RepositoryError} :
    row.decode decode = .error e ↔ ∃ reason, decode row.value = .error reason ∧
      e = .decode ("failed to deserialize row: " ++ reason) := by
  unfold Row.decode
  cases decode row.value with
  | ok a => exact ⟨nofun, nofun⟩
  | error reason =>
    constructor
    · rintro ⟨⟩
      exact ⟨reason, rfl, rfl⟩
    · rintro ⟨_, ⟨⟩, rfl⟩
      rfl

/-- What the answer to a query says, with a way to read its rows. -/
structure AnswersQuery (decode : Decoder α) (stream : RowStream)
    (answer : Except RepositoryError (List α)) : Prop where
  values : ∀ as : List α, answer = .ok as ↔
    ∃ rows : List Row, stream = rows.map .ok ∧ rows.map (·.decode decode) = as.map .ok
  failure : ∀ e, answer = .error e ↔
    (∃ (rows : List Row) (rest : RowStream), stream = rows.map .ok ++ .error e :: rest) ∨
    ∃ (before : List Row) (row : Row) (after : List Row) (reason : String),
      stream = (before ++ row :: after).map .ok ∧ (∀ r ∈ before, ∃ a, r.decode decode = .ok a) ∧
      decode row.value = .error reason ∧ e = .decode ("failed to deserialize row: " ++ reason)

theorem answersQuery_decoded (decode : Decoder α) (stream : RowStream) :
    AnswersQuery decode stream (stream.decoded decode).1 where
  values as := by
    unfold RowStream.decoded
    simp only [bind_eq_ok, RowStream.all_eq_ok, mapM_eq_ok]
  failure e := by
    unfold RowStream.decoded
    simp only [bind_eq_error, RowStream.all_eq_ok, RowStream.all_eq_error, mapM_eq_error,
      Row.decode_eq_error]
    refine or_congr_right ⟨?_, ?_⟩
    · rintro ⟨rows, hrows, before, row, after, rfl, hbefore, reason, hrow, he⟩
      exact ⟨before, row, after, reason, hrows, hbefore, hrow, he⟩
    · rintro ⟨before, row, after, reason, hstream, hbefore, hrow, he⟩
      exact ⟨_, hstream, before, row, after, rfl, hbefore, reason, hrow, he⟩

/-! ## Queries of a session -/

section Queries

variable {ex : Executor σ} {s s' : σ} {text : String} {params : Params} {stream : RowStream}

theorem Session.run_query
    (h : (((Statement.ofText text).bindAll params).execute ex).run s = .ok stream s')
    (decode : Decoder α) :
    ((Session.ofExecutor ex).query decode text params).run s =
      ex.noted (stream.decoded decode) s' := by
  have hfetch : (((Statement.ofText text).bindAll params).fetchAll ex).run s =
      ex.noted stream.all s' := by
    rw [Statement.fetchAll, run_bind_ok h]
    rfl
  exact Executor.run_noted_bind hfetch fun rows => rows.mapM (·.decode decode)

theorem mapM_ignored (rows : List Row) :
    rows.mapM (·.decode Decoder.ignored) = .ok (List.replicate rows.length ()) := by
  rw [mapM_eq_ok, List.map_replicate, List.eq_replicate_iff, List.length_map]
  refine ⟨rfl, fun answer hanswer => ?_⟩
  obtain ⟨row, -, rfl⟩ := List.mem_map.1 hanswer
  rfl

/-- **A query answers with all rows or with one error.** The first error among the items of the
result comes before all that is wrong with rows, and of these the first row that cannot be read
counts. Where nothing is kept of the rows, nothing can be wrong with them. -/
theorem query_answer
    (h : (((Statement.ofText text).bindAll params).execute ex).run s = .ok stream s') :
    (∀ (α : Type) (decode : Decoder α), ∃ answer : Except RepositoryError (List α),
      ((Session.ofExecutor ex).query decode text params).run s =
        ex.noted (answer, stream.all.2) s' ∧
      AnswersQuery decode stream answer) ∧
    ∀ rows : List Row, stream = rows.map .ok →
      ((Session.ofExecutor ex).query .ignored text params).run s =
        .ok (List.replicate rows.length ()) (ex.take rows.length s') := by
  constructor
  · intro α decode
    exact ⟨_, Session.run_query h decode, answersQuery_decoded decode stream⟩
  · rintro rows rfl
    have hdecoded : RowStream.decoded .ignored (rows.map .ok) =
        (.ok (List.replicate rows.length ()), rows.length) := by
      rw [RowStream.decoded, RowStream.all_rows]
      exact congrArg (·, rows.length) (mapM_ignored rows)
    rw [Session.run_query h, hdecoded]
    rfl

/-- A database that answers with some items, before and after it was asked. -/
def Script.answering (items : RowStream) (sent : List Sent) : Script := ⟨⟨items, none, none⟩, sent, 0⟩

/-- A truth value is no text. That is told unless an error comes two rows later, and it does not
matter where no text is asked for. -/
theorem query_answer_truthValue :
    let query (decode : Decoder Json) (items : RowStream) :=
      ((Session.ofExecutor Script.executor).query decode "RETURN 1" []).run
        (Script.answering items [])
    let rows : List Row := [⟨[("n", .bool true)]⟩, ⟨[("n", .string "a")]⟩]
    let lost : RowStream := rows.map .ok ++ [.error (.internal "lost")]
    let asked (items : RowStream) (taken : Nat) : Script :=
      { Script.answering items [⟨.execute, "RETURN 1", []⟩] with taken }
    query Shape.string.decoder lost = .error (.internal "lost") (asked lost 3) ∧
    (∃ reason, query Shape.string.decoder (rows.map .ok) =
      .error (.decode ("failed to deserialize row: " ++ reason)) (asked (rows.map .ok) 2)) ∧
    ((Session.ofExecutor Script.executor).query .ignored "RETURN 1" []).run
        (Script.answering (rows.map .ok) []) = .ok [(), ()] (asked (rows.map .ok) 2) := by
  intro query rows lost asked
  have answers (items : RowStream) :=
    @query_answer Script Script.executor (Script.answering items []) (asked items 0) "RETURN 1" []
      items rfl
  refine ⟨?_, ?_, (answers _).2 rows rfl⟩
  · obtain ⟨answer, hrun, hanswer⟩ := (answers lost).1 Json Shape.string.decoder
    have hlost : answer = .error (.internal "lost") :=
      (hanswer.failure _).2 (.inl ⟨rows, [], rfl⟩)
    rw [hlost] at hrun
    exact hrun
  · obtain ⟨answer, hrun, hanswer⟩ := (answers (rows.map .ok)).1 Json Shape.string.decoder
    obtain ⟨reason, hreason⟩ : ∃ reason, Shape.string.decoder (.bool true) = .error reason :=
      ⟨_, rfl⟩
    have hfirst : answer = .error (.decode ("failed to deserialize row: " ++ reason)) := by
      refine (hanswer.failure _).2 (.inr ⟨[], _, _, reason, rfl, ?_, hreason, rfl⟩)
      exact fun _ h => by cases h
    rw [hfirst] at hrun
    exact ⟨reason, hrun⟩

end Queries

end GraphRepo
