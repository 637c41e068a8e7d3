import GraphRepo.Proofs.Bolt.NormalForm
import GraphRepo.Proofs.Bolt.SavedNode

/-!
# Statements that a server fails

A server fails a statement at once or after some records. Without its rows the statement ends in the
same error either way, with the text in it. With its rows only a failure at once does: the rows that
came before a later one are followed by an error that does not name the statement.
-/

namespace GraphRepo

/-- The failure that an answer tells, at whatever point. -/
def ServerReply.failure? : ServerReply → Option ServerFailure
  | .refused failure => some failure
  | .records _ _ failure => failure

/-- What comes of a statement that is sent for its rows. An error of the sending comes alone. -/
def received : Except RepositoryError RowStream → RowStream
  | .ok stream => stream
  | .error e => [.error e]

namespace BoltClient

/-- Which rows come of an answer that fails, and which error ends them. -/
inductive FailsAfter (text : String) : ServerReply → List Row → RepositoryError → Prop
  | atOnce (failure : ServerFailure) :
    FailsAfter text (.refused failure) [] (.query failure.message text)
  | later {fields : List String} {records : List (List BoltValue)} {shown : List Row}
    (failure : ServerFailure) : records.map (row fields) = shown.map .ok →
    FailsAfter text (.records fields records (some failure)) shown (.connection failure.message)
  /-- A record that cannot be shown hides the failure behind it. -/
  | hidden {fields : List String} {before after : List (List BoltValue)} {record : List BoltValue}
    {shown : List Row} {reason : String} (failure : ServerFailure) :
    before.map (row fields) = shown.map .ok → row fields record = .error (.decode reason) →
    FailsAfter text (.records fields (before ++ record :: after) (some failure)) shown
      (.decode reason)

theorem row_error {fields : List String} {record : List BoltValue} {e : RepositoryError}
    (h : row fields record = .error e) : ∃ reason, e = .decode reason := by
  obtain ⟨_, _, -, part, -, -, rfl⟩ := BoltValue.entriesToJson_error (map_eq_error.1 h)
  exact ⟨_, rfl⟩

theorem rows_append (fields : List String) (failure : Option ServerFailure)
    (rest : List (List BoltValue)) :
    ∀ {records : List (List BoltValue)} {shown : List Row},
      records.map (row fields) = shown.map .ok →
        rows fields failure (records ++ rest) = shown.map .ok ++ rows fields failure rest
  | [], [], _ => rfl
  | record :: records, r :: shown, h => by
    obtain ⟨hr, hrest⟩ := List.cons.inj h
    rw [List.cons_append, rows, hr, List.map_cons, List.cons_append]
    exact congrArg (.ok r :: ·) (rows_append fields failure rest hrest)

/-- **Rows come up to the failure**, or up to a record that cannot be shown. -/
theorem rows_of_failure (text : String) (fields : List String) (failure : ServerFailure)
    (records : List (List BoltValue)) :
    ∃ (shown : List Row) (e : RepositoryError),
      rows fields (some failure) records = shown.map .ok ++ [.error e] ∧
      FailsAfter text (.records fields records (some failure)) shown e := by
  rcases values_or_error (row fields) records with
    ⟨shown, hshown⟩ | ⟨before, record, after, shown, e, rfl, hshown, hrecord⟩
  · refine ⟨shown, .connection failure.message, ?_, .later failure hshown⟩
    have hrows := rows_append fields (some failure) [] hshown
    rw [List.append_nil] at hrows
    exact hrows
  · obtain ⟨reason, rfl⟩ := row_error hrecord
    refine ⟨shown, .decode reason, ?_, .hidden failure hshown hrecord⟩
    rw [rows_append fields (some failure) _ hshown, rows, hrecord]

end BoltClient

open BoltClient

/-- **A statement without rows tells each failure as an error of the statement, a statement for rows
only a failure at once.** -/
theorem failed_statement {client : BoltClient} {params : Params}
    {bolts : List (String × BoltValue)} {reply : ServerReply} {replies : List ServerReply}
    {failure : ServerFailure} (text : String) (hparams : Json.fieldsToBolt params = .ok bolts)
    (hnetwork : client.network = .server (reply :: replies))
    (hfails : reply.failure? = some failure) :
    let execution := outcome (executor.execute text params) client
    let after := client.told text bolts replies
    outcome (executor.run text params) client = (.error (.query failure.message text), after) ∧
    execution.2 = after ∧
    ∃ (rows : List Row) (e : RepositoryError),
      received execution.1 = rows.map .ok ++ [.error e] ∧ FailsAfter text reply rows e ∧
      (e = .query failure.message text ↔ reply = .refused failure) := by
  intro execution after
  have hsent : (send text params).run client = .ok reply after := run_send text hparams hnetwork
  have hrun := outcome_run text hparams hnetwork
  cases reply with
  | refused fault =>
    obtain rfl : fault = failure := Option.some.inj hfails
    have hexecution : execution = (.error (.query fault.message text), after) :=
      outcome_bind_ok hsent
    rw [hexecution]
    exact ⟨hrun, rfl, [], _, rfl, .atOnce fault, by simp⟩
  | records fields records fault =>
    obtain rfl : fault = some failure := hfails
    have hexecution : execution = (.ok (rows fields (some failure) records), after) :=
      outcome_bind_ok hsent
    rw [hexecution]
    obtain ⟨shown, e, hrows, hends⟩ := rows_of_failure text fields failure records
    refine ⟨hrun, rfl, shown, e, hrows, hends, ?_⟩
    cases hends <;> simp

/-- A client of a server with some replies. -/
def localClient (replies : List ServerReply) : BoltClient where
  address := ⟨"bolt", .name "localhost", Address.defaultSocket⟩
  user := "neo4j"
  password := ""
  network := .server replies
  connected := false
  seen := []

/-- A statement that is refused fails the same with and without its rows. -/
theorem failed_statement_refused :
    let failure : ServerFailure := ⟨"Neo.ClientError.Statement.SyntaxError", "no such clause"⟩
    let client := localClient [.refused failure]
    let params : Params := [("id", .string "u1")]
    (outcome (executor.run "FIND $id" params) client).1 =
      .error (.query failure.message "FIND $id") ∧
    received (outcome (executor.execute "FIND $id" params) client).1 =
      [.error (.query failure.message "FIND $id")] := by
  intro failure client params
  obtain ⟨hrun, -, rows, e, hreceived, hends, he⟩ :=
    @failed_statement client params [("id", .string "u1")] (.refused failure) [] failure "FIND $id"
      rfl rfl rfl
  obtain rfl := he.2 rfl
  cases hends
  exact ⟨congrArg Prod.fst hrun, hreceived⟩

/-- A division by zero in the second row is an error of the statement if its rows are not asked for,
and an error of the connection if they are. -/
theorem connection_of_late_failure :
    let failure : ServerFailure := ⟨"Neo.ClientError.Statement.ArithmeticError", "/ by zero"⟩
    let text := "UNWIND [1, 0] AS i RETURN toString(1 / i) AS n"
    let first : Row := ⟨[("n", .string "1")]⟩
    let client := localClient [.records ["n"] [[.string "1"]] (some failure)]
    let stream := received (outcome (executor.execute text []) client).1
    (outcome (executor.run text []) client).1 = .error (.query failure.message text) ∧
    stream = [.ok first, .error (.connection failure.message)] ∧
    stream ≠ [.ok first, .error (.query failure.message text)] := by
  intro failure text first client stream
  have hstream : stream = [.ok first, .error (.connection failure.message)] := rfl
  refine ⟨rfl, hstream, ?_⟩
  rw [hstream]
  simp

end GraphRepo
