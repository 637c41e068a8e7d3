import GraphRepo.Proofs.Database.Sending
import GraphRepo.Proofs.Outcome
import GraphRepo.Proofs.Table

/-!
# Building statements

A statement is built by additions, each of one parameter or of a table of them, and then delivered in
one of five ways. Whatever the additions are, they leave the text alone, the first value that cannot
be written is kept, and a parameter has the value it was given last.
-/

namespace GraphRepo.Statement

variable {σ α : Type}

inductive Addition
  | one (name : String) (value : Datum)
  | many (all : Params)

def Addition.fault : Addition → Option RepositoryError
  | .one _ value =>
    match value.toParameter with
    | .ok _ => none
    | .error e => some e
  | .many _ => none

/-- The parameters that an addition gives a value, in order. -/
def Addition.entries : Addition → List (String × Json)
  | .one name value =>
    match value.toParameter with
    | .ok j => [(name, j)]
    | .error _ => []
  | .many all => all

def add (q : Statement) : Addition → Statement
  | .one name value => q.param name value
  | .many all => q.bindAll all

/-- The ways to send a statement, by what they answer with. -/
inductive Delivery : Type → Type
  | execute : Delivery RowStream
  | fetchAll : Delivery (List Row)
  | fetchUpTo (limit : Nat) : Delivery (List Row)
  | fetchOne : Delivery (Option Row)
  | run : Delivery Unit

def deliver (q : Statement) (ex : Executor σ) : Delivery α → Action σ α
  | .execute => q.execute ex
  | .fetchAll => q.fetchAll ex
  | .fetchUpTo limit => q.fetchUpTo limit ex
  | .fetchOne => q.fetchOne ex
  | .run => q.run ex

def Delivery.via : Delivery α → Way
  | .execute | .fetchAll | .fetchUpTo _ | .fetchOne => .execute
  | .run => .run

/-! ## Additions -/

theorem add_eq (q : Statement) (addition : Addition) :
    q.add addition =
      ⟨q.text, q.params.setAll addition.entries, q.fault <|> addition.fault⟩ := by
  cases addition with
  | many all =>
    have hfault : (q.fault <|> (none : Option RepositoryError)) = q.fault := by
      cases q.fault <;> rfl
    rw [add, bindAll, Addition.entries, Addition.fault, hfault, Table.setAll]
  | one name value =>
    rw [add, param, Addition.entries, Addition.fault]
    cases value.toParameter with
    | ok j =>
      cases q.fault <;> simp [Table.setAll]
    | error e => rfl

/-- What any additions make of a statement: the values are written in order, and the first fault
stays. -/
theorem foldl_add : ∀ (additions : List Addition) (q : Statement),
    additions.foldl add q =
      ⟨q.text, q.params.setAll (additions.flatMap Addition.entries),
        q.fault <|> additions.findSome? Addition.fault⟩
  | [], q => by
    cases hfault : q.fault <;> simp [Table.setAll, ← hfault]
  | addition :: rest, q => by
    rw [List.foldl_cons, foldl_add rest, add_eq, List.flatMap_cons, List.findSome?_cons]
    cases hfault : q.fault <;> cases addition.fault <;> simp [Table.setAll]

/-! ## Deliveries -/

variable {q : Statement} (ex : Executor σ) (delivery : Delivery α)

theorem deliver_fault {e : RepositoryError} (h : q.fault = some e) (s : σ) :
    (q.deliver ex delivery).run s = .error e s := by
  have hexecute : (q.execute ex).run s = .error e s := by
    rw [execute, h]
    rfl
  cases delivery with
  | execute => exact hexecute
  | fetchAll => exact run_bind_error hexecute
  | fetchUpTo limit => exact run_bind_error hexecute
  | fetchOne => exact run_bind_error (run_bind_error hexecute)
  | run =>
    rw [deliver, run, h]
    rfl

theorem logOf_deliver (h : q.fault = none) (log : List Sent) (s : σ) :
    logOf (q.deliver ex.watched delivery) log s = log ++ [⟨delivery.via, q.text, q.params⟩] := by
  have hunfaulted : ¬ q.fault.isSome := by simp [h]
  cases delivery with
  | execute => rw [deliver, logOf_execute, if_neg hunfaulted, Delivery.via]
  | fetchAll =>
    have hreading := logOf_reading log s ex (q.execute ex.watched) RowStream.all
    rw [deliver, fetchAll, hreading, logOf_execute, if_neg hunfaulted, Delivery.via]
  | fetchUpTo limit => rw [deliver, logOf_fetchUpTo, if_neg hunfaulted, Delivery.via]
  | fetchOne =>
    have hlast := logOf_bind_ofExcept log s (q.fetchUpTo 1 ex.watched) fun rows => .ok rows.getLast?
    rw [logOf_fetchUpTo, if_neg hunfaulted] at hlast
    exact hlast
  | run => rw [deliver, logOf_run, if_neg hunfaulted, Delivery.via]

/-- **A statement is sent once with the values bound last, or not at all.** The first value that
cannot be written is the error of every delivery and nothing is sent, whatever else is bound.
Otherwise one statement is sent, with the text as it is and one entry for each name. -/
theorem deliver_built (text : String) (additions : List Addition) :
    match additions.findSome? Addition.fault with
    | some e => ∀ s,
      ((additions.foldl add (ofText text)).deliver ex delivery).run s = .error e s ∧
      ∀ log, logOf ((additions.foldl add (ofText text)).deliver ex.watched delivery) log s = log
    | none => ∃ params : Params, Ascending params.keys ∧
      (∀ name j, params.find? name = some j ↔ ∃ before after,
        additions.flatMap Addition.entries = before ++ (name, j) :: after ∧
        name ∉ after.map Prod.fst) ∧
      ∀ log s, logOf ((additions.foldl add (ofText text)).deliver ex.watched delivery) log s =
        log ++ [⟨delivery.via, text, params⟩] := by
  have hbuilt := foldl_add additions (ofText text)
  split <;> rename_i hfault <;> rw [hfault] at hbuilt <;> rw [hbuilt]
  · refine fun s => ⟨deliver_fault ex delivery rfl s, fun log => ?_⟩
    unfold logOf
    rw [deliver_fault ex.watched delivery rfl (log, s)]
  · refine ⟨Table.setAll (additions.flatMap Addition.entries) [], ?_, ?_, ?_⟩
    · exact Table.ascending_setAll _ List.Pairwise.nil
    · exact fun name j => Table.find?_setAll_eq_some
    · exact logOf_deliver ex delivery rfl

end GraphRepo.Statement
