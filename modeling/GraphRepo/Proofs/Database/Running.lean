import GraphRepo.Database.Invocation
import GraphRepo.Proofs.Outcome
import GraphRepo.Proofs.Table

/-!
# Running a query body

A body that sends a query first declares the text and the parameters, then writes one parameter
after the other. Until the query is sent nothing changes but the parameters in scope, so a run of
these steps is the run of a fold, or ends at the first value that cannot be written.
-/

namespace GraphRepo

open Source Declaration

variable {σ α β γ δ : Type}

/-! ## Parts of a run -/

namespace Work

theorem run_lookUp {part : LocalValue α β → Option γ} {name : String} {frame : Frame σ α β}
    {v : LocalValue α β} {c : γ} (h : frame.scope.lookup (plainName name) = some v)
    (hc : part v = some c) : (lookUp part name).run frame = .ok c frame := by
  simp only [lookUp, EStateM.run, h, Option.bind_some, hc]

theorem run_declare_lookUp {part : LocalValue α β → Option γ} {v : LocalValue α β} {c : γ}
    (hc : part v = some c) (name : String) (frame : Frame σ α β) :
    (do declare name v; lookUp part name).run frame =
      .ok c { frame with scope := (plainName name, v) :: frame.scope } := by
  have hdeclare : (declare name v).run frame =
      .ok () { frame with scope := (plainName name, v) :: frame.scope } := rfl
  rw [run_bind_ok hdeclare]
  exact run_lookUp List.lookup_cons_self hc

end Work

open Work

theorem runSteps_append (around : Surroundings σ α β) :
    ∀ (steps more : List Step),
      runSteps around (steps ++ more) = (do runSteps around steps; runSteps around more)
  | [], more => rfl
  | step :: steps, more => by
    rw [List.cons_append, runSteps, runSteps, bind_assoc]
    exact congrArg _ (funext fun _ => runSteps_append around steps more)

/-! ## The scope of a query -/

/-- The values in scope while the parameters of a query are written. -/
def queryScope (text : String) (params : Params) (scope : Scope α β) : Scope α β :=
  (paramsLocal, .params params) :: (queryLocal, .text text) :: scope

/-- A body at work on the parameters of a query. -/
def queryFrame (world : σ) (text : String) (scope : Scope α β) (params : Params) :
    Frame σ α β := ⟨world, queryScope text params scope⟩

theorem plainName_queryLocal : plainName queryLocal = queryLocal := by decide

theorem plainName_paramsLocal : plainName paramsLocal = paramsLocal := by decide

theorem run_lookUp_queryLocal (world : σ) (text : String) (scope : Scope α β) (params : Params) :
    (lookUp LocalValue.text? queryLocal).run (queryFrame world text scope params) =
      .ok text (queryFrame world text scope params) := by
  refine run_lookUp (v := .text text) ?_ rfl
  rw [plainName_queryLocal]
  rfl

theorem run_lookUp_paramsLocal (world : σ) (text : String) (scope : Scope α β) (params : Params) :
    (lookUp LocalValue.params? paramsLocal).run (queryFrame world text scope params) =
      .ok params (queryFrame world text scope params) := by
  refine run_lookUp (v := .params params) ?_ rfl
  rw [plainName_paramsLocal]
  rfl

/-- A name that is not one of the body's own stands for what it stood for outside. -/
theorem lookup_queryScope {text : String} {params : Params} {scope : Scope α β} {name : String}
    (hq : name ≠ queryLocal) (hp : name ≠ paramsLocal) :
    (queryScope text params scope).lookup name = scope.lookup name := by
  rw [queryScope, List.lookup_cons, List.lookup_cons, beq_false_of_ne hp, beq_false_of_ne hq]

theorem run_assign_paramsLocal (world : σ) (text : String) (scope : Scope α β)
    (params next : Params) :
    (assign paramsLocal (.params next)).run (queryFrame world text scope params) =
      .ok () (queryFrame world text scope next) := by
  unfold assign
  rw [plainName_paramsLocal]
  rfl

theorem run_ofAction (action : Action σ γ) (world : σ) (scope : Scope α β) :
    (ofAction action).run (⟨world, scope⟩ : Frame σ α β) =
      match action.run world with
      | .ok x world => .ok x ⟨world, scope⟩
      | .error e world => .error e ⟨world, scope⟩ := by
  unfold ofAction EStateM.run
  beta_reduce
  cases action world <;> rfl

/-! ## Writing the parameters -/

variable {around : Surroundings σ α β} {world : σ} {text : String} {scope : Scope α β}
  {datum : Binding → Datum}

/-- A binding whose parameter holds a datum and is not hidden by a name of the body. -/
structure Readable (scope : Scope α β) (datum : Binding → Datum) (b : Binding) : Prop where
  ne_query : plainName b.parameter ≠ queryLocal
  ne_params : plainName b.parameter ≠ paramsLocal
  lookup : scope.lookup (plainName b.parameter) = some (.datum (datum b))

theorem Readable.run_lookUp {b : Binding} (h : Readable scope datum b) (params : Params) :
    (lookUp LocalValue.datum? b.parameter).run (queryFrame world text scope params) =
      .ok (datum b) (queryFrame world text scope params) :=
  Work.run_lookUp ((lookup_queryScope h.ne_query h.ne_params).trans h.lookup) rfl

/-- A binding whose value can be written adds it to the parameters. -/
theorem Readable.run_ok {b : Binding} (h : Readable scope datum b) {j : Json}
    (hj : (datum b).toParameter = .ok j) (params : Params) :
    b.run.run (queryFrame world text scope params) =
      .ok () (queryFrame world text scope (params.set b.key j)) := by
  unfold Binding.run
  rw [run_bind_ok (h.run_lookUp params), hj]
  have hwrite : (ofAction (Action.ofExcept (.ok j))).run (queryFrame world text scope params) =
      .ok j (queryFrame world text scope params) := rfl
  rw [run_bind_ok hwrite, run_bind_ok (run_lookUp_paramsLocal world text scope params)]
  exact run_assign_paramsLocal world text scope params _

/-- A binding whose value cannot be written fails and leaves the parameters as they are. -/
theorem Readable.run_error {b : Binding} (h : Readable scope datum b) {e : RepositoryError}
    (he : (datum b).toParameter = .error e) (params : Params) :
    b.run.run (queryFrame world text scope params) =
      .error e (queryFrame world text scope params) := by
  unfold Binding.run
  rw [run_bind_ok (h.run_lookUp params), he]
  exact run_bind_error rfl

/-- **A run of bindings that can all be written** writes each value under its key, in order. -/
theorem run_inserts_ok :
    ∀ {bindings : List Binding} {values : List Json} {params : Params},
      (∀ b ∈ bindings, Readable scope datum b) →
      bindings.map (fun b => (datum b).toParameter) = values.map .ok →
      (runSteps around (bindings.map .insert)).run (queryFrame world text scope params) =
        .ok () (queryFrame world text scope
          (Table.setAll ((bindings.map Binding.key).zip values) params))
  | [], [], _, _, _ => rfl
  | b :: rest, j :: values, params, hb, hj => by
    obtain ⟨hwritten, hrest⟩ := List.cons.inj hj
    obtain ⟨hb, hall⟩ := List.forall_mem_cons.1 hb
    have hstep : (Step.run around (.insert b)).run (queryFrame world text scope params) = _ :=
      hb.run_ok hwritten params
    rw [List.map_cons, runSteps, run_bind_ok hstep]
    exact run_inserts_ok hall hrest

/-- **A run of bindings ends at the first that cannot be written**, with its error. -/
theorem run_inserts_error {b : Binding} {before rest : List Binding} {values : List Json}
    {e : RepositoryError} (hbefore : ∀ b ∈ before, Readable scope datum b)
    (hvalues : before.map (fun b => (datum b).toParameter) = values.map .ok)
    (hb : Readable scope datum b) (he : (datum b).toParameter = .error e) (params : Params) :
    ∃ reached, (runSteps around ((before ++ b :: rest).map .insert)).run
      (queryFrame world text scope params) = .error e (queryFrame world text scope reached) := by
  rw [List.map_append, runSteps_append, List.map_cons, runSteps]
  rw [run_bind_ok (run_inserts_ok hbefore hvalues)]
  have hstep (reached : Params) :
      (Step.run around (.insert b)).run (queryFrame world text scope reached) =
        .error e (queryFrame world text scope reached) := hb.run_error he reached
  exact ⟨_, run_bind_error (hstep _)⟩

/-! ## Sending the query -/

theorem run_reading (reading : Reading) (params : Params) :
    (reading.run around).run (queryFrame world text scope params) =
      (ofAction (reading.send around text params)).run (queryFrame world text scope params) := by
  unfold Reading.run
  rw [run_bind_ok (run_lookUp_queryLocal world text scope params)]
  rw [run_bind_ok (run_lookUp_paramsLocal world text scope params)]

end GraphRepo
