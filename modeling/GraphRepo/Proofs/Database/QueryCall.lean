import GraphRepo.Database.Script
import GraphRepo.Proofs.Database.Container
import GraphRepo.Proofs.Database.Running
import GraphRepo.Proofs.Database.Watched
import GraphRepo.Proofs.Repository.Classification
import GraphRepo.Proofs.Table

/-!
# Calls of query methods

A query method writes its parameters in the order of their declaration and then makes one call, or
makes none if one of them cannot be written. What it returns is read off the return shape. That no
parameter is lost on the way rests on the check of the keys: two parameters never share one.
-/

namespace GraphRepo

open Source Declaration Work

variable {σ α β γ : Type}

/-! ## Keys -/

/-- **The parameters of an accepted query have different keys.** -/
theorem Accepted.nodup_keys {item : Item} {modulePath : Option String} {d : Declaration}
    {c : Classified} (h : Accepted item modulePath d c) {text : String}
    (hq : c.behavior = .query text) : (c.method.parameters.map Parameter.key).Nodup := by
  have hadmits := h.admits
  rw [hq] at hadmits
  obtain ⟨-, hkeys, -⟩ := hadmits
  exact hkeys

/-! ## The scope of a call -/

theorem lookup_map_datum (names : Parameter → String) {datum : String → Datum} {p : Parameter} :
    ∀ {ps : List Parameter}, p ∈ ps →
      (ps.map fun p => (names p, (.datum (datum (names p)) : LocalValue α β))).lookup (names p) =
        some (.datum (datum (names p)))
  | [], h => by cases h
  | q :: rest, h => by
    rw [List.map_cons, List.lookup_cons]
    by_cases heq : names p = names q
    · rw [heq, beq_self_eq_true]
    · rw [beq_false_of_ne heq]
      obtain rfl | hmem := List.mem_cons.1 h
      · exact absurd rfl heq
      · exact lookup_map_datum names hmem

/-- In a call of a query every parameter stands for its argument. -/
theorem Classified.lookup_scope {c : Classified} {text : String} (hq : c.behavior = .query text)
    (arguments : String → Datum) (given : α) {p : Parameter} (hp : p ∈ c.method.parameters) :
    (c.scope arguments given : Scope α β).lookup (plainName p.name) =
      some (.datum (arguments (plainName p.name))) := by
  unfold Classified.scope
  rw [hq]
  exact lookup_map_datum (fun p => plainName p.name) hp

/-! ## What becomes of the answer -/

theorem run_ofAction_logged (call : Call) (action : Action σ γ) (f : γ → LocalValue α β)
    (log : List Call) (s : σ) (scope : Scope α β) :
    (ofAction (f <$> action.logged call)).run ⟨(log, s), scope⟩ =
      match action.run s with
      | .ok c s => .ok (f c) ⟨(log ++ [call], s), scope⟩
      | .error e s => .error e ⟨(log ++ [call], s), scope⟩ := by
  rw [run_ofAction]
  simp only [Action.logged, EStateM.run, Functor.map, EStateM.map]
  cases action s <;> rfl

/-- What a query method does with its only call, by its return shape: `()` whatever the rows are,
all rows in the container, the value or the error that names the method, or the option. -/
def ReturnShape.answer (context : String) (session : Session σ) (decoder : Ty → Decoder β)
    (collect : List β → List β) (text : String) (params : Params) (log : List Call) (s : σ) :
    ReturnShape → EStateM.Result RepositoryError (List Call × σ) (Returned α β)
  | .void =>
    afterCall log (.query text params) (fun _ => .ok .nothing)
      ((session.query .ignored text params).run s)
  | .collection element =>
    afterCall log (.query text params) (fun rows => .ok (.collection (collect rows)))
      ((session.query (decoder element.ty) text params).run s)
  | .nonNull ty =>
    afterCall log (.queryForObject text params)
      (fun
        | some found => .ok (.value found)
        | none => .error (.notFound context))
      ((session.queryForObject (decoder ty.ty) text params).run s)
  | .nullable ty =>
    afterCall log (.queryForObject text params) (fun found => .ok (.option found))
      ((session.queryForObject (decoder ty.ty) text params).run s)

/-- A watched session sees the query that a body sends, and nothing else of the body changes. -/
theorem run_reading_watched {around : Surroundings (List Call × σ) α β} {text : String}
    {params : Params} {reading : Reading} {call : Call} {action : Action σ γ}
    {f : γ → LocalValue α β} (hsend : reading.send around text params = f <$> action.logged call)
    (log : List Call) (s : σ) (scope : Scope α β) :
    (reading.run around).run (queryFrame (log, s) text scope params) =
      match action.run s with
      | .ok c s => .ok (f c) (queryFrame (log ++ [call], s) text scope params)
      | .error e s => .error e (queryFrame (log ++ [call], s) text scope params) := by
  rw [run_reading, hsend]
  exact run_ofAction_logged call action f log s _

/-- A body that sends its query and goes on without another call leaves what it makes of the
answer. -/
theorem left_run_reading {around : Surroundings (List Call × σ) α β} {text : String}
    {params : Params} {reading : Reading} {call : Call} {action : Action σ γ}
    {f : γ → LocalValue α β} {next : LocalValue α β → Work (List Call × σ) α β (Returned α β)}
    {make : γ → Except RepositoryError (Returned α β)} {log : List Call} {scope : Scope α β}
    (hsend : reading.send around text params = f <$> action.logged call)
    (hnext : ∀ c s, left ((next (f c)).run (queryFrame (log ++ [call], s) text scope params)) =
      afterCall log call make (.ok c s)) (s : σ) :
    left ((reading.run around >>= next).run (queryFrame (log, s) text scope params)) =
      afterCall log call make (action.run s) := by
  have hrun := run_reading_watched hsend log s scope
  cases hs : action.run s with
  | ok c s' =>
    rw [hs] at hrun
    rw [run_bind_ok hrun]
    exact hnext c s'
  | error e s' =>
    rw [hs] at hrun
    rw [run_bind_error hrun]
    rfl

/-- **The last steps of a query body make its only call**, and return what the shape says. -/
theorem left_run_use (context : String) (session : Session σ) (entity : Entity α)
    (decoder : Ty → Decoder β) (collect : List β → List β) (text : String) (params : Params)
    (log : List Call) (s : σ) (scope : Scope α β) (shape : ReturnShape) :
    let around : Surroundings (List Call × σ) α β := ⟨session.watched, entity, decoder, collect⟩
    let code := (RowUse.ofShape context shape).code
    left ((do runSteps around code.steps; code.ending.run around).run
      (queryFrame (log, s) text scope params)) =
      shape.answer context session decoder collect text params log s := by
  intro around code
  simp only [code]
  cases shape with
  | void =>
    have hsend : Reading.ignored.send around text params =
        (fun _ => .ignored) <$>
          (session.query .ignored text params).logged (.query text params) := rfl
    simp only [RowUse.ofShape, RowUse.code, runSteps, Step.run, bind_assoc, pure_bind,
      ReturnShape.answer]
    refine left_run_reading hsend ?_ s
    intro rows s
    rfl
  | collection element =>
    have hsend : (Reading.every element.ty).send around text params =
        .rows <$> (session.query (decoder element.ty) text params).logged (.query text params) :=
      rfl
    simp only [RowUse.ofShape, RowUse.code, runSteps, Step.run, bind_assoc, pure_bind,
      ReturnShape.answer]
    refine left_run_reading hsend ?_ s
    intro rows s
    have hrows : (LocalValue.rows rows : LocalValue α β).rows? = some rows := rfl
    rw [Ending.run, ← bind_assoc, run_bind_ok (run_declare_lookUp hrows rowsLocal _)]
    rfl
  | nonNull ty =>
    have hsend : (Reading.single ty.ty).send around text params =
        .found <$> (session.queryForObject (decoder ty.ty) text params).logged
          (.queryForObject text params) := rfl
    simp only [RowUse.ofShape, RowUse.code, runSteps, Ending.run, pure_bind]
    refine left_run_reading hsend ?_ s
    intro found s
    cases found <;> rfl
  | nullable ty =>
    have hsend : (Reading.single ty.ty).send around text params =
        .found <$> (session.queryForObject (decoder ty.ty) text params).logged
          (.queryForObject text params) := rfl
    simp only [RowUse.ofShape, RowUse.code, runSteps, Step.run, bind_assoc, pure_bind,
      ReturnShape.answer]
    refine left_run_reading hsend ?_ s
    intro found s
    have hfound : (LocalValue.found found : LocalValue α β).returned? = some (.option found) := rfl
    rw [Ending.run, run_declare_lookUp hfound foundLocal]
    rfl

/-! ## Whole calls -/

/-- The value of a parameter as it is written for a query. -/
def Parameter.written (arguments : String → Datum) (p : Parameter) : Except RepositoryError Json :=
  (arguments (plainName p.name)).toParameter

variable {item : Item} {modulePath : Option String} {d : Declaration} {c : Classified}
  {text : String}

/-- **No parameter of an accepted query is lost or overwritten** when all are written. -/
theorem Accepted.perm_params (h : Accepted item modulePath d c) (hq : c.behavior = .query text)
    {arguments : String → Datum} {values : List Json}
    (hvalues : c.method.parameters.map (Parameter.written arguments) = values.map .ok) :
    let entries := (c.method.parameters.map Parameter.key).zip values
    (Table.setAll entries []).Perm entries ∧
      ∀ p ∈ c.method.parameters, ∃ j, p.written arguments = .ok j ∧
        (Table.setAll entries []).find? p.key = some j := by
  intro entries
  have hlength : (c.method.parameters.map Parameter.key).length = values.length := by
    have := congrArg List.length hvalues
    simpa using this
  have hkeys : entries.map Prod.fst = c.method.parameters.map Parameter.key :=
    List.map_fst_zip (Nat.le_of_eq hlength)
  have hnodup : (entries.map Prod.fst).Nodup := by
    rw [hkeys]
    exact h.nodup_keys hq
  have hperm : (Table.setAll entries []).Perm ([] ++ entries) := Table.setAll_perm hnodup
  refine ⟨hperm, fun p hp => ?_⟩
  obtain ⟨j, hj, hmem⟩ := mem_zip_values Parameter.key hvalues hp
  refine ⟨j, hj, Table.find?_of_mem ?_ (hperm.mem_iff.2 hmem)⟩
  exact (Table.keys_perm hperm).nodup_iff.2 hnodup

/-- The code of a query body: its text, its parameters and what is done with the answer. -/
theorem Classified.code_of_query (hq : c.behavior = .query text) (interface : String) :
    (c.body interface).code =
      let use := (RowUse.ofShape (interface ++ "::" ++ c.method.name) c.method.returns).code
      ⟨.letText text :: .letParams (!c.method.bindings.isEmpty) ::
        (c.method.bindings.map .insert ++ use.steps), use.ending⟩ := by
  rw [Classified.body_of_query hq]
  rfl

/-- The first two steps put the body's own names over the parameters. -/
theorem run_declarations (around : Surroundings σ α β) (growing : Bool) (rest : List Step)
    (world : σ) (scope : Scope α β) :
    (runSteps around (.letText text :: .letParams growing :: rest)).run ⟨world, scope⟩ =
      (runSteps around rest).run (queryFrame world text scope []) := by
  rw [runSteps, runSteps, Step.run, Step.run]
  unfold declare queryFrame queryScope
  rw [plainName_queryLocal, plainName_paramsLocal]
  rfl

/-- A run of a query body writes the parameters, and then uses the query. -/
theorem run_code_of_query (hq : c.behavior = .query text) (interface : String)
    (around : Surroundings σ α β) (world : σ) (scope : Scope α β) :
    let use := (RowUse.ofShape (interface ++ "::" ++ c.method.name) c.method.returns).code
    ((c.body interface).code.run around).run ⟨world, scope⟩ =
      (runSteps around (c.method.bindings.map .insert) >>= fun _ =>
        runSteps around use.steps >>= fun _ => use.ending.run around).run
        (queryFrame world text scope []) := by
  intro use
  rw [Classified.code_of_query hq, Code.run]
  rw [run_bind_congr (run_declarations around _ _ world scope), runSteps_append, bind_assoc]

/-- A parameter that has no name of the body stands for its argument while the parameters are
written. -/
theorem readable_binding (hq : c.behavior = .query text) (arguments : String → Datum) (given : α)
    {interface : String}
    (hfree : ∀ p ∈ c.method.parameters, plainName p.name ∉ (c.body interface).code.locals)
    {p : Parameter} (hp : p ∈ c.method.parameters) :
    Readable (c.scope arguments given : Scope α β) (fun b => arguments (plainName b.parameter))
      ⟨p.key, p.name⟩ := by
  have hlocals := hfree p hp
  rw [Classified.code_of_query hq] at hlocals
  simp only [Code.locals, List.flatMap_cons, Step.locals, List.cons_append, List.nil_append,
    List.mem_cons, not_or] at hlocals
  exact ⟨hlocals.1, hlocals.2.1, Classified.lookup_scope hq arguments given hp⟩

/-- **What a call of an accepted query method does.** The text is the value of the `#[query]`
literal. The parameters are written in the order of their declaration, and the first that cannot be
written ends the call before the session sees anything. Otherwise the session sees one call with
exactly one entry for each parameter, its value under its key, and the return shape says which call
it is and what becomes of the answer. Of rows that are collected, the declared container holds what
it can. -/
theorem query_call (h : Accepted item modulePath d c) (hq : c.behavior = .query text)
    (hfree : ∀ p ∈ c.method.parameters, plainName p.name ∉ (c.body d.name).code.locals)
    (session : Session σ) (entity : Entity α) (decoder : Ty → Decoder β)
    (order : β → β → Ordering) (arguments : String → Datum) (given : α) (log : List Call) (s : σ) :
    let outcome :=
      (c.call d.name session.watched entity decoder order arguments given).run (log, s)
    (∃ t m a, item = .trait t ∧ .method m ∈ t.members ∧ m.signature.name = c.method.name ∧
      m.attributes.filter (·.isNamed "query") = [a] ∧ soleString? a.payload = some text) ∧
    (∀ before p after e, c.method.parameters = before ++ p :: after →
      (∀ q ∈ before, ∃ j, q.written arguments = .ok j) → p.written arguments = .error e →
      outcome = .error e (log, s)) ∧
    (∀ values : List Json, c.method.parameters.map (Parameter.written arguments) = values.map .ok →
      ∃ params : Params, params.Perm ((c.method.parameters.map Parameter.key).zip values) ∧
        (∀ p ∈ c.method.parameters, ∃ j, p.written arguments = .ok j ∧
          params.find? p.key = some j) ∧
        outcome = c.method.returns.answer (d.name ++ "::" ++ c.method.name) session decoder
          ((containerOf c.method.signature.output).arrange order) text params log s ∧
        ∀ element rows s', c.method.returns = .collection element → Std.TransCmp order →
          (session.query (decoder element.ty) text params).run s = .ok rows s' →
          ∃ held, (containerOf c.method.signature.output).Holds order rows held ∧
            outcome = .ok (.collection held) (log ++ [.query text params], s')) := by
  intro outcome
  have houtcome : outcome = left (((c.body d.name).code.run ⟨session.watched, entity, decoder,
      (containerOf c.method.signature.output).arrange order⟩).run
        ⟨(log, s), c.scope arguments given⟩) := rfl
  rw [run_code_of_query hq] at houtcome
  have hreadable (b : Binding) (hb : b ∈ c.method.bindings) :
      Readable (c.scope arguments given : Scope α β)
        (fun b => arguments (plainName b.parameter)) b := by
    obtain ⟨p, hp, rfl⟩ := List.mem_map.1 hb
    exact readable_binding hq arguments given hfree hp
  refine ⟨?_, ?_, ?_⟩
  · obtain ⟨t, m, a, hitem, hmember, -, hname, ha, hliteral⟩ := h.query_literal hq
    exact ⟨t, m, a, hitem, hmember, hname, ha, hliteral⟩
  · intro before p after e hsplit hbefore he
    obtain ⟨values, hvalues⟩ := exists_values hbefore
    have hbindings : c.method.bindings = (before.map fun p => ⟨p.key, p.name⟩) ++
        ⟨p.key, p.name⟩ :: after.map fun p => ⟨p.key, p.name⟩ := by
      rw [MethodDeclaration.bindings, hsplit, List.map_append, List.map_cons]
    rw [hbindings] at houtcome hreadable
    -- Values are put in one after the other, so nothing behind the first refusal is looked at.
    have hall := List.forall_mem_append.1 hreadable
    obtain ⟨reached, hrun⟩ := run_inserts_error hall.1 (by rwa [List.map_map])
      (List.forall_mem_cons.1 hall.2).1 he []
    rw [run_bind_error hrun] at houtcome
    exact houtcome
  · intro values hvalues
    obtain ⟨hperm, hfound⟩ := h.perm_params hq hvalues
    have hwritten :
        c.method.bindings.map (fun b => (arguments (plainName b.parameter)).toParameter) =
          values.map .ok := by
      rwa [MethodDeclaration.bindings, List.map_map]
    rw [run_bind_ok (run_inserts_ok hreadable hwritten)] at houtcome
    have hanswer : outcome = c.method.returns.answer (d.name ++ "::" ++ c.method.name) session
        decoder ((containerOf c.method.signature.output).arrange order) text
        (Table.setAll ((c.method.parameters.map Parameter.key).zip values) []) log s := by
      rw [houtcome, MethodDeclaration.bindings, List.map_map]
      exact left_run_use _ session entity decoder _ text _ log s _ c.method.returns
    refine ⟨_, hperm, hfound, hanswer, fun element rows s' hreturns _ hrows => ?_⟩
    refine ⟨_, Container.holds_arrange _ rows, ?_⟩
    rw [hanswer, hreturns, ReturnShape.answer, hrows]
    rfl

/-- A call of `greet` for which the session finds nothing. -/
theorem query_call_greet :
    let session := (Session.ofExecutor Script.executor).watched
    let entity : Entity Unit := ⟨"User", "id", fun _ => .ok .null, fun _ => .ok (), none⟩
    let call : Action (List Call × Script) (Returned Unit Json) :=
      greet.call "Users" session entity (fun _ => .ok) (fun _ _ => .eq)
        (fun _ => .json (.string "Ada")) ()
    (∀ p ∈ greet.method.parameters, plainName p.name ∉ (greet.body "Users").code.locals) ∧
    ∃ s, call.run ([], Script.silent) = .error (.notFound "Users::greet")
      ([.queryForObject "RETURN $name" [("name", .string "Ada")]], s) := by
  intro session entity call
  have hfree : ∀ p ∈ greet.method.parameters,
      plainName p.name ∉ (greet.body "Users").code.locals := by
    intro p hp
    rw [List.mem_singleton.1 hp]
    decide
  refine ⟨hfree, ?_⟩
  obtain ⟨-, -, hcall⟩ := query_call accepted_greet rfl hfree (Session.ofExecutor Script.executor)
    entity (fun _ => .ok) (fun _ _ => .eq) (fun _ => .json (.string "Ada")) () [] Script.silent
  obtain ⟨params, hperm, -, houtcome, -⟩ := hcall [.string "Ada"] rfl
  have hparams : params = [("name", .string "Ada")] := List.perm_singleton.1 hperm
  rw [hparams] at houtcome
  exact ⟨_, houtcome⟩

end GraphRepo
