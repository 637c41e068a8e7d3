import GraphRepo.Database.Script
import GraphRepo.Proofs.Database.Running
import GraphRepo.Proofs.Database.Watched
import GraphRepo.Proofs.Repository.Classification

/-!
# Calls of saving methods

A method that inserts or updates makes one call of the session: it saves its only parameter, an
update after the hook. The checks of its signature are what make this work: a value that is returned
was passed as a value, and a value that the hook changes was not passed as a shared reference. A
parameter behind `&mut` is not declared again, so what the hook does to it is done to the caller's
value.
-/

namespace GraphRepo

open Source Declaration Work

variable {σ α β γ : Type}

/-! ## What the checks leave known -/

/-- What is known of a method that saves its parameter: it returns nothing, or the value that it was
given as a value, and an update can change the value. -/
structure Saving (c : Classified) (p : Parameter) : Prop where
  behavior : ∀ text, c.behavior ≠ .query text
  parameters : c.method.parameters = [p]
  returns : c.method.returns = .void ∨ (∃ ty, c.method.returns = .nonNull ty) ∧ p.passing = .owned
  changeable : c.behavior = .update → p.passing ≠ .shared

theorem Accepted.saving {item : Item} {modulePath : Option String} {d : Declaration}
    {c : Classified} (h : Accepted item modulePath d c)
    (hsave : c.behavior = .insert ∨ c.behavior = .update) : ∃ p, Saving c p := by
  have hbehavior : ∀ text, c.behavior ≠ .query text := by
    intro text hq
    rw [hq] at hsave
    obtain h | h := hsave <;> cases h
  have hadmits := h.admits
  obtain hinsert | hupdate := hsave
  · rw [hinsert] at hadmits
    obtain _ | ⟨hsaves, -⟩ := hadmits
    have hinsertion : c.behavior ≠ .update := by
      rw [hinsert]
      decide
    exact ⟨_, hbehavior, hsaves.parameters, hsaves.returns, fun hu => absurd hu hinsertion⟩
  · rw [hupdate] at hadmits
    obtain _ | _ | ⟨hsaves, -, -, hshared⟩ := hadmits
    exact ⟨_, hbehavior, hsaves.parameters, hsaves.returns, fun _ => hshared⟩

/-! ## The code of a saving body -/

/-- Whether a step does more than naming values: it runs the hook or calls the session. -/
def Step.acts : Step → Bool
  | .hook .. | .save .. | .read _ | .letRead .. => true
  | .letText _ | .letParams _ | .insert _ | .rebind _ => false

/-- The steps before the value is saved. -/
def Classified.preparation (c : Classified) (p : Parameter) : List Step :=
  if c.behavior = .update then hookSteps p.name p.passing else []

/-- What a saving method returns in the place of the value it saved. -/
def ReturnShape.echoed (a : α) : ReturnShape → Returned α β
  | .nonNull _ => .entity a
  | _ => .nothing

variable {c : Classified} {p : Parameter}

theorem Saving.code (h : Saving c p) (interface : String) :
    (c.body interface).code =
      ⟨c.preparation p ++ [.save p.name p.passing],
        if c.method.returns matches .nonNull _ then .named p.name else .unit⟩ := by
  have hp := h.parameters
  unfold Classified.body Classified.preparation
  cases hb : c.behavior with
  | query text => exact absurd hb (h.behavior text)
  | insert =>
    simp only [hp]
    rfl
  | update =>
    simp only [hp]
    rfl

/-- **The body runs the hook once if it updates, then saves once**, and does nothing else. -/
theorem Saving.acts (h : Saving c p) (interface : String) :
    (c.body interface).code.steps.filter Step.acts =
      (if c.behavior = .update then [.hook p.name p.passing] else [])
        ++ [.save p.name p.passing] := by
  have hhook : [Step.hook p.name p.passing].filter Step.acts = [.hook p.name p.passing] := rfl
  have hrebind : [Step.rebind p.name].filter Step.acts = [] := rfl
  rw [h.code, List.filter_append, Classified.preparation]
  refine congrArg (· ++ _) ?_
  by_cases hu : c.behavior = .update
  · rw [if_pos hu, if_pos hu, hookSteps, List.filter_append, hhook]
    by_cases he : p.passing = .exclusive
    · rw [if_pos he, List.filter_nil, List.nil_append]
    · rw [if_neg he, hrebind, List.nil_append]
  · rw [if_neg hu, if_neg hu, List.filter_nil]

theorem Saving.scope (h : Saving c p) (arguments : String → Datum) (given : α) :
    (c.scope arguments given : Scope α β) = [(plainName p.name, .entity given)] := by
  unfold Classified.scope
  rw [h.parameters]
  cases hb : c.behavior with
  | query text => exact absurd hb (h.behavior text)
  | insert => rfl
  | update => rfl

/-! ## Running it -/

/-- The scope in which a value has been prepared: under its name, and over the parameter if the
value was declared again. -/
def Classified.preparedScope (c : Classified) (p : Parameter) (given prepared : α) : Scope α β :=
  (plainName p.name, .entity prepared) ::
    if c.behavior = .update ∧ p.passing ≠ .exclusive then [(plainName p.name, .entity given)] else []

/-- A value of a parameter that is saved: after the hook, if the method updates and the type of the
value has one. -/
def Classified.saved (c : Classified) (entity : Entity α) (given : α) : α :=
  match c.behavior, entity.hook with
  | .update, some hook => hook given
  | _, _ => given

variable {around : Surroundings σ α β} {world : σ} {name : String} {a : α} {outer : Scope α β}

theorem run_lookUp_entity (part : LocalValue α β → Option γ) {x : γ}
    (hx : part (.entity a) = some x) :
    (lookUp part name).run ⟨world, (plainName name, .entity a) :: outer⟩ =
      .ok x ⟨world, (plainName name, .entity a) :: outer⟩ :=
  run_lookUp List.lookup_cons_self hx

theorem run_rebind :
    ((Step.rebind name).run around).run ⟨world, (plainName name, .entity a) :: outer⟩ =
      .ok () ⟨world, (plainName name, .entity a) :: (plainName name, .entity a) :: outer⟩ := by
  rw [Step.run, run_bind_ok (run_lookUp_entity LocalValue.entity? rfl)]
  rfl

theorem run_hook {passing : Passing} (hpassing : passing ≠ .shared) :
    ((Step.hook name passing).run around).run ⟨world, (plainName name, .entity a) :: outer⟩ =
      .ok () ⟨world, (plainName name, .entity (around.entity.beforeUpdate a)) :: outer⟩ := by
  rw [Step.run, run_bind_ok (run_lookUp_entity LocalValue.entity? rfl), if_neg hpassing]
  have hassign : Scope.assign (plainName name) (.entity (around.entity.beforeUpdate a))
      ((plainName name, .entity a) :: outer) =
        (plainName name, .entity (around.entity.beforeUpdate a)) :: outer := if_pos rfl
  unfold Work.assign
  simp only [EStateM.run, modify, modifyGet, MonadStateOf.modifyGet, EStateM.modifyGet, hassign]

/-- The steps before the value is saved leave it prepared, and the session as it was. -/
theorem Saving.run_preparation (h : Saving c p) (given : α) :
    (runSteps around (c.preparation p)).run ⟨world, [(plainName p.name, .entity given)]⟩ =
      .ok () ⟨world, c.preparedScope p given (c.saved around.entity given)⟩ := by
  unfold Classified.preparation Classified.preparedScope
  by_cases hu : c.behavior = .update
  · have hsaved : c.saved around.entity given = around.entity.beforeUpdate given := by
      unfold Classified.saved Entity.beforeUpdate
      rw [hu]
      cases around.entity.hook <;> rfl
    have hhook := @run_hook σ α β around world p.name given
    rw [if_pos hu, hsaved, hookSteps]
    by_cases he : p.passing = .exclusive
    · rw [if_pos he, if_neg (fun hn => hn.2 he), List.nil_append, runSteps,
        run_bind_ok (hhook (h.changeable hu))]
      rfl
    · rw [if_neg he, if_pos ⟨hu, he⟩, List.singleton_append, runSteps, runSteps,
        run_bind_ok run_rebind, run_bind_ok (hhook (h.changeable hu))]
      rfl
  · have hsaved : c.saved around.entity given = given := by
      unfold Classified.saved
      cases hb : c.behavior with
      | update => exact absurd hb hu
      | _ => rfl
    rw [if_neg hu, if_neg (fun hn => hu hn.1), hsaved]
    rfl

/-- **What a saving body ends in**: the answer of the session to the value that was saved, in the
scope that the preparation left. -/
theorem Saving.run_code (h : Saving c p) (interface : String) (around : Surroundings σ α β)
    (world : σ) (given : α) :
    let saved := c.saved around.entity given
    let scope : Scope α β := c.preparedScope p given saved
    ((c.body interface).code.run around).run ⟨world, [(plainName p.name, .entity given)]⟩ =
      match (around.session.save around.entity saved).run world with
      | .ok _ world => .ok (c.method.returns.echoed saved) ⟨world, scope⟩
      | .error e world => .error e ⟨world, scope⟩ := by
  intro saved scope
  have hsave : ((Step.save p.name p.passing).run around).run ⟨world, scope⟩ =
      (ofAction (around.session.save around.entity saved)).run ⟨world, scope⟩ := by
    rw [Step.run]
    exact run_bind_ok (run_lookUp_entity LocalValue.entity? rfl)
  have hanswer := run_ofAction (around.session.save around.entity saved) world scope
  rw [h.code, Code.run]
  simp only [runSteps_append, runSteps, bind_assoc, pure_bind]
  rw [run_bind_ok (h.run_preparation given), run_bind_congr hsave]
  cases hs : (around.session.save around.entity saved).run world with
  | error e world =>
    rw [hs] at hanswer
    exact run_bind_error hanswer
  | ok u world =>
    rw [hs] at hanswer
    rw [run_bind_ok hanswer]
    obtain hvoid | ⟨⟨ty, hty⟩, -⟩ := h.returns
    · rw [hvoid]
      rfl
    · rw [hty]
      exact run_lookUp_entity LocalValue.returned? rfl

/-! ## Whole calls -/

/-- The values in scope where a run has ended, with a result or with an error. -/
def Work.endScope : EStateM.Result RepositoryError (Frame σ α β) γ → Scope α β
  | .ok _ frame => frame.scope
  | .error _ frame => frame.scope

/-- What the parameters of a method stand for where a call of it has ended. The names that the body
declared lie over them. Behind `&mut` these are the caller's own values. -/
def Classified.scopeAfter (c : Classified) (interface : String) (around : Surroundings σ α β)
    (arguments : String → Datum) (given : α) (world : σ) : Scope α β :=
  let scope := endScope (((c.body interface).code.run around).run ⟨world, c.scope arguments given⟩)
  scope.drop (scope.length - c.method.parameters.length)

variable {item : Item} {modulePath : Option String} {d : Declaration}

/-- **What a call of an accepted saving method does.** It has one parameter. The steps of its body
that do more than naming values are the hook, if it updates, and then saving; the value that is
saved is the argument, after the hook if it updates and the type of the value has one. The session
sees this one call. If that fails, its error is what the call ends with; else the call returns
nothing, or the saved value if that is its return shape. An argument behind `&mut` is the saved value
afterwards in either case. -/
theorem save_call (h : Accepted item modulePath d c)
    (hsave : c.behavior = .insert ∨ c.behavior = .update) (session : Session σ) (entity : Entity α)
    (decoder : Ty → Decoder β) (order : β → β → Ordering) (arguments : String → Datum) (given : α)
    (log : List Call) (s : σ) :
    let saved := c.saved entity given
    let around : Surroundings (List Call × σ) α β :=
      ⟨session.watched, entity, decoder, (containerOf c.method.signature.output).arrange order⟩
    ∃ p, c.method.parameters = [p] ∧
      (c.body d.name).code.steps.filter Step.acts =
        (if c.behavior = .update then [.hook p.name p.passing] else [])
          ++ [.save p.name p.passing] ∧
      (c.call d.name session.watched entity decoder order arguments given).run (log, s) =
        afterCall log .save (fun _ => .ok (c.method.returns.echoed saved))
          ((session.save entity saved).run s) ∧
      (p.passing = .exclusive →
        c.scopeAfter d.name around arguments given (log, s) =
          [(plainName p.name, .entity saved)]) := by
  intro saved around
  obtain ⟨p, hp⟩ := h.saving hsave
  have hrun := hp.run_code d.name around (log, s) given
  have hlogged : (around.session.save around.entity (c.saved around.entity given)).run (log, s) =
      afterCall log .save .ok ((session.save entity saved).run s) := Action.run_logged ..
  refine ⟨p, hp.parameters, hp.acts d.name, ?_, fun hpassing => ?_⟩
  · have hcall : (c.call d.name session.watched entity decoder order arguments given).run (log, s) =
        left (((c.body d.name).code.run around).run ⟨(log, s), c.scope arguments given⟩) := rfl
    rw [hcall, hp.scope, hrun, hlogged]
    cases (session.save entity saved).run s <;> rfl
  · have hscope : c.preparedScope p given saved =
        ([(plainName p.name, .entity saved)] : Scope α β) := by
      rw [Classified.preparedScope, if_neg (fun hn => hn.2 hpassing)]
    unfold Classified.scopeAfter
    rw [hp.scope, hrun, hlogged, hp.parameters, hscope]
    cases (session.save entity saved).run s <;> rfl

/-- `#[update] async fn touch(&self, user: &mut User) -> Result<()>`. -/
def touch : Classified where
  method := {
    name := "touch"
    signature := querySignature "touch"
      [.typed [] (.name "user") (.reference none true (plainType "User"))] (.tuple [] false)
    parameters := [⟨"user", ⟨"User", plainType "User", false, []⟩, .exclusive, none⟩]
    returns := .void
    markers := ⟨none, false, true⟩ }
  behavior := .update

/-- A repository of users whose only method is `touch`. -/
def touchTrait : Trait :=
  { queryTrait "" touch.method.signature with
    members := [.method ⟨[⟨false, ⟨false, ["update"]⟩, .nothing⟩], touch.method.signature, none⟩] }

theorem accepted_touch :
    Accepted (.trait touchTrait) none (queryDeclaration touch.method) touch := by
  refine ⟨rfl, [touch], ?_, List.mem_singleton.2 rfl⟩
  cbv

/-- A call of `touch` for a value whose hook adds an exclamation mark: the session sees the new
value and the caller has it. -/
theorem save_call_touch :
    let session := Session.ofExecutor Script.executor
    let entity : Entity String :=
      ⟨"User", "id", fun a => .ok (.object [("id", .string a)]), fun _ => .ok "", some (· ++ "!")⟩
    let call : Action (List Call × Script) (Returned String Json) :=
      touch.call "Users" session.watched entity (fun _ => .ok) (fun _ _ => .eq)
        (fun _ => .unit) "Ada"
    let around : Surroundings (List Call × Script) String Json :=
      ⟨session.watched, entity, fun _ => .ok, id⟩
    (touch.behavior = .insert ∨ touch.behavior = .update) ∧
      (∃ s, call.run ([], Script.silent) = .ok .nothing ([.save], s) ∧
        s.sent.map Sent.params =
          [[("id", .string "Ada!"), ("props", .object [("id", .string "Ada!")])]]) ∧
      touch.scopeAfter "Users" around (fun _ => .unit) "Ada" ([], Script.silent) =
        [("user", .entity "Ada!")] := by
  intro session entity call around
  have hsave : touch.behavior = .insert ∨ touch.behavior = .update := .inr rfl
  obtain ⟨p, hp, -, hcall, hafter⟩ := save_call accepted_touch hsave session entity
    (fun _ => .ok) (fun _ _ => .eq) (fun _ => .unit) "Ada" [] Script.silent
  obtain rfl := (List.cons.inj hp).1
  refine ⟨hsave, ⟨_, hcall, ?_⟩, hafter rfl⟩
  rfl

end GraphRepo
