import Mathlib.Control.Monad.Basic
import GraphRepo.Database.BaseRepository
import GraphRepo.Proofs.Json
import GraphRepo.Proofs.Outcome

/-!
# Base repositories over a store of nodes

A store keeps nodes by label and identifier, and any of its calls may fail. Whoever uses a base
repository over it sees a shelf: values by their identifiers, and nothing of labels, nodes and
decoding. Every operation is matched by one on the shelf, and so is every run of operations.
-/

namespace GraphRepo

variable {σ α β γ : Type}

/-! ## Nodes -/

inductive NodeCall
  | save (label : String) (node : Json)
  | delete (label : String) (node : Json)
  | load (label : String) (id : Json)
  | query (text : String) (params : Params)
  | queryForObject (text : String) (params : Params)
  deriving DecidableEq

/-- Nodes by label and identifier, and the calls so far. -/
structure NodeStore where
  nodes : String → Json → Option Json
  calls : List NodeCall

/-- The identifier that is read off a node; it is null where there is none. -/
def Entity.identifierOf (e : Entity α) (node : Json) : Json :=
  (node.field? e.idProperty).getD .null

namespace NodeStore

def put (label : String) (id : Json) (node : Option Json) (store : NodeStore) : NodeStore :=
  { store with nodes := fun l j => if l = label ∧ j = id then node else store.nodes l j }

/-- Takes a call, which may be one of those that fail. -/
def receive (fails : Nat → Option RepositoryError) (call : NodeCall) : Action NodeStore Unit :=
  fun store =>
    let store' := { store with calls := store.calls ++ [call] }
    match fails store.calls.length with
    | some e => .error e store'
    | none => .ok () store'

/-- The session over a store. Nodes are written and read as the entity says, `fails` tells which of
the calls fail, counted from the first, and no query has rows. -/
def session (fails : Nat → Option RepositoryError) : Session NodeStore where
  save e a := do
    let node ← Action.ofExcept ((e.serialize a).mapError .unwritten)
    receive fails (.save e.label node)
    modify (put e.label (e.identifierOf node) (some node))
  delete e a := do
    let node ← Action.ofExcept ((e.serialize a).mapError .unwritten)
    receive fails (.delete e.label node)
    modify (put e.label (e.identifierOf node) none)
  load e id := do
    let id ← Action.ofExcept id.toParameter
    receive fails (.load e.label id)
    match (← get).nodes e.label id with
    | none => return none
    | some node => Action.ofExcept (((e.deserialize node).mapError .decode).map some)
  query _ text params := do
    receive fails (.query text params)
    return []
  queryForObject _ text params := do
    receive fails (.queryForObject text params)
    return none

end NodeStore

/-! ## Operations -/

inductive Operation (α : Type)
  | create (a : α)
  | update (a : α)
  | findById (id : Datum)
  | deleteById (id : Datum)
  | delete (a : α)

inductive Answer (α : Type)
  | value (a : α)
  | found (a : Option α)
  | done
  deriving DecidableEq

/-- What an action ends in, and the state it leaves. -/
def outcome (action : Action σ β) (s : σ) : Except RepositoryError β × σ :=
  match action.run s with
  | .ok b s => (.ok b, s)
  | .error e s => (.error e, s)

def Operation.perform (r : BaseRepository σ α) (op : Operation α) :
    σ → Except RepositoryError (Answer α) × σ :=
  outcome <| match op with
    | .create a => do return .value (← r.create a)
    | .update a => do return .value (← r.update a)
    | .findById id => do return .found (← r.findById id)
    | .deleteById id => do r.deleteById id; return .done
    | .delete a => do r.delete a; return .done

def inTurn (step : β → σ → γ × σ) : List β → σ → List γ × σ
  | [], s => ([], s)
  | b :: rest, s =>
    let left := inTurn step rest (step b s).2
    ((step b s).1 :: left.1, left.2)

/-! ## Shelves -/

/-- The values of one type by their identifiers, and the calls so far. -/
structure Shelf (α : Type) where
  values : Json → Option α
  calls : List NodeCall

namespace Shelf

def put (id : Json) (value : Option α) (shelf : Shelf α) : Shelf α :=
  { shelf with values := fun j => if j = id then value else shelf.values j }

def told (call : NodeCall) (shelf : Shelf α) : Shelf α := { shelf with calls := shelf.calls ++ [call] }

/-- Goes on after a call, unless it is one of those that fail: then nothing else happens. -/
def after (fails : Nat → Option RepositoryError) (call : NodeCall) (shelf : Shelf α)
    (next : Shelf α → Except RepositoryError γ × Shelf α) : Except RepositoryError γ × Shelf α :=
  match fails shelf.calls.length with
  | some e => (.error e, shelf.told call)
  | none => next (shelf.told call)

end Shelf

section Refinement

variable (fails : Nat → Option RepositoryError) (e : Entity α) (node : α → Json) (hook : α → α)

/-- Performs an operation on a shelf. A new value and an update are put under their identifiers and
returned, the update as the hook makes it. A value is found where it was put last, unless it was
deleted since. Deleting by an identifier looks there first, and deletes what it finds. -/
def Operation.onShelf (op : Operation α) (shelf : Shelf α) :
    Except RepositoryError (Answer α) × Shelf α :=
  match op with
  | .create a => shelf.after fails (.save e.label (node a)) fun shelf =>
    (.ok (.value a), shelf.put (e.identifierOf (node a)) (some a))
  | .update a => shelf.after fails (.save e.label (node (hook a))) fun shelf =>
    (.ok (.value (hook a)), shelf.put (e.identifierOf (node a)) (some (hook a)))
  | .findById id =>
    match id.toParameter with
    | .error refusal => (.error refusal, shelf)
    | .ok j => shelf.after fails (.load e.label j) fun shelf => (.ok (.found (shelf.values j)), shelf)
  | .deleteById id =>
    match id.toParameter with
    | .error refusal => (.error refusal, shelf)
    | .ok j => shelf.after fails (.load e.label j) fun shelf =>
      match shelf.values j with
      | none => (.ok .done, shelf)
      | some a => shelf.after fails (.delete e.label (node a)) fun shelf =>
        (.ok .done, shelf.put j none)
  | .delete a => shelf.after fails (.delete e.label (node a)) fun shelf =>
    (.ok .done, shelf.put (e.identifierOf (node a)) none)

/-- Every value is written as a node and read back from it. -/
structure Entity.RoundTrips : Prop where
  written : ∀ a, e.serialize a = .ok (node a)
  read : ∀ a, e.deserialize (node a) = .ok a

def Shelf.Filed (shelf : Shelf α) : Prop :=
  ∀ j a, shelf.values j = some a → e.identifierOf (node a) = j

/-- The store that a shelf stands for, among the nodes of other labels. -/
def Shelf.stored (others : String → Json → Option Json) (shelf : Shelf α) : NodeStore :=
  ⟨fun label j => if label = e.label then (shelf.values j).map node else others label j, shelf.calls⟩

/-- What a shelf answers, with the store that it stands for afterwards. -/
def Shelf.kept (others : String → Json → Option Json) (answer : γ × Shelf α) : γ × NodeStore :=
  (answer.1, answer.2.stored e node others)

/-- An action that makes one call: the call is written down, and unless it fails the action ends in
`b` and the store of another shelf. -/
def Makes (others : String → Json → Option Json) (call : NodeCall) (b : β) (shelf shelf' : Shelf α)
    (action : Action NodeStore β) : Prop :=
  action.run (shelf.stored e node others) =
    match fails shelf.calls.length with
    | some x => .error x ((shelf.told call).stored e node others)
    | none => .ok b (shelf'.stored e node others)

variable {fails e node hook} {others : String → Json → Option Json} {shelf shelf' : Shelf α}
  {call : NodeCall}

theorem Shelf.stored_put (id : Json) (value : Option α) (shelf : Shelf α) :
    (shelf.put id value).stored e node others =
      (shelf.stored e node others).put e.label id (value.map node) := by
  unfold stored put NodeStore.put
  congr 1
  funext label j
  by_cases hlabel : label = e.label <;> by_cases hid : j = id <;> simp [hlabel, hid]

theorem outcome_bind_ok {action : Action σ β} {f : β → Action σ γ} {s s' : σ} {b : β}
    (h : action.run s = .ok b s') : outcome (action >>= f) s = outcome (f b) s' := by
  unfold outcome
  rw [run_bind_ok h]

theorem outcome_bind_error {action : Action σ β} {f : β → Action σ γ} {s s' : σ}
    {x : RepositoryError} (h : action.run s = .error x s') :
    outcome (action >>= f) s = (.error x, s') := by
  unfold outcome
  rw [run_bind_error h]

theorem Makes.outcome_bind {action : Action NodeStore β} {b : β} {f : β → Action NodeStore γ}
    {next : Shelf α → Except RepositoryError γ × Shelf α}
    (h : Makes fails e node others call b shelf shelf' action)
    (hnext : outcome (f b) (shelf'.stored e node others) =
      Shelf.kept e node others (next (shelf.told call))) :
    outcome (action >>= f) (shelf.stored e node others) =
      Shelf.kept e node others (shelf.after fails call next) := by
  unfold Makes at h
  unfold Shelf.after
  cases hfails : fails shelf.calls.length with
  | some x =>
    rw [hfails] at h
    exact outcome_bind_error h
  | none =>
    rw [hfails] at h
    rw [outcome_bind_ok h]
    exact hnext

theorem makes_receive (shelf : Shelf α) (call : NodeCall) :
    Makes fails e node others call () shelf (shelf.told call) (NodeStore.receive fails call) := by
  unfold Makes NodeStore.receive
  cases hfails : fails shelf.calls.length <;> simp [EStateM.run, Shelf.stored, Shelf.told, hfails]

theorem Makes.bind {action : Action NodeStore β} {b : β} {c : γ} {f : β → Action NodeStore γ}
    {shelf'' : Shelf α} (h : Makes fails e node others call b shelf shelf' action)
    (hf : (f b).run (shelf'.stored e node others) = .ok c (shelf''.stored e node others)) :
    Makes fails e node others call c shelf shelf'' (action >>= f) := by
  unfold Makes at *
  cases hfails : fails shelf.calls.length with
  | some x =>
    rw [hfails] at h
    exact run_bind_error h
  | none =>
    rw [hfails] at h
    rw [run_bind_ok h]
    exact hf

theorem makes_save (hround : e.RoundTrips node) (shelf : Shelf α) (a : α) :
    Makes fails e node others (.save e.label (node a)) () shelf
      ((shelf.told (.save e.label (node a))).put (e.identifierOf (node a)) (some a))
      ((NodeStore.session fails).save e a) := by
  unfold NodeStore.session
  dsimp only
  rw [hround.written a]
  refine (makes_receive shelf _).bind ?_
  rw [Shelf.stored_put]
  rfl

theorem makes_delete (hround : e.RoundTrips node) (shelf : Shelf α) (a : α) :
    Makes fails e node others (.delete e.label (node a)) () shelf
      ((shelf.told (.delete e.label (node a))).put (e.identifierOf (node a)) none)
      ((NodeStore.session fails).delete e a) := by
  unfold NodeStore.session
  dsimp only
  rw [hround.written a]
  refine (makes_receive shelf _).bind ?_
  rw [Shelf.stored_put]
  rfl

theorem makes_load (hround : e.RoundTrips node) (shelf : Shelf α) {id : Datum} {j : Json}
    (hid : id.toParameter = .ok j) :
    Makes fails e node others (.load e.label j) (shelf.values j) shelf
      (shelf.told (.load e.label j)) ((NodeStore.session fails).load e id) := by
  unfold NodeStore.session
  dsimp only
  rw [hid]
  refine (makes_receive shelf _).bind ?_
  have hnodes : ((shelf.told (.load e.label j)).stored e node others).nodes e.label j =
      (shelf.values j).map node := if_pos rfl
  refine (run_bind_ok rfl).trans ?_
  rw [hnodes]
  cases shelf.values j with
  | none => rfl
  | some a =>
    rw [Option.map_some]
    dsimp only
    rw [hround.read a]
    rfl

/-! ## One operation -/

theorem load_refused {id : Datum} {refusal : RepositoryError}
    (hid : id.toParameter = .error refusal) (store : NodeStore) :
    ((NodeStore.session fails).load e id).run store = .error refusal store := by
  unfold NodeStore.session
  dsimp only
  rw [hid]
  rfl

/-- **An operation on a store is the operation on its shelf.** -/
theorem perform_stored (hround : e.RoundTrips node)
    (hhook : ∀ a, e.identifierOf (node (hook a)) = e.identifierOf (node a))
    (hfiled : shelf.Filed e node) (op : Operation α) :
    op.perform ⟨NodeStore.session fails, e, hook⟩ (shelf.stored e node others) =
      Shelf.kept e node others (op.onShelf fails e node hook shelf) := by
  unfold Operation.perform Operation.onShelf
  cases op with
  | create a =>
    dsimp only [BaseRepository.create]
    rw [bind_assoc]
    exact (makes_save hround shelf a).outcome_bind rfl
  | update a =>
    dsimp only [BaseRepository.update]
    rw [bind_assoc]
    refine (makes_save hround shelf (hook a)).outcome_bind ?_
    rw [hhook a]
    rfl
  | findById id =>
    dsimp only
    cases hid : id.toParameter with
    | error refusal => exact outcome_bind_error (load_refused hid _)
    | ok j => exact (makes_load hround shelf hid).outcome_bind rfl
  | deleteById id =>
    dsimp only [BaseRepository.deleteById, BaseRepository.findById, BaseRepository.delete]
    rw [bind_assoc]
    cases hid : id.toParameter with
    | error refusal => exact outcome_bind_error (load_refused hid _)
    | ok j =>
      refine (makes_load hround shelf hid).outcome_bind ?_
      have hvalues : (shelf.told (.load e.label j)).values j = shelf.values j := rfl
      rw [hvalues]
      cases hfound : shelf.values j with
      | none => rfl
      | some a =>
        -- the identifier that is read off the value is the one that was asked for
        have hown : e.identifierOf (node a) = j := hfiled j a hfound
        refine (makes_delete hround (shelf.told (.load e.label j)) a).outcome_bind ?_
        rw [hown]
        rfl
  | delete a =>
    dsimp only [BaseRepository.delete]
    exact (makes_delete hround shelf a).outcome_bind rfl

theorem Shelf.Filed.put_some (h : shelf.Filed e node) {a : α} {j : Json}
    (ha : e.identifierOf (node a) = j) : (shelf.put j (some a)).Filed e node := by
  intro j' a' hfound
  unfold Shelf.put at hfound
  by_cases hj : j' = j
  · rw [hj]
    simp only [if_pos hj, Option.some.injEq] at hfound
    rw [← hfound, ha]
  · simp only [if_neg hj] at hfound
    exact h j' a' hfound

theorem Shelf.Filed.put_none (h : shelf.Filed e node) (j : Json) :
    (shelf.put j none).Filed e node := by
  intro j' a' hfound
  unfold Shelf.put at hfound
  by_cases hj : j' = j
  · simp [hj] at hfound
  · simp only [if_neg hj] at hfound
    exact h j' a' hfound

theorem Shelf.Filed.after (h : shelf.Filed e node)
    {next : Shelf α → Except RepositoryError γ × Shelf α}
    (hnext : (next (shelf.told call)).2.Filed e node) :
    (shelf.after fails call next).2.Filed e node := by
  unfold Shelf.after
  cases fails shelf.calls.length with
  | some x => exact h
  | none => exact hnext

theorem Shelf.Filed.onShelf (h : shelf.Filed e node)
    (hhook : ∀ a, e.identifierOf (node (hook a)) = e.identifierOf (node a)) (op : Operation α) :
    (op.onShelf fails e node hook shelf).2.Filed e node := by
  have htold (shelf : Shelf α) (h : shelf.Filed e node) (call : NodeCall) :
      (shelf.told call).Filed e node := h
  unfold Operation.onShelf
  cases op with
  | create a => exact h.after ((htold shelf h _).put_some rfl)
  | update a => exact h.after ((htold shelf h _).put_some (hhook a))
  | delete a => exact h.after ((htold shelf h _).put_none _)
  | findById id =>
    dsimp only
    split
    · exact h
    · exact h.after (htold shelf h _)
  | deleteById id =>
    dsimp only
    split
    · exact h
    · refine h.after ?_
      split
      · exact htold shelf h _
      · exact (htold shelf h _).after ((htold _ (htold shelf h _) _).put_none _)

theorem Shelf.values_of_after {x : RepositoryError}
    {next : Shelf α → Except RepositoryError γ × Shelf α}
    (hnext : (next (shelf.told call)).1 = .error x →
      (next (shelf.told call)).2.values = shelf.values)
    (h : (shelf.after fails call next).1 = .error x) :
    (shelf.after fails call next).2.values = shelf.values := by
  unfold Shelf.after at *
  cases hfails : fails shelf.calls.length with
  | some y => rfl
  | none =>
    rw [hfails] at h
    exact hnext h

theorem Operation.values_of_error {x : RepositoryError} (op : Operation α)
    (h : (op.onShelf fails e node hook shelf).1 = .error x) :
    (op.onShelf fails e node hook shelf).2.values = shelf.values := by
  unfold Operation.onShelf at *
  cases op with
  | create a => exact Shelf.values_of_after nofun h
  | update a => exact Shelf.values_of_after nofun h
  | delete a => exact Shelf.values_of_after nofun h
  | findById id =>
    dsimp only at *
    cases hid : id.toParameter with
    | error refusal => rfl
    | ok j =>
      rw [hid] at h
      exact Shelf.values_of_after nofun h
  | deleteById id =>
    dsimp only at *
    cases hid : id.toParameter with
    | error refusal => rfl
    | ok j =>
      rw [hid] at h
      refine Shelf.values_of_after (fun hnext => ?_) h
      split at hnext
      · cases hnext
      · exact Shelf.values_of_after nofun hnext

theorem Operation.deleteById_absent {id : Datum} {j : Json} (hid : id.toParameter = .ok j)
    (habsent : shelf.values j = none) (hfails : fails shelf.calls.length = none) :
    (Operation.deleteById id).onShelf fails e node hook shelf =
      (.ok .done, shelf.told (.load e.label j)) := by
  have htold : (shelf.told (.load e.label j)).values j = none := habsent
  unfold Operation.onShelf
  dsimp only
  rw [hid]
  unfold Shelf.after
  rw [hfails]
  dsimp only
  rw [htold]

/-! ## Runs -/

theorem inTurn_stored (hround : e.RoundTrips node)
    (hhook : ∀ a, e.identifierOf (node (hook a)) = e.identifierOf (node a)) :
    ∀ (ops : List (Operation α)) {shelf : Shelf α}, shelf.Filed e node →
      inTurn (Operation.perform ⟨NodeStore.session fails, e, hook⟩) ops
          (shelf.stored e node others) =
        Shelf.kept e node others (inTurn (Operation.onShelf fails e node hook) ops shelf)
  | [], _, _ => rfl
  | op :: rest, shelf, hfiled => by
    have hstep : op.perform ⟨NodeStore.session fails, e, hook⟩ (shelf.stored e node others) =
        Shelf.kept e node others (op.onShelf fails e node hook shelf) :=
      perform_stored hround hhook hfiled op
    have hleft : (op.onShelf fails e node hook shelf).2.Filed e node := hfiled.onShelf hhook op
    rw [inTurn, hstep, Shelf.kept, inTurn_stored hround hhook rest hleft]
    rfl

theorem Shelf.Filed.inTurn (hhook : ∀ a, e.identifierOf (node (hook a)) = e.identifierOf (node a)) :
    ∀ (ops : List (Operation α)) {shelf : Shelf α}, shelf.Filed e node →
      (GraphRepo.inTurn (Operation.onShelf fails e node hook) ops shelf).2.Filed e node
  | [], _, h => h
  | op :: rest, _, h => Shelf.Filed.inTurn hhook rest (h.onShelf hhook op)

/-- **A base repository over a store of nodes is a shelf of values**, whatever is done and whichever
calls fail. At any time a failing operation leaves the nodes as they are, and to delete what is not
there takes one call and succeeds. -/
theorem base_repository_shelf (hround : e.RoundTrips node)
    (hhook : ∀ a, e.identifierOf (node (hook a)) = e.identifierOf (node a))
    (hfiled : shelf.Filed e node) (ops : List (Operation α)) :
    let perform := Operation.perform ⟨NodeStore.session fails, e, hook⟩
    let reached := (inTurn perform ops (shelf.stored e node others)).2
    inTurn perform ops (shelf.stored e node others) =
      Shelf.kept e node others (inTurn (Operation.onShelf fails e node hook) ops shelf) ∧
    (∀ op x left, perform op reached = (.error x, left) → left.nodes = reached.nodes) ∧
    ∀ id j, id.toParameter = .ok j → reached.nodes e.label j = none →
      fails reached.calls.length = none →
        perform (.deleteById id) reached =
          (.ok .done, { reached with calls := reached.calls ++ [.load e.label j] }) := by
  intro perform reached
  have hrun : inTurn perform ops (shelf.stored e node others) =
      Shelf.kept e node others (inTurn (Operation.onShelf fails e node hook) ops shelf) :=
    inTurn_stored hround hhook ops hfiled
  obtain ⟨shelf', hfiled', hreached⟩ : ∃ shelf' : Shelf α, shelf'.Filed e node ∧
      reached = shelf'.stored e node others :=
    ⟨_, hfiled.inTurn hhook ops, congrArg Prod.snd hrun⟩
  have hstep (op : Operation α) : perform op reached =
      Shelf.kept e node others (op.onShelf fails e node hook shelf') := by
    rw [hreached]
    exact perform_stored hround hhook hfiled' op
  refine ⟨hrun, fun op x left hleft => ?_, fun id j hid habsent hfails => ?_⟩
  · rw [hstep op] at hleft
    have hvalues := Operation.values_of_error op (congrArg Prod.fst hleft)
    have hstored : (op.onShelf fails e node hook shelf').2.stored e node others = left :=
      congrArg Prod.snd hleft
    rw [← hstored, hreached]
    unfold Shelf.stored
    rw [hvalues]
  · rw [hreached] at habsent hfails
    have hvalues : shelf'.values j = none := by
      simpa [Shelf.stored] using habsent
    rw [hstep, Operation.deleteById_absent hid hvalues hfails, hreached]
    rfl

end Refinement

/-- The node of a user with an identifier and a name. -/
def userNode (user : String × String) : Json :=
  .object [("id", .string user.1), ("name", .string user.2)]

def userEntity : Entity (String × String) where
  label := "User"
  idProperty := "id"
  serialize user := .ok (userNode user)
  deserialize node :=
    match node.field? "id", node.field? "name" with
    | some (.string id), some (.string name) => .ok (id, name)
    | _, _ => .error "not a user"
  hook := none

/-- The third call fails, so the user that was to be deleted is still there. -/
theorem base_repository_shelf_user :
    let fails (n : Nat) : Option RepositoryError := if n = 2 then some (.connection "lost") else none
    let hook (user : String × String) : String × String := (user.1, user.2 ++ "!")
    let id (s : String) : Datum := .json (.string s)
    (inTurn (Operation.perform ⟨NodeStore.session fails, userEntity, hook⟩)
        [.create ("u1", "Ada"), .update ("u1", "Ada"), .deleteById (id "u1"), .findById (id "u1"),
          .deleteById (id "u2"), .delete ("u1", "Ada"), .findById (id "u1")]
        ⟨fun _ _ => none, []⟩).1 =
      [.ok (.value ("u1", "Ada")), .ok (.value ("u1", "Ada!")), .error (.connection "lost"),
        .ok (.found (some ("u1", "Ada!"))), .ok .done, .ok .done, .ok (.found none)] := by
  intro fails hook id
  have hround : userEntity.RoundTrips userNode := ⟨fun _ => rfl, fun _ => rfl⟩
  have hhook : ∀ user, userEntity.identifierOf (userNode (hook user)) =
      userEntity.identifierOf (userNode user) := fun _ => rfl
  have hfiled : Shelf.Filed userEntity userNode ⟨fun _ => none, []⟩ := fun _ _ h => nomatch h
  have hempty : (⟨fun _ _ => none, []⟩ : NodeStore) =
      Shelf.stored userEntity userNode (fun _ _ => none) ⟨fun _ => none, []⟩ := by
    unfold Shelf.stored
    congr 1
    funext label j
    split <;> rfl
  rw [hempty, (base_repository_shelf hround hhook hfiled _).1]
  decide +kernel

end GraphRepo
