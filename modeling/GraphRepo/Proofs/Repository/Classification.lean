import GraphRepo.Proofs.Repository.Bindings
import GraphRepo.Proofs.Repository.Defects

/-!
# Classified methods

Each method of a declaration is looked at by itself. It has a behavior exactly if its markers ask for
one and its parameters and return type allow it, and otherwise it has diagnostics. A declaration is
classified exactly if all its methods are, and no method changes what is said of another.
-/

namespace GraphRepo

/-- A method without a query that can save `p`: it is the only parameter and has no key, and it is
given back only if it was passed as a value. -/
structure MethodDeclaration.Saves (m : MethodDeclaration) (p : Parameter) : Prop where
  unqueried : m.markers.query = none
  parameters : m.parameters = [p]
  unbound : p.bindingKey = none
  returns : m.returns = .void ∨ (∃ ty, m.returns = .nonNull ty) ∧ p.passing = .owned

/-- The behavior that a method asks for and allows: a query before an insertion before an update. -/
inductive MethodDeclaration.Admits (m : MethodDeclaration) : Behavior → Prop
  | query {text : String} : m.markers.query = some text → (m.parameters.map Parameter.key).Nodup →
    (∀ p ∈ m.parameters, ∀ key ∈ p.bindingKey, isVariableName key ∧ key ∈ Cypher.parameters text) →
    Admits m (.query text)
  | insert {p : Parameter} : m.Saves p → m.markers.insert = true → Admits m .insert
  | update {p : Parameter} : m.Saves p → m.markers.insert = false → m.markers.update = true →
    p.passing ≠ .shared → Admits m .update

/-! ## The priority of the markers -/

section

variable {interface : String} {m : MethodDeclaration}

theorem classify_eq_query_iff {text : String} :
    classify m = .ok (.query text) ↔ m.markers.query = some text := by
  refine ⟨classify_eq_query, fun h => ?_⟩
  rw [classify, h]

theorem classify_eq_insert_iff : classify m = .ok .insert ↔
    m.markers.query = none ∧ m.markers.insert = true ∧ m.arity = 1 := by
  rw [classify]
  cases m.markers.query with
  | some text => simp
  | none =>
    dsimp only
    by_cases hinsert : m.markers.insert = true ∧ m.arity = 1
    · rw [if_pos hinsert]
      simp [hinsert]
    · rw [if_neg hinsert]
      refine iff_of_false (fun h => ?_) fun h => hinsert h.2
      split_ifs at h
      cases h

theorem classify_eq_update_iff : classify m = .ok .update ↔
    m.markers.query = none ∧ m.markers.insert = false ∧ m.markers.update = true ∧ m.arity = 1 := by
  rw [classify]
  cases m.markers.query with
  | some text => simp
  | none =>
    dsimp only
    by_cases hinsert : m.markers.insert = true ∧ m.arity = 1
    · rw [if_pos hinsert]
      simp [hinsert.1]
    · rw [if_neg hinsert]
      by_cases hupdate : m.markers.update = true ∧ m.arity = 1
      · -- With one parameter an insertion would have come first.
        have hfree : m.markers.insert = false :=
          Bool.eq_false_of_not_eq_true fun h => hinsert ⟨h, hupdate.2⟩
        rw [if_pos hupdate]
        simp [hfree, hupdate]
      · rw [if_neg hupdate]
        refine iff_of_false (fun h => ?_) fun h => hupdate h.2.2
        split_ifs at h

/-! ## What is checked of a method that saves -/

theorem saveFaults_eq_nil_iff {marker : String} {returns : ReturnShape} {p : Parameter} :
    saveFaults marker returns p = [] ↔ p.bindingKey = none ∧
      (returns = .void ∨ (∃ ty, returns = .nonNull ty) ∧ p.passing = .owned) ∧
      ¬ (marker = "update" ∧ p.passing = .shared) := by
  unfold saveFaults
  rw [List.append_eq_nil_iff, List.append_eq_nil_iff, and_assoc]
  refine and_congr ?_ (and_congr ?_ ?_)
  · cases p.bindingKey <;> simp
  · cases returns with
    | void => simp
    | nonNull ty => by_cases howned : p.passing = .owned <;> simp [howned]
    | nullable ty => simp
    | collection ty => simp
  · split_ifs with hshared <;> simp [hshared]

theorem validateSave_eq_nil {marker : String} {p : Parameter} (hp : m.parameters = [p]) :
    validateSave interface m marker = [] ↔ saveFaults marker m.returns p = [] := by
  rw [validateSave, hp]
  exact List.map_eq_nil_iff

theorem MethodDeclaration.Saves.arity {p : Parameter} (h : m.Saves p) : m.arity = 1 := by
  rw [MethodDeclaration.arity, h.parameters]
  rfl

/-- **A method passes its check with the behavior that it admits**, and with no other. -/
theorem admits_iff {b : Behavior} :
    m.Admits b ↔ classify m = .ok b ∧ validate interface m b = [] := by
  cases b with
  | query text =>
    rw [classify_eq_query_iff, validate, validateBindings_eq_nil]
    constructor
    · rintro (⟨htext, hkeys, hnamed⟩)
      exact ⟨htext, hkeys, hnamed⟩
    · rintro ⟨htext, hkeys, hnamed⟩
      exact .query htext hkeys hnamed
  | insert =>
    rw [classify_eq_insert_iff, validate]
    constructor
    · rintro (_ | ⟨hsaves, hinsert⟩)
      refine ⟨⟨hsaves.unqueried, hinsert, hsaves.arity⟩, ?_⟩
      rw [validateSave_eq_nil hsaves.parameters, saveFaults_eq_nil_iff]
      exact ⟨hsaves.unbound, hsaves.returns, fun h => absurd h.1 (by decide)⟩
    · rintro ⟨⟨hquery, hinsert, harity⟩, hvalid⟩
      obtain ⟨p, hp⟩ := List.length_eq_one_iff.1 harity
      rw [validateSave_eq_nil hp, saveFaults_eq_nil_iff] at hvalid
      obtain ⟨hunbound, hreturns, -⟩ := hvalid
      exact .insert ⟨hquery, hp, hunbound, hreturns⟩ hinsert
  | update =>
    rw [classify_eq_update_iff, validate]
    constructor
    · rintro (_ | _ | ⟨hsaves, hinsert, hupdate, hshared⟩)
      refine ⟨⟨hsaves.unqueried, hinsert, hupdate, hsaves.arity⟩, ?_⟩
      rw [validateSave_eq_nil hsaves.parameters, saveFaults_eq_nil_iff]
      exact ⟨hsaves.unbound, hsaves.returns, fun h => hshared h.2⟩
    · rintro ⟨⟨hquery, hinsert, hupdate, harity⟩, hvalid⟩
      obtain ⟨p, hp⟩ := List.length_eq_one_iff.1 harity
      rw [validateSave_eq_nil hp, saveFaults_eq_nil_iff] at hvalid
      obtain ⟨hunbound, hreturns, hshared⟩ := hvalid
      exact .update ⟨hquery, hp, hunbound, hreturns⟩ hinsert hupdate fun h => hshared ⟨rfl, h⟩

theorem check_eq_ok_iff {c : Classified} :
    check interface m = .ok c ↔ c.method = m ∧ m.Admits c.behavior := by
  rw [@admits_iff interface]
  refine ⟨check_eq_ok, ?_⟩
  rintro ⟨rfl, hclass, hvalid⟩
  rw [check, hclass]
  dsimp only
  rw [hvalid]

theorem Accepted.admits {item : Source.Item} {modulePath : Option String} {d : Declaration}
    {c : Classified} (h : Accepted item modulePath d c) : c.method.Admits c.behavior :=
  (@admits_iff d.name c.method c.behavior).2 h.checked.2

theorem diagnosticsOf_check_eq_nil :
    diagnosticsOf (check interface m) = [] ↔ ∃ b, m.Admits b := by
  rw [← (check_givesReasons interface m).exists_ok_iff]
  constructor
  · rintro ⟨c, hc⟩
    exact ⟨c.behavior, (check_eq_ok_iff.1 hc).2⟩
  · rintro ⟨b, hb⟩
    exact ⟨⟨m, b⟩, check_eq_ok_iff.2 ⟨rfl, hb⟩⟩

end

/-! ## All methods -/

/-- A declaration with one of its methods and no other. -/
def Declaration.alone (d : Declaration) (m : MethodDeclaration) : Declaration :=
  { d with methods := [m] }

theorem diagnosticsOf_classifyAll (d : Declaration) :
    diagnosticsOf (classifyAll d) = d.methods.flatMap fun m => diagnosticsOf (check d.name m) := by
  rw [classifyAll, diagnosticsOf_together, List.flatMap_map]

theorem diagnosticsOf_alone (d : Declaration) (m : MethodDeclaration) :
    diagnosticsOf (classifyAll (d.alone m)) = diagnosticsOf (check d.name m) := by
  rw [diagnosticsOf_classifyAll]
  exact List.append_nil _

theorem admits_of_classifyAll {d : Declaration} {cs : List Classified} {c : Classified}
    (h : classifyAll d = .ok cs) (hc : c ∈ cs) : c.method.Admits c.behavior := by
  have hmem : .ok c ∈ d.methods.map (check d.name) :=
    together_eq_ok.1 h ▸ List.mem_map_of_mem hc
  obtain ⟨m, -, hcheck⟩ := List.mem_map.1 hmem
  obtain ⟨rfl, hadmits⟩ := check_eq_ok_iff.1 hcheck
  exact hadmits

/-- **A declaration is classified exactly if each of its methods admits a behavior.** Then all methods
are listed in their order, each with that behavior. Otherwise the diagnostics are those of each method
by itself, in the order of the methods, and a method has none exactly if it admits a behavior. -/
theorem classified_methods (d : Declaration) :
    ((∃ cs, classifyAll d = .ok cs) ↔ ∀ m ∈ d.methods, ∃ b, m.Admits b) ∧
    (∀ m, diagnosticsOf (classifyAll (d.alone m)) = [] ↔ ∃ b, m.Admits b) ∧
    match classifyAll d with
    | .ok cs => cs.map Classified.method = d.methods ∧ ∀ c ∈ cs, c.method.Admits c.behavior
    | .error errors =>
      errors = d.methods.flatMap fun m => diagnosticsOf (classifyAll (d.alone m)) := by
  have halone (m : MethodDeclaration) :
      diagnosticsOf (classifyAll (d.alone m)) = [] ↔ ∃ b, m.Admits b := by
    rw [diagnosticsOf_alone, diagnosticsOf_check_eq_nil]
  have hall := diagnosticsOf_classifyAll d
  refine ⟨?_, halone, ?_⟩
  · rw [(classifyAll_givesReasons d).exists_ok_iff, hall, List.flatMap_eq_nil_iff]
    exact forall₂_congr fun m _ => diagnosticsOf_check_eq_nil
  · cases hclassify : classifyAll d with
    | ok cs =>
      have hchecked := together_eq_ok.1 hclassify
      refine ⟨(classifyAll_methods hclassify).symm, fun c hc => ?_⟩
      have hmem : .ok c ∈ d.methods.map (check d.name) := hchecked ▸ List.mem_map_of_mem hc
      obtain ⟨m, -, hcheck⟩ := List.mem_map.1 hmem
      obtain ⟨rfl, hadmits⟩ := check_eq_ok_iff.1 hcheck
      exact hadmits
    | error errors =>
      rw [hclassify] at hall
      simp only [diagnosticsOf_alone]
      exact hall

end GraphRepo
